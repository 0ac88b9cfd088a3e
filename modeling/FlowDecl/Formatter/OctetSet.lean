import FlowDecl.Formatter.Invocation
import FlowDecl.Formatter.Usage

/-!
# Sets of octets

The filter that replaces, deletes or squeezes octets.  The sets that it works on are written with
ranges, escapes, repetitions and named classes.
-/

namespace FlowDecl
namespace Formatter
namespace OctetSet

/-- A member of a set as it is written: an octet, and whether a backslash stands before it. -/
structure Written where
  octet : UInt8
  escaped : Bool := false
  deriving DecidableEq, Repr

inductive Item where
  | octet (b : UInt8)
  | range (first final : UInt8)
  | kind (name : String)
  | like (b : UInt8)
  /-- An octet as often as it is told, or as often as the other set needs. -/
  | repeated (b : UInt8) (times : Option Nat)
  deriving DecidableEq, Repr

/-- The octets of an octal escape of at most three digits, and how many digits it has. -/
def octalEscape (octets : List UInt8) : Option (UInt8 × Nat) :=
  let digits := (octets.take 3).takeWhile fun b => 48 ≤ b && b ≤ 55
  let value (digits : List UInt8) : Nat := digits.foldl (fun n b => n * 8 + (b.toNat - 48)) 0
  if digits.isEmpty then none
  else if 255 < value digits then some ((value (digits.take 2)).toUInt8, 2)
  else some ((value digits).toUInt8, digits.length)

def letterEscapes : List (UInt8 × UInt8) :=
  [(97, 7), (98, 8), (102, 12), (110, 10), (114, 13), (116, 9), (118, 11), (92, 92)]

/-- Resolves escapes in at most `fuel` octets. -/
def resolve : Nat → List UInt8 → List Written
  | 0, _ => []
  | _, [] => []
  | _, [92] => [⟨92, false⟩]
  | fuel + 1, 92 :: b :: rest =>
    match letterEscapes.lookup b, octalEscape (b :: rest) with
    | some e, _ => ⟨e, true⟩ :: resolve fuel rest
    | none, some (e, n) => ⟨e, true⟩ :: resolve fuel ((b :: rest).drop n)
    | none, none => ⟨b, true⟩ :: resolve fuel rest
  | fuel + 1, b :: rest => ⟨b, false⟩ :: resolve fuel rest

/-- What is said about a text whose escapes can be taken in two ways, or that ends with a backslash,
in at most `fuel` octets. -/
def warnings : Nat → List UInt8 → List String
  | 0, _ => []
  | _, [] => []
  | _, [92] => ["an unescaped backslash at end of string is not portable"]
  | fuel + 1, 92 :: b :: rest =>
    let isDigit (b : UInt8) : Bool := 48 ≤ b && b ≤ 55
    let digits := ((b :: rest).take 3).takeWhile isDigit
    let others := warnings fuel ((b :: rest).drop (max 1 digits.length))
    match digits with
    | [first, second, third] =>
      if first < 52 then others
      else
        let shown (digits : List UInt8) : String :=
          String.ofList (digits.map fun d => Char.ofNat d.toNat)
        ("the ambiguous octal escape \\" ++ shown digits ++
          " is being\n\tinterpreted as the 2-byte sequence \\0" ++ shown [first, second] ++ ", " ++
          shown [third]) :: warnings fuel ((b :: rest).drop 2)
    | _ => others
  | fuel + 1, _ :: rest => warnings fuel rest

/-- The members of the classes by name. -/
def kinds : List (String × (UInt8 → Bool)) :=
  let lower (b : UInt8) := 97 ≤ b && b ≤ 122
  let upper (b : UInt8) := 65 ≤ b && b ≤ 90
  let digit (b : UInt8) := 48 ≤ b && b ≤ 57
  let visible (b : UInt8) := 33 ≤ b && b ≤ 126
  [("alnum", fun b => lower b || upper b || digit b), ("alpha", fun b => lower b || upper b),
    ("blank", fun b => b = 32 || b = 9), ("cntrl", fun b => b < 32 || b = 127),
    ("digit", digit), ("graph", visible), ("lower", lower),
    ("print", fun b => visible b || b = 32),
    ("punct", fun b => visible b && !(lower b || upper b || digit b)),
    ("space", Filter.isSpace), ("upper", upper),
    ("xdigit", fun b => digit b || (97 ≤ b && b ≤ 102) || (65 ≤ b && b ≤ 70))]

def allOctets : List UInt8 :=
  (List.range 256).map Nat.toUInt8

/-- Why a set cannot be read. -/
inductive Fault where
  | unnamedKind
  | unnamedLike
  | unknownKind (name : String)
  | badLike (text : String)
  | reversed (first final : UInt8)
  | badRepetition (text : String)
  deriving DecidableEq, Repr

def shownEnd (b : UInt8) : String :=
  if 32 ≤ b && b < 127 then (Char.ofNat b.toNat).toString
  else String.ofList ('\\' :: Quoting.octal b)

def shownOctet (b : UInt8) : String :=
  match Quoting.letters.lookup b.toNat with
  | some l => String.ofList ['\\', l]
  | none => shownEnd b

/-- The words for a fault, in which names are quoted. -/
def Fault.words (quote : String → String) : Fault → String
  | .unnamedKind => "missing character class name '[::]'"
  | .unnamedLike => "missing equivalence class character '[==]'"
  | .unknownKind name => "invalid character class " ++ quote name
  | .badLike text => text ++ ": equivalence class operand must be a single character"
  | .reversed first final =>
    "range-endpoints of '" ++ shownEnd first ++ "-" ++ shownEnd final ++
      "' are in reverse collating sequence order"
  | .badRepetition text => "invalid repeat count " ++ quote text ++ " in [c*n] construct"

/-- Whether a member is an octet that no backslash stands before. -/
def Written.is (w : Written) (c : Char) : Bool :=
  !w.escaped && w.octet = c.toNat.toUInt8

/-- What stands before a mark and a closing bracket, and what follows them. -/
def upTo (mark : Char) : List Written → Option (List Written × List Written)
  | a :: b :: rest =>
    if a.is mark && b.is ']' then some ([], rest)
    else (fun r => (a :: r.1, r.2)) <$> upTo mark (b :: rest)
  | _ => none

def textOf (ws : List Written) : String :=
  String.join (ws.map fun w => shownOctet w.octet)

/-- A repetition after its opening bracket, and what follows it. -/
def readRepeated : List Written → Option (Except Fault (Item × List Written))
  | b :: star :: rest =>
    let count := rest.takeWhile fun w => !w.is ']'
    match rest.drop count.length with
    | [] => none
    | _ :: rest =>
      if !star.is '*' then none
      else if count.isEmpty then some (.ok (.repeated b.octet none, rest))
      else
        let base := if (count.headD b).octet = 48 then 8 else 10
        let digits := count.map fun w => w.octet.toNat - 48
        if count.all fun w => !w.escaped && 48 ≤ w.octet && w.octet.toNat < 48 + base then
          let n := digits.foldl (fun n d => n * base + d) 0
          some (.ok (.repeated b.octet (if n = 0 then none else some n), rest))
        else some (.error (.badRepetition (textOf count)))
  | _ => none

/-- Reads a bracket with a class after it, if there is one. -/
def readNamed (ws : List Written) : Option (Except Fault (Item × List Written)) :=
  match ws with
  | mark :: rest =>
    if mark.is ':' then
      (upTo ':' rest).map fun (name, rest) =>
        if name.isEmpty then .error .unnamedKind
        else if (kinds.lookup (textOf name)).isSome then .ok (.kind (textOf name), rest)
        else .error (.unknownKind (textOf name))
    else if mark.is '=' then
      (upTo '=' rest).map fun (name, rest) =>
        match name with
        | [] => .error .unnamedLike
        | [b] => .ok (.like b.octet, rest)
        | _ => .error (.badLike (textOf name))
    else none
  | [] => none

/-- Reads the parts of a set with at most `fuel` members. -/
def items : Nat → List Written → Except Fault (List Item)
  | 0, _ => .ok []
  | fuel + 1, ws =>
    match ws with
    | a :: b :: c :: rest => do
      let found :=
        if a.is '[' then readNamed (b :: c :: rest) <|> readRepeated (b :: c :: rest) else none
      match found with
      | some (.error fault) => throw fault
      | some (.ok (item, rest)) => return item :: (← items fuel rest)
      | none =>
        if b.is '-' then
          if c.octet < a.octet then throw (.reversed a.octet c.octet)
          return .range a.octet c.octet :: (← items fuel rest)
        else return .octet a.octet :: (← items fuel (b :: c :: rest))
    | ws => .ok (ws.map fun w => .octet w.octet)

def ofText (text : String) : Except Fault (List Item) :=
  let octets := Text.Utf8.encode text
  items (octets.length + 1) (resolve octets.length octets)

/-- The octets of a part; `fill` is how often an octet stands that is repeated as needed. -/
def Item.octets (fill : Nat) : Item → List UInt8
  | .octet b => [b]
  | .like b => [b]
  | .range first final => allOctets.filter fun b => first ≤ b && b ≤ final
  | .kind name => allOctets.filter ((kinds.lookup name).getD fun _ => false)
  | .repeated b times => List.replicate (times.getD fill) b

/-- The octets of a set that is to have a length if it can. -/
def octets (items : List Item) (wanted : Nat) : List UInt8 :=
  let bare := items.flatMap (Item.octets 0)
  items.flatMap (Item.octets (wanted - bare.length))

/-- Whether a part is repeated as often as needed. -/
def Item.isOpen : Item → Bool
  | .repeated _ none => true
  | _ => false

def Item.isKind : Item → Bool
  | .kind _ => true
  | _ => false

/-- A member of a set: whether its part of the set begins with it, and whether that part is one of
the two sorts of letters. -/
structure Member where
  begins : Bool
  cased : Bool

/-- The members of the parts of a set with its open repetitions filled. -/
def members (fill : Nat) (items : List Item) : List (List Member) :=
  (items.map fun i =>
    let cased := i = .kind "lower" || i = .kind "upper"
    (List.range (i.octets fill).length).map fun k => { begins := k = 0, cased : Member }).filter
      (!·.isEmpty)

/-- How many sorts of letters in the second of two sets stand against sorts of letters in the first
one; nothing if one of them does not. -/
def aligned : Nat → List (List Member) → List (List Member) → Option Nat
  | 0, _, _ => some 0
  | fuel + 1, a, b =>
    match a, b with
    | _, [] => some 0
    | a, (v :: second) :: restB =>
      let start := a.head?.bind List.head?
      if v.begins && v.cased then
        if start.any fun u => u.begins && u.cased then
          (· + 1) <$> aligned fuel (a.drop 1) restB
        else none
      else
        match a with
        | [] => some 0
        | first :: restA =>
          let restA := if first.length ≤ 1 then restA else first.drop 1 :: restA
          aligned fuel restA (if second.isEmpty then restB else second :: restB)
    | _, [] :: _ => some 0

/-- Leaves one of several equal octets of a set that stand side by side. -/
def squeeze (set : List UInt8) : List UInt8 → List UInt8
  | a :: b :: rest =>
    if a = b && set.contains a then squeeze set (b :: rest) else a :: squeeze set (b :: rest)
  | octets => octets

/-- The octet that another becomes, if the octets of one set become those of another. -/
def mapOctet (pairs : List (UInt8 × UInt8)) (b : UInt8) : UInt8 :=
  (pairs.lookup b).getD b

structure Work where
  complement : Bool
  deleted : Bool
  squeezed : Bool
  truncated : Bool
  deriving DecidableEq, Repr

namespace Work

/-- The first set as the work takes it. -/
def source (w : Work) (set : List Item) : List UInt8 :=
  let bare := octets set 0
  if w.complement then allOctets.filter fun b => !bare.contains b else bare

/-- Why two sets do not go together. -/
def objection (w : Work) (first second : List Item) : Option String :=
  let length := (w.source first).length
  let into := octets second length
  let fill := length - (octets second 0).length
  let foreign : Item → Bool
    | .kind name => name != "lower" && name != "upper"
    | _ => false
  let matched :=
    if w.complement || !second.any Item.isKind then some 0
    else aligned (length + into.length + 1) (members 0 first) (members fill second)
  -- Sorts of letters that stand against each other count as one member each.
  let less := 25 * matched.getD 0
  let shorter := into.length - less < length - less
  if 1 < second.countP Item.isOpen then
    some "only one [c*] repeat construct may appear in string2"
  else if w.deleted then
    if second.any Item.isOpen then
      some "the [c*] construct may appear in string2 only when translating"
    else none
  else if second.any fun i => i matches .like _ then
    some "[=c=] expressions may not appear in string2 when translating"
  else if second.any foreign then
    some ("when translating, the only character classes that may appear in\n" ++
      "string2 are 'upper' and 'lower'")
  else if matched.isNone then some "misaligned [:upper:] and/or [:lower:] construct"
  else if shorter && !w.truncated && into.isEmpty then
    some "when not truncating set1, string2 must be non-empty"
  else if shorter && !w.truncated && second.getLast?.any Item.isKind then
    some ("when translating with string1 longer than string2,\n" ++
      "the latter string must not end with a character class")
  else
    let whole := into.length = length || (shorter && !w.truncated)
    if w.complement && first.any Item.isKind && !(whole && into.eraseDups.length ≤ 1) then
      some ("when translating with complemented character classes,\n" ++
        "string2 must map all characters in the domain to one")
    else none

/-- The pairs by which octets are replaced; of several for one octet the last one counts. -/
def pairs (w : Work) (first second : List Item) : List (UInt8 × UInt8) :=
  let from_ := w.source first
  let into := octets second from_.length
  let last := into.getLast?.getD 0
  let into :=
    if w.truncated then into else into ++ List.replicate (from_.length - into.length) last
  (from_.zip into).reverse

/-- Does the work with one set. -/
def one (w : Work) (set : List Item) (input : List UInt8) : List UInt8 :=
  let octets := w.source set
  if w.deleted then input.filter fun b => !octets.contains b else squeeze octets input

/-- Does the work with two sets. -/
def two (w : Work) (first second : List Item) (input : List UInt8) : List UInt8 :=
  if w.deleted then squeeze (octets second 0) (w.one first input)
  else
    let mapped := input.map (mapOctet (w.pairs first second))
    if w.squeezed then squeeze (octets second (w.source first).length) mapped else mapped

end Work
end OctetSet

namespace Filter

open OctetSet

def trSwitches : List Switch :=
  [⟨'A', [], .never⟩, ⟨'c', ["complement"], .never⟩, ⟨'C', [], .never⟩, ⟨'d', ["delete"], .never⟩,
    ⟨'s', ["squeeze-repeats"], .never⟩, ⟨'t', ["truncate-set1"], .never⟩]

/-- Does work on octets with one or two sets. -/
def workOn (c : Call) (quote : String → String) (w : Work) (first : String) (second : Option String) : Result :=
  let said (text : String) : List (Nat × List UInt8) :=
    let octets := Text.Utf8.encode text
    (warnings octets.length octets).map fun words => (2, c.say ("warning: " ++ words))
  let refuse (said : List (Nat × List UInt8)) (words : String) : Result :=
    { status := 1, written := said ++ [(2, c.say words)], rest := c.input }
  let write (said : List (Nat × List UInt8)) (octets : List UInt8) : Result :=
    match c.inputFault with
    | some cause => refuse said ("read error: " ++ cause.words)
    | none => c.closing { written := said ++ [(1, octets)] }
  match OctetSet.ofText first with
  | .error fault => refuse (said first) (fault.words quote)
  | .ok a =>
    match second with
    | none =>
      if a.any Item.isOpen then
        refuse (said first) "the [c*] repeat construct may not appear in string1"
      else write (said first) (w.one a c.input)
    | some text =>
      let all := said first ++ said text
      match OctetSet.ofText text with
      | .error fault => refuse all (fault.words quote)
      | .ok b =>
        if a.any Item.isOpen then
          refuse all "the [c*] repeat construct may not appear in string1"
        else
          match w.objection a b with
          | some words => refuse all words
          | none => write all (w.two a b c.input)

/-- Replaces, deletes or squeezes octets. -/
def tr : Filter := fun c =>
  c.invoke trSwitches false (Usage.textOf c.program Usage.tr) fun i =>
    let w : Work :=
      { complement := i.has ['c', 'C']
        deleted := i.has ['d']
        squeezed := i.has ['s']
        truncated := i.has ['t'] }
    let quote := if i.has ['A'] then Quoting.plain else Quoting.curled
    let wantsTwo := w.deleted = w.squeezed
    let mayTakeTwo := !w.deleted || w.squeezed
    match i.operands with
    | [] => c.misuse "missing operand"
    | [text] =>
      if wantsTwo then
        c.misuse ("missing operand after " ++ quote text ++
          "\nTwo strings must be given when " ++
          if w.squeezed then "both deleting and squeezing repeats." else "translating.")
      else workOn c quote w text none
    | [first, second] =>
      if mayTakeTwo then workOn c quote w first (some second)
      else
        c.misuse ("extra operand " ++ quote second ++
          "\nOnly one string may be given when deleting without squeezing repeats.")
    | _ :: second :: third :: _ =>
      c.misuse ("extra operand " ++ quote (if mayTakeTwo then third else second))

end Filter
end Formatter
end FlowDecl
