import FlowDecl.Formatter.Invocation
import FlowDecl.Formatter.Usage

/-!
# The ends of an input

The filters that keep the beginning or the end of their input, counted in lines or octets.
-/

namespace FlowDecl
namespace Formatter
namespace Filter

/-! ## Amounts -/

/-- Why a text is no amount. -/
inductive AmountFault where
  | malformed
  | tooLarge
  deriving DecidableEq, Repr

/-- The powers of a thousand, or of 1024, that letters after an amount stand for. -/
def unitPowers : List (Char × Nat) :=
  [('k', 1), ('K', 1), ('m', 2), ('M', 2), ('G', 3), ('T', 4), ('P', 5), ('E', 6), ('Z', 7),
    ('Y', 8)]

/-- What the letters after an amount multiply it by. -/
def unit? : List Char → Option Nat
  | [] => some 1
  | ['b'] => some 512
  | c :: rest => do
    let power ← unitPowers.lookup c
    match rest with
    | [] => some (Nat.pow 1024 power)
    | ['i', 'B'] => some (Nat.pow 1024 power)
    | ['B'] => some (Nat.pow 1000 power)
    | ['D'] => some (Nat.pow 1000 power)
    | _ => none

def mostAmount : Nat := 18446744073709551615

/-- An amount with its unit; a unit alone is one of it. -/
def readAmount (text : List Char) : Except AmountFault Nat := do
  let cs := text.dropWhile fun c => c = ' ' || ('\t' ≤ c && c ≤ '\r')
  let cs :=
    match cs with
    | '+' :: d :: rest => if d.isDigit then d :: rest else cs
    | cs => cs
  let digits := cs.takeWhile Char.isDigit
  let letters := cs.drop digits.length
  if cs.isEmpty then throw .malformed
  match unit? letters with
  | none => throw .malformed
  | some unit =>
    let n := ((if digits.isEmpty then some 1 else number? digits).getD 0) * unit
    if mostAmount < n then throw .tooLarge else return n

/-! ## Cuts -/

/-- Which part of its input a cut keeps. -/
structure Cut where
  /-- Counts octets in place of lines. -/
  octets : Bool := false
  count : Nat := 10
  /-- Keeps all but `count`, or for the end of the input all from the item `count` on. -/
  inverse : Bool := false
  deriving DecidableEq, Repr

/-- The words about an amount that cannot be read. -/
def amountWords (octets : Bool) (text : List Char) (fault : AmountFault) : String :=
  let items := if octets then "bytes" else "lines"
  "invalid number of " ++ items ++ ": " ++ Quoting.curled (String.ofList text) ++
    if fault = .tooLarge then ": Value too large for defined data type" else ""

/-- The cut of a text after a switch; a mark before the amount tells that the cut is inverse. -/
def Cut.ofText (mark : Char) (octets : Bool) (text : String) : Except String Cut :=
  let cs := text.toList
  let inverse := cs.head? = some mark
  let amount := if cs.head? = some '-' then cs.drop 1 else cs
  match readAmount amount with
  | .ok count => .ok { octets, count, inverse }
  | .error fault => .error (amountWords octets amount fault)

def cutSwitches : List Switch :=
  [⟨'c', ["bytes"], .always⟩, ⟨'n', ["lines"], .always⟩, ⟨'q', ["quiet", "silent"], .never⟩,
    ⟨'v', ["verbose"], .never⟩, ⟨'z', ["zero-terminated"], .never⟩] ++
    "0123456789".toList.map fun d => ⟨d, [], .never⟩

structure CutManner where
  cut : Cut := {}
  /-- Whether titles are shown; otherwise they are shown if there are several sources. -/
  titled : Option Bool := none
  nulls : Bool := false
  /-- Waits for more at the end of a file. -/
  waits : Bool := false
  deriving DecidableEq, Repr

/-- Reads the switches one after the other; a digit is no switch. -/
def CutManner.add (c : Call) (mark : Char) (digitFault : Char → Result) (m : CutManner) :
    List (Char × String) → Except Result CutManner
  | [] => .ok m
  | (letter, value) :: rest =>
    let goOn (m : CutManner) := CutManner.add c mark digitFault m rest
    if letter = 'n' || letter = 'c' then
      match Cut.ofText mark (letter = 'c') value with
      | .ok cut =>
        -- The end of an input stays counted from its beginning.
        goOn { m with cut := { cut with inverse := cut.inverse || (mark = '+' && m.cut.inverse) } }
      | .error words => .error (c.complain words)
    else if letter = 'q' then goOn { m with titled := some false }
    else if letter = 'v' then goOn { m with titled := some true }
    else if letter = 'z' then goOn { m with nulls := true }
    else if letter = 'f' then goOn { m with waits := true }
    else if letter.isDigit then .error (digitFault letter)
    else goOn m

/-- What a cut keeps of the beginning of a list. -/
def Cut.first {α : Type} (cut : Cut) (items : List α) : List α :=
  if cut.inverse then items.take (items.length - cut.count) else items.take cut.count

/-- What a cut keeps of the end of a list. -/
def Cut.last {α : Type} (cut : Cut) (items : List α) : List α :=
  if cut.inverse then items.drop (cut.count - 1) else items.drop (items.length - cut.count)

/-- The lines of octets that end with line feeds or with null octets. -/
def linesBy (nulls : Bool) (octets : List UInt8) : List (List UInt8) :=
  let swap (b : UInt8) : UInt8 := if b = 0 then lineFeed else if b = lineFeed then 0 else b
  if nulls then (linesOf (octets.map swap)).map (·.map swap) else linesOf octets

def titleOf (name : String) : String :=
  if name = "-" then "standard input" else name

/-- A filter that keeps one part of each source. -/
structure Cutter where
  usage : List String
  /-- The switches that the other filter does not have. -/
  switches : List Switch := []
  /-- What stands before an inverse amount. -/
  mark : Char
  keep : Cut → Bool → List UInt8 → List UInt8
  /-- What is left of an input of which a part is kept. -/
  left : Call → Cut → Bool → List UInt8 → List UInt8
  /-- Reads amounts that stand alone in the first argument; answers with the manner and the other
  arguments. -/
  plain : Call → List String → Except Result (CutManner × List String)
  /-- The end for a digit among the switches. -/
  digitFault : Call → Char → Result
  /-- The words about an input that is not open. -/
  closedWords : String

/-- Cuts sources one after the other; `titled` tells whether they have titles and `isFirst` that
none was shown.  Answers with what is left of the input too. -/
def Cutter.cutAll (k : Cutter) (c : Call) (m : CutManner) (titled : Bool) :
    Bool → List UInt8 → List String → List (Nat × List UInt8) × List UInt8
  | _, input, [] => ([], input)
  | isFirst, input, name :: rest =>
    let title : List (Nat × List UInt8) :=
      if titled then
        [(1, Text.Utf8.encode ((if isFirst then "" else "\n") ++ "==> " ++ titleOf name ++ " <==\n"))]
      else []
    let reading (cause : Files.Cause) : List UInt8 :=
      c.say ("error reading " ++ Quoting.always (titleOf name) ++ ": " ++ cause.words)
    if Call.isInput name then
      match c.inputFault with
      | some cause =>
        let said :=
          if c.inputClosed then
            c.say (k.closedWords ++ " " ++ Quoting.always (titleOf name) ++ ": " ++ cause.words)
          else reading cause
        let silent := m.cut.count = 0 && !m.cut.inverse
        let said := if silent then [] else [(2, said)]
        let (others, input) := k.cutAll c m titled false input rest
        (title ++ said ++ others, input)
      | none =>
        let (others, left) := k.cutAll c m titled false (k.left c m.cut m.nulls input) rest
        (title ++ (1, k.keep m.cut m.nulls input) :: others, left)
    else
      match c.readFile name with
      | .ok octets =>
        let (others, input) := k.cutAll c m titled false input rest
        (title ++ (1, k.keep m.cut m.nulls octets) :: others, input)
      | .error .isADirectory =>
        let (others, input) :=
          if k.mark = '+' && m.cut.octets then ([], input)
          else k.cutAll c m titled false input rest
        let said := if m.cut.count = 0 && !m.cut.inverse then [] else [(2, reading .isADirectory)]
        (title ++ said ++ others, input)
      | .error cause =>
        let (others, input) := k.cutAll c m titled isFirst input rest
        let words := "cannot open " ++ Quoting.always name ++ " for reading: " ++ cause.words
        ((2, c.say words) :: others, input)

/-- Keeps one part of each source. -/
def Cutter.run (k : Cutter) : Filter := fun c =>
  match k.plain c c.arguments with
  | .error r => r
  | .ok (m, arguments) =>
    let known := cutSwitches ++ k.switches ++ askingSwitches
    let i := Invocation.read known true arguments
    let before := i.switches.takeWhile fun s => s.1 != helpLetter && s.1 != versionLetter
    match m.add c k.mark (k.digitFault c) before with
    | .error r => r
    | .ok m =>
      if i.has [helpLetter] then c.closing (c.tell (Usage.textOf c.program k.usage))
      else if i.has [versionLetter] then c.closing (c.tell (c.program ++ "\n"))
      else
        match i.fault with
        | some fault => c.misinvoke fault
        | none =>
          let names := if i.operands.isEmpty then ["-"] else i.operands
          let titled := m.titled.getD (1 < names.length)
          let tooLong := m.cut.octets && m.cut.inverse && k.mark = '-' &&
            9223372036854775807 < m.cut.count
          if tooLong then
            c.complain (amountWords true (toString m.cut.count).toList .tooLarge)
          else if k.mark = '+' && m.cut.count = 0 && !m.cut.inverse && !m.waits then
            { rest := c.input }
          else
            let (written, rest) := k.cutAll c m titled true c.input names
            let isClosed := c.inputClosed && names.contains "-" &&
              (k.mark = '-' || m.cut.count != 0 || m.cut.inverse)
            let closing :=
              if isClosed then [(2, c.say ("-: " ++ Files.Cause.badDescriptor.words))] else []
            let written := written ++ closing
            let endless := m.waits && i.operands.any (· != "-")
            c.closing
              { status := if written.any fun w => w.1 = 2 then 1 else 0, written, rest, endless }

/-! ## The beginning -/

/-- Reads the letters after an amount that stands alone; `unit` is the letter of its unit. -/
def plainLetters (c : Call) (m : CutManner) (unit : List Char) :
    List Char → Except Result (CutManner × List Char)
  | [] => .ok (m, unit)
  | l :: rest =>
    let counted (octets : Bool) : CutManner := { m with cut := { m.cut with octets } }
    if l = 'c' then plainLetters c (counted true) [] rest
    else if l = 'b' || l = 'k' || l = 'm' then plainLetters c (counted true) [l] rest
    else if l = 'l' then plainLetters c (counted false) unit rest
    else if l = 'q' then plainLetters c { m with titled := some false } unit rest
    else if l = 'v' then plainLetters c { m with titled := some true } unit rest
    else if l = 'z' then plainLetters c { m with nulls := true } unit rest
    else .error (c.misuse ("invalid trailing option -- " ++ l.toString))

/-- Reads an amount that stands alone after the hyphen of the first argument. -/
def plainFirst (c : Call) (arguments : List String) :
    Except Result (CutManner × List String) := do
  match arguments with
  | first :: rest =>
    match first.toList with
    | '-' :: d :: cs =>
      if !d.isDigit then return ({}, arguments)
      let digits := (d :: cs).takeWhile Char.isDigit
      let (m, unit) ← plainLetters c {} [] ((d :: cs).drop digits.length)
      match readAmount (digits ++ unit) with
      | .ok count => return ({ m with cut := { m.cut with count } }, rest)
      | .error fault => throw (c.complain (amountWords m.cut.octets (digits ++ unit) fault))
    | _ => return ({}, arguments)
  | [] => return ({}, [])

def keepFirst (cut : Cut) (nulls : Bool) (octets : List UInt8) : List UInt8 :=
  if cut.octets then cut.first octets else (cut.first (linesBy nulls octets)).flatten

/-- Keeps the beginning of its input.  Octets beyond a number of octets are not read; lines are read
in blocks. -/
def head : Filter := Cutter.run
  { usage := Usage.head
    mark := '-'
    keep := keepFirst
    left := fun c cut nulls octets =>
      if c.seekable || (cut.octets && !cut.inverse) then
        octets.drop (keepFirst cut nulls octets).length
      else if cut.inverse then []
      else octets.drop (inBlocks 8192 (keepFirst cut nulls octets).length)
    plain := plainFirst
    digitFault := fun c d => c.misuse ("invalid trailing option -- " ++ d.toString)
    closedWords := "error reading" }

/-! ## The end -/

/-- Reads an amount that stands alone after the sign of the first argument, if there is at most one
operand after it. -/
def plainLast (c : Call) (arguments : List String) :
    Except Result (CutManner × List String) := do
  match arguments with
  | [] => return ({}, [])
  | first :: rest =>
    let others :=
      match rest with
      | [] => true
      | ["--", _] => true
      | [name] => name = "-" || name = "--" || name.toList.head? != some '-'
      | _ => false
    match first.toList with
    | sign :: cs =>
      let bare := cs.isEmpty || (cs = ['c'])
      if !others || (sign != '-' && sign != '+') || (sign = '-' && bare) then
        return ({}, arguments)
      let digits := cs.takeWhile Char.isDigit
      let letters := cs.drop digits.length
      let unit := letters.head?.filter fun l => l = 'b' || l = 'c' || l = 'l'
      let letters := if unit.isSome then letters.drop 1 else letters
      let waits := letters = ['f']
      if !waits && !letters.isEmpty then return ({}, arguments)
      let factor := if unit = some 'b' then 512 else 1
      let count ←
        if digits.isEmpty then pure (10 * factor)
        else
          let n := ((number? digits).getD 0) * factor
          if mostAmount < n then
            throw (c.complain ("invalid number: " ++ Quoting.curled first ++
              ": Numerical result out of range"))
          else pure n
      let cut : Cut := { octets := unit.any (· != 'l'), count, inverse := sign = '+' }
      return ({ cut, waits }, rest)
    | [] => return ({}, arguments)

def keepLast (cut : Cut) (nulls : Bool) (octets : List UInt8) : List UInt8 :=
  if cut.octets then cut.last octets else (cut.last (linesBy nulls octets)).flatten

/-- Keeps the end of its input. -/
def tail : Filter := Cutter.run
  { usage := Usage.tail
    switches := [⟨'f', [], .never⟩, ⟨'F', [], .never⟩, ⟨'s', ["sleep-interval"], .always⟩]
    mark := '+'
    keep := keepLast
    left := fun _ cut _ octets => if cut.count = 0 && !cut.inverse then octets else []
    plain := plainLast
    digitFault := fun c d => c.complain ("option used in invalid context -- " ++ d.toString)
    closedWords := "cannot fstat" }

end Filter
end Formatter
end FlowDecl
