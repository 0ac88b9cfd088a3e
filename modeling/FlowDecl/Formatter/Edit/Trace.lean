import FlowDecl.Formatter.Edit.Listing
import FlowDecl.Formatter.Edit.Script

/-!
# Traces of editing

How a script and the work on a line are shown while a script is tried out.
-/

namespace FlowDecl
namespace Formatter
namespace Edit
namespace Trace

def say (text : String) : List UInt8 :=
  Text.Utf8.encode text

/-- The letters of the control characters that have one. -/
def letters : List (Nat × Char) :=
  [(7, 'a'), (12, 'f'), (10, 'n'), (13, 'r'), (9, 't'), (11, 'v')]

/-- The octal digits of an octet.  Octets from `0x80` on are shown as negative numbers of 32
bits. -/
def octal (b : UInt8) : List Char :=
  if b < 0x80 then Quoting.octal b
  else
    let n := b.toNat + 256
    "37777777".toList ++ [n / 64, n / 8 % 8, n % 8].map fun d => Char.ofNat (48 + d)

def shown (b : UInt8) : List UInt8 :=
  match letters.lookup b.toNat with
  | some l => plainOctets ['\\', l]
  | none =>
    if b = 92 then [92, 92]
    else if 32 ≤ b && b < 127 then [b]
    else plainOctets (['\\', 'o'] ++ octal b)

def shownAll (octets : List UInt8) : List UInt8 :=
  octets.flatMap shown

/-! ## Instructions -/

def pattern (s : Option Search) : List UInt8 :=
  match s with
  | none => say "//"
  | some s => say "/" ++ (s.text.flatMap fun b => if b = 47 then [92, 47] else shown b) ++ say "/"

def switches (inAddress : Bool) (s : Option Search) : List UInt8 :=
  match s with
  | none => []
  | some s =>
    say ((if !s.manner.foldCase then "" else if inAddress then "I" else "i") ++
      (if !s.manner.multiline then "" else if inAddress then "M" else "m"))

def point : LinePoint → List UInt8
  | .number n => say (toString n)
  | .last => say "$"
  | .every first step => say s!"{first}~{step}"
  | .matching s => pattern s ++ switches true s

/-- Where a range ends; one that ends where it begins has no end. -/
def rangeEnd : RangeEnd → List UInt8
  | .point p => point p
  | .further 0 => say "[ADDR-NULL]"
  | .multiple 0 => say "[ADDR-NULL]"
  | .further n => say s!"+{n}"
  | .multiple n => say s!"~{n}"

/-- The parts of a replacement after a part with a change of letters. -/
def parts (letters first : LetterCase) : List ReplacementPart → List UInt8
  | [] => []
  | part :: rest =>
    let mark :=
      if part.letters = letters && part.first = first then ""
      else
        match part.letters, part.first with
        | .kept, .kept => "\\E"
        | .capital, .kept => "\\U"
        | .small, .kept => "\\L"
        | _, .small => "\\l"
        | _, _ => "\\u"
    let group :=
      match part.group with
      | none => ""
      | some 0 => "&"
      | some n => s!"\\{n}"
    say mark ++ part.text ++ say group ++ parts part.letters part.first rest

/-- The name of what lines are written to. -/
def sink : Sink → String
  | .output => ""
  | .plainOutput => "/dev/stdout"
  | .errors => "/dev/stderr"
  | .file name => name

def substitution (s : Substitution) : List UInt8 :=
  let marks :=
    (if s.everywhere then "g" else "") ++ (if s.executed then "e" else "") ++
      (if s.printed || s.printedBefore then "p" else "") ++
      ((s.first.map toString).getD "") ++ ((s.written.map fun w => "w" ++ sink w).getD "")
  say "s" ++ pattern s.search ++ parts .kept .kept s.parts ++ say "/" ++ switches false s.search ++
    say marks

/-- A number after an instruction. -/
def argument (n : Option Nat) : List UInt8 :=
  say ((n.map fun n => s!" {n}").getD "")

def labelAt (script : Array Instruction) (place : Nat) : List UInt8 :=
  match (script[place]?).map Instruction.action with
  | some (.label name) => say " " ++ name
  | _ => []

def action (script : Array Instruction) : Action → List UInt8
  | .label name => say ":" ++ name
  | .block _ => say "\x7b"
  | .blockEnd => say "\x7d"
  | .jump .always target => say "b" ++ labelAt script target
  | .jump .replaced target => say "t" ++ labelAt script target
  | .jump .notReplaced target => say "T" ++ labelAt script target
  | .substitute s => substitution s
  | .exchange pairs =>
    say "y/" ++ Symbol.allOctets (pairs.map (·.1)) ++ say "/" ++
      Symbol.allOctets (pairs.map (·.2)) ++ say "/"
  | .delete => say "d"
  | .deleteFirst => say "D"
  | .print => say "p"
  | .printFirst => say "P"
  | .list width => say "l" ++ argument width
  | .next => say "n"
  | .appendNext => say "N"
  | .hold appended => say (if appended then "H" else "h")
  | .get appended => say (if appended then "G" else "g")
  | .swap => say "x"
  | .clear => say "z"
  | .number => say "="
  | .fileName => say "F"
  | .insert text => say "i\\" ++ text
  | .append text => say "a\\" ++ text
  | .change text => say "c\\" ++ text
  | .execute script => say "e " ++ script
  | .readFile name => say ("r " ++ name)
  | .readFirst name => say ("r " ++ name)
  | .readLine name _ => say ("R " ++ name)
  | .writeFile s => say ("w" ++ sink s)
  | .writeFirst s => say ("W" ++ sink s)
  | .quit printed status => say (if printed then "q" else "Q") ++ argument status
  | .reformat width => say "L" ++ argument width

/-- An instruction at a depth of blocks, and the depth after it. -/
def instruction (script : Array Instruction) (depth : Int) (i : Instruction) :
    List UInt8 × Int :=
  let depth := if i.action matches .blockEnd then depth - 1 else depth
  let lines :=
    match i.address with
    | .every => []
    | .one p => point p
    | .range first final => point first ++ say "," ++ rangeEnd final
  let addressed := i.address != .every
  let mark := (if i.others then (if addressed then "!" else " !") else "") ++
    if addressed then " " else ""
  let text := say (String.ofList (List.replicate (2 * depth.toNat) ' ')) ++ lines ++ say mark ++
    action script i.action ++ say "\n"
  (text, if i.action matches .block _ then depth + 1 else depth)

def instructions (script : Array Instruction) (depth : Int) : List Instruction → List UInt8
  | [] => []
  | i :: rest =>
    let (text, depth) := instruction script depth i
    text ++ instructions script depth rest

def program (script : Array Instruction) : List UInt8 :=
  say "SED PROGRAM:\n" ++ instructions script 1 script.toList

/-! ## The work on a line -/

/-- The beginning of the work on a line of a file. -/
def input (file : String) (number : Nat) : List UInt8 :=
  let name := if file = "-" then "STDIN" else file
  say s!"INPUT:   '{name}' line {number}\n"

def space (text : List UInt8) : List UInt8 :=
  say "PATTERN: " ++ shownAll text ++ say "\n"

def kept (text : List UInt8) : List UInt8 :=
  say "HOLD:    " ++ shownAll text ++ say "\n"

/-- What a group has taken. -/
def register (number start : Nat) (text : List UInt8) : List UInt8 :=
  say s!"  regex[{number}] = {start}-{start + text.length} '" ++ text ++ say "'\n"

/-- The groups of a match, up to the first one that has taken nothing. -/
def registers (start : Place) (way : Way) (groups : Nat) : List UInt8 :=
  let taken := ((List.range groups).map fun i => way.group? (i + 1)).takeWhile Option.isSome
  let lines := taken.flatMap fun
    | some g => register g.number g.start g.text
    | none => []
  say "MATCHED REGEX REGISTERS\n" ++ register 0 start.index (Place.since start way.place) ++ lines

end Trace
end Edit
end Formatter
end FlowDecl
