import FlowDecl.Formatter.Cut
import FlowDecl.Formatter.Symbol
import FlowDecl.Text.Glyphs
import FlowDecl.Text.Letters

/-!
# The size of an input

The filter that counts the lines, words, characters and octets of its input.
-/

namespace FlowDecl
namespace Formatter
namespace Filter

/-- Whether a character ends a word: a control character that moves to another place, or a space
with a glyph, also one at which lines are not broken. -/
def endsWord (c : Char) : Bool :=
  (9 ≤ c.toNat && c.toNat ≤ 13) || (Text.hasGlyph c &&
    (Text.isSpace c || [0xa0, 0x2007, 0x202f, 0x2060].contains c.toNat))

/-- Counts words; `inside` tells that a word has begun.  What has no glyph neither makes nor ends a
word. -/
def countWords (inside : Bool) : List Symbol → Nat
  | [] => 0
  | .octet _ :: rest => countWords inside rest
  | .char c :: rest =>
    if endsWord c then countWords false rest
    else if Text.hasGlyph c then (if inside then 0 else 1) + countWords true rest
    else countWords inside rest

/-- The columns of the longest line; a tab goes to the next multiple of eight. -/
def longestLine (longest column : Nat) : List Symbol → Nat
  | [] => max longest column
  | .octet _ :: rest => longestLine longest column rest
  | .char c :: rest =>
    if c = '\n' || c = '\r' || c = Char.ofNat 12 then longestLine (max longest column) 0 rest
    else if c = '\t' then longestLine longest (column + 8 - column % 8) rest
    else longestLine longest (column + (Text.columns c).getD 0) rest

inductive Countable where
  | lines
  | words
  | characters
  | octets
  | longest
  deriving DecidableEq, Repr

namespace Countable

/-- What can be counted, with its letter, in the order in which numbers are shown. -/
def all : List (Char × Countable) :=
  [('l', .lines), ('w', .words), ('m', .characters), ('c', .octets), ('L', .longest)]

def count (octets : List UInt8) : Countable → Nat
  | .lines => octets.countP (· = lineFeed)
  | .words => countWords false (Symbol.ofOctets octets)
  | .characters => (Symbol.ofOctets octets).countP (fun s => s matches .char _)
  | .octets => octets.length
  | .longest => longestLine 0 0 (Symbol.ofOctets octets)

end Countable

def wcSwitches : List Switch :=
  [⟨'c', ["bytes"], .never⟩, ⟨'m', ["chars"], .never⟩, ⟨'l', ["lines"], .never⟩,
    ⟨'w', ["words"], .never⟩, ⟨'\x01', ["files0-from"], .always⟩,
    ⟨'L', ["max-line-length"], .never⟩]

/-- The size of what a name leads to: nothing if it leads nowhere, and no number if it is no
file. -/
def sizeOf? (c : Call) (name : String) : Option (Option Nat) :=
  if Call.isInput name then
    if c.inputClosed then none
    else some (if c.seekable then some c.input.length else none)
  else if Files.isDevice name then some none
  else
    match c.tree.stat name with
    | .ok (.file octets) => some (some octets.length)
    | .ok .directory => some none
    | .error _ => none

/-- The width of the numbers, by the number of things that are counted and the names. -/
def countWidth (c : Call) (things : Nat) (names : List String) : Nat :=
  if names.isEmpty || (names.length = 1 && things = 1) then 1
  else
    let sizes := names.filterMap (sizeOf? c)
    let total := sizes.foldl (fun n size => n + size.getD 0) 0
    let least := if sizes.any Option.isNone then 7 else 1
    max least (toString total).length

/-- The pieces of octets that end with null octets. -/
def nullPieces (octets : List UInt8) : List (List UInt8) :=
  (linesBy true octets).map fun piece =>
    if piece.getLast? = some 0 then piece.dropLast else piece

structure CountWork where
  things : List Countable
  width : Nat
  /-- Where the names come from if they are no operands. -/
  list : Option String := none

/-- A row of numbers. -/
def countRow (w : CountWork) (counts : List Nat) (name : Option String) : List UInt8 :=
  let shown (name : String) := if name.toList.contains '\n' then Quoting.asNeeded name else name
  encodeLine (" ".intercalate (counts.map (padded w.width) ++ (name.map shown).toList))

/-- Counts sources one after the other; `number` is the number of the next one, and a source without
a name is the input.  Answers with what is written, the rows of numbers and what is left of the
input. -/
def countAll (c : Call) (w : CountWork) : Nat → List UInt8 → List (Option String) →
    List (Nat × List UInt8) × List (List Nat) × List UInt8
  | _, input, [] => ([], [], input)
  | number, input, source :: rest =>
    let name := source.getD "-"
    let fail (words : String) : List (Nat × List UInt8) × List (List Nat) × List UInt8 :=
      let (written, counts, input) := countAll c w (number + 1) input rest
      ((2, c.say words) :: written, counts, input)
    let add (said : List (Nat × List UInt8)) (octets left : List UInt8) :
        List (Nat × List UInt8) × List (List Nat) × List UInt8 :=
      let own := w.things.map (Countable.count octets)
      let (written, counts, input) := countAll c w (number + 1) left rest
      (said ++ (1, countRow w own source) :: written, own :: counts, input)
    let shown := Quoting.asNeeded (source.getD "standard input")
    if name = "" then
      let place := (w.list.map fun list => Quoting.asNeeded list ++ s!":{number}: ").getD ""
      fail (place ++ "invalid zero-length file name")
    else if name = "-" && w.list = some "-" then
      fail "when reading file names from stdin, no file name of '-' allowed"
    else if Call.isInput name then
      match c.inputFault with
      | some cause => add [(2, c.say (shown ++ ": " ++ cause.words))] [] input
      | none => add [] input []
    else
      match c.readFile name with
      | .ok octets => add [] octets input
      | .error .isADirectory =>
        add [(2, c.say (shown ++ ": " ++ Files.Cause.isADirectory.words))] [] input
      | .error cause => fail (shown ++ ": " ++ cause.words)

def countSources (c : Call) (w : CountWork) (input : List UInt8) (sources : List (Option String)) :
    Result :=
  let (written, counts, rest) := countAll c w 1 input sources
  let column (k : Nat) : Nat :=
    let ns := counts.map fun row => row.getD k 0
    ns.foldl (fun a b => if w.things[k]? = some .longest then max a b else a + b) 0
  let total := countRow w ((List.range w.things.length).map column) (some "total")
  let written := if 1 < sources.length then written ++ [(1, total)] else written
  let usesInput := sources.any fun s => s.getD "-" = "-"
  let written :=
    if usesInput && c.inputClosed then
      written ++ [(2, c.say ("-: " ++ Files.Cause.badDescriptor.words))]
    else written
  let status := if written.any fun w => w.1 = 2 then 1 else 0
  c.closing { status, written, rest } (c.outputFault != some .noRoom)

/-- Counts what switches ask for. -/
def wc : Filter := fun c =>
  c.invoke wcSwitches true (Usage.textOf c.program Usage.wc) fun i =>
    let asked := Countable.all.filter fun t => i.has [t.1]
    let things :=
      if asked.isEmpty then [Countable.lines, .words, .octets] else asked.map (·.2)
    match (i.switches.filter fun s => s.1 = '\x01').getLast?, i.operands with
    | some _, operand :: _ =>
      c.misuse ("extra operand " ++ Quoting.always operand ++
        "\nfile operands cannot be combined with --files0-from")
    | some (_, list), [] =>
      let names (octets : List UInt8) : List String :=
        (nullPieces octets).map fun piece => Text.gather (Text.octetChars piece)
      if Call.isInput list then
        match c.inputFault with
        | some cause => c.complain (Quoting.asNeeded list ++ ": read error: " ++ cause.words)
        | none =>
          let names := names c.input
          let width := if c.seekable then countWidth c things.length names else 1
          countSources c { things, width, list := some list } [] (names.map some)
      else
        match c.readFile list with
        | .ok octets =>
          let names := names octets
          let width := countWidth c things.length names
          countSources c { things, width, list := some list } c.input (names.map some)
        | .error .isADirectory =>
          c.complain (Quoting.asNeeded list ++ ": read error: " ++
            Files.Cause.isADirectory.words)
        | .error cause =>
          c.complain ("cannot open " ++ Quoting.always list ++ " for reading: " ++ cause.words)
    | none, operands =>
      let names := if operands.isEmpty then [none] else operands.map some
      let width :=
        if operands.isEmpty && 1 < things.length then countWidth c things.length ["-"]
        else countWidth c things.length operands
      countSources c { things, width } c.input names

end Filter
end Formatter
end FlowDecl
