import FlowDecl.Decimal.Binary64
import FlowDecl.Files.Tree
import FlowDecl.Formatter.Quoting
import FlowDecl.Text.Utf8

/-!
# Filters

The programs that formatter commands are built from: they read octets, or files of a tree, and write
octets.  A filter ends with a status, and it may sleep for a time.
-/

namespace FlowDecl
namespace Formatter

open Decimal (Fraction)

structure ScriptRun where
  /-- The files after it. -/
  tree : Files.Tree
  output : List UInt8 := []
  errors : List UInt8 := []
  /-- What is left of the input. -/
  rest : List UInt8 := []
  /-- The seconds that the script sleeps. -/
  slept : Fraction := ⟨0, 1⟩
  endless : Bool := false

/-- How a filter is called. -/
structure Call where
  tree : Files.Tree
  /-- The name that the filter is called by. -/
  program : String
  arguments : List String := []
  input : List UInt8 := []
  /-- The input is a file, so that what the filter does not use of it is left. -/
  seekable : Bool := false
  /-- Why the input cannot be read. -/
  inputFault : Option Files.Cause := none
  /-- There is no input at all. -/
  inputClosed : Bool := false
  /-- Why nothing can be written. -/
  outputFault : Option Files.Cause := none
  /-- Runs a script on an input. -/
  runScript : Files.Tree → List UInt8 → List UInt8 → ScriptRun := fun tree _ rest => { tree, rest }

/-- What a filter does. -/
structure Result where
  status : Nat := 0
  /-- What is written, each with the number of a descriptor. -/
  written : List (Nat × List UInt8) := []
  /-- What is left of the input. -/
  rest : List UInt8 := []
  /-- The seconds that the filter sleeps. -/
  slept : Fraction := ⟨0, 1⟩
  /-- The files after the filter if it changed them. -/
  tree : Option Files.Tree := none
  /-- The filter never ends. -/
  endless : Bool := false

namespace Result

/-- What is written to a descriptor. -/
def writtenTo (r : Result) (descriptor : Nat) : List UInt8 :=
  (r.written.filter fun w => w.1 = descriptor).flatMap (·.2)

def output (r : Result) : List UInt8 :=
  r.writtenTo 1

def errors (r : Result) : List UInt8 :=
  r.writtenTo 2

end Result

abbrev Filter := Call → Result

def lineFeed : UInt8 := 10

def encodeLine (line : String) : List UInt8 :=
  Text.Utf8.encode (line ++ "\n")

namespace Call

def sayOctets (c : Call) (words : List UInt8) : List UInt8 :=
  Text.Utf8.encode (c.program ++ ": ") ++ words ++ [lineFeed]

def say (c : Call) (words : String) : List UInt8 :=
  c.sayOctets (Text.Utf8.encode words)

/-- A filter that ends with a message. -/
def complain (c : Call) (words : String) (status : Nat := 1) : Result :=
  { status, written := [(2, c.say words)], rest := c.input }

/-- A filter that ends with a message about its arguments. -/
def misuse (c : Call) (words : String) (status : Nat := 1) : Result :=
  c.complain (words ++ "\nTry '" ++ c.program ++ " --help' for more information.") status

/-- A filter that writes a text and ends. -/
def tell (c : Call) (text : String) : Result :=
  { written := [(1, Text.Utf8.encode text)], rest := c.input }

def isInput (name : String) : Bool :=
  ["-", "/dev/stdin", "/dev/fd/0"].contains name

/-- The octets of a file; one of the system is empty. -/
def readFile (c : Call) (name : String) : Except Files.Cause (List UInt8) :=
  if name = "/dev/null" then .ok [] else c.tree.read name

/-- What is left of the input after files were read. -/
def restAfter (c : Call) (names : List String) : List UInt8 :=
  if names.isEmpty || names.any isInput then [] else c.input

/-- The files that are named, or the input if none is named.  The input is empty when it is read
again. -/
def sources (c : Call) (names : List String) : List (String × Except Files.Cause (List UInt8)) :=
  let names := if names.isEmpty then ["-"] else names
  (List.range names.length).zip names |>.map fun (i, name) =>
    if !isInput name then (name, c.readFile name)
    else
      match c.inputFault with
      | some cause => (name, .error cause)
      | none => (name, .ok (if (names.take i).any isInput then [] else c.input))

/-- What becomes of a filter whose output cannot be written: it ends with a message, in which the
cause may be left out. -/
def closing (c : Call) (r : Result) (withCause : Bool := true) : Result :=
  match c.outputFault with
  | none => r
  | some cause =>
    if r.output.isEmpty then r
    else
      let words := "write error" ++ if withCause then ": " ++ cause.words else ""
      { r with
        status := 1
        written := (r.written.filter fun w => w.1 != 1) ++ [(2, c.say words)] }

end Call

namespace Filter

/-- The natural number that a text stands for. -/
def number? (cs : List Char) : Option Nat :=
  if cs.isEmpty || !cs.all Char.isDigit then none
  else some (cs.foldl (fun n c => n * 10 + (c.toNat - 48)) 0)

/-- The lines of octets, each with its line feed. -/
def linesOf : List UInt8 → List (List UInt8)
  | [] => []
  | b :: rest =>
    if b = lineFeed then [b] :: linesOf rest
    else
      match linesOf rest with
      | [] => [[b]]
      | line :: lines => (b :: line) :: lines

def isSpace (b : UInt8) : Bool :=
  b = 32 || (9 ≤ b && b ≤ 13)

/-- The octets that are read if `n` of them are needed and they are read in blocks of a size. -/
def inBlocks (size n : Nat) : Nat :=
  (n + size - 1) / size * size

/-- A number at the end of a field of a width. -/
def padded (width n : Nat) : String :=
  let text := toString n
  String.ofList (List.replicate (width - text.length) ' ') ++ text

end Filter
end Formatter
end FlowDecl
