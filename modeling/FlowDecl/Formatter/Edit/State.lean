import FlowDecl.Formatter.Edit.Script
import FlowDecl.Formatter.Filter

/-!
# The state of an edit

What is known while lines are edited: the line and the text that is kept, the input that is still to
be read, and what is written.  A line is written with its line end, except for a last line that has
none in the input: its line end is written only if something follows.
-/

namespace FlowDecl
namespace Formatter
namespace Edit

open Decimal (Fraction)

structure Line where
  text : List UInt8 := []
  /-- Whether a line end is written after it. -/
  ended : Bool := true
  deriving DecidableEq, Repr, Inhabited

/-- How lines are edited. -/
structure EditManner where
  /-- Lines are written only where an instruction says so. -/
  quiet : Bool := false
  /-- The last line and the line numbers are those of each file. -/
  separate : Bool := false
  /-- Files are replaced by what is written, and the old ones are kept under a name with a
  suffix. -/
  inPlace : Option String := none
  /-- Only what all editors of lines agree on is done. -/
  plain : Bool := false
  /-- No more is read than is needed, and everything is written at once. -/
  unbuffered : Bool := false
  /-- The work is shown. -/
  traced : Bool := false
  lineEnd : UInt8 := lineFeed
  width : Nat := 70

/-- What is left of an open file. -/
inductive Source where
  /-- The input; what is left of it is part of the state. -/
  | input
  | file (octets : List UInt8)
  | unreadable (cause : Files.Cause)

/-- What is written at the end of the work on a line. -/
inductive Queued where
  | text (t : List UInt8)
  | file (name : String)

/-- Where a range of lines stands. -/
inductive RangeState where
  /-- It has begun; the number of its last line is told if that is known. -/
  | active (final : Option Nat)
  | closed
  deriving DecidableEq, Repr

/-- The state of an edit. -/
structure State where
  tree : Files.Tree
  space : Line := {}
  kept : Line := {}
  /-- Whether the last line that was put aside had a line end. -/
  spareEnded : Bool := true
  number : Nat := 0
  /-- The name of the file that is read. -/
  file : String := "-"
  source : Option Source := none
  /-- The files that are read later. -/
  waiting : List String
  /-- The next file begins anew. -/
  anew : Bool := false
  /-- What is left of the input. -/
  input : List UInt8
  /-- The input was read, or its next octet was looked at. -/
  touched : Bool := false
  looked : Bool := false
  /-- What is written, last first. -/
  written : List (Sink × List UInt8) := []
  /-- What the last line of which misses its line end. -/
  unended : List Sink := []
  /-- What is written in the place of the file that is read, last first. -/
  edited : List (List UInt8) := []
  queue : List Queued := []
  /-- The ranges by the place of their instruction. -/
  ranges : List (Nat × RangeState) := []
  replaced : Bool := false
  lastSearch : Option Search := none
  /-- The addresses whose patterns were used in a substitution. -/
  reused : List Nat := []
  /-- What is left of files that lines are taken from. -/
  taken : List (String × List UInt8) := []
  /-- Some file could not be read. -/
  unread : Bool := false
  slept : Fraction := ⟨0, 1⟩
  /-- The depth of blocks in a trace. -/
  depth : Int := 0

/-- Why editing ends. -/
inductive Halt where
  | quit (status : Nat)
  | failure (words : List UInt8) (status : Nat)
  | endless

abbrev Work := ExceptT Halt (StateM State)

def fail {α : Type} (words : String) : Work α :=
  throw (.failure (Text.Utf8.encode words) 4)

/-- Whether a name stands for the output or for what is said. -/
def isOutput (name : String) : Bool :=
  ["/dev/stdout", "/dev/stderr"].contains name

/-- The words for a file that cannot be read. -/
def readFault (name : String) (cause : Files.Cause) : String :=
  "read error on " ++ name ++ ": " ++ cause.words

/-! ## Writing -/

def State.writtenTo (s : State) (sink : Sink) : List UInt8 :=
  (s.written.reverse.filter fun w => w.1 = sink).flatMap (·.2)

/-- A file with octets after the ones that it has. -/
def appendTo (tree : Files.Tree) (name : String) (octets : List UInt8) : Files.Tree :=
  let before := (tree.read name).toOption.getD []
  (tree.write name (before ++ octets)).toOption.getD tree

/-- The state after what is written has come to the files; what is written to a device stays. -/
def State.settle (s : State) : State :=
  let names := (s.written.filterMap fun
    | (.file name, _) => if Files.isDevice name || isOutput name then none else some name
    | _ => none).eraseDups
  { s with
    tree := names.foldl (fun tree name => appendTo tree name (s.writtenTo (.file name))) s.tree
    written := s.written.filter fun
      | (.file name, _) => !names.contains name
      | _ => true }

/-- Writes octets as they are.  The output goes in the place of the file that is read if files are
replaced. -/
def emit (m : EditManner) (sink : Sink) (octets : List UInt8) : Work Unit := do
  if octets.isEmpty then return
  let s ← get
  if sink = .output && m.inPlace.isSome && s.source.isSome then
    set { s with edited := octets :: s.edited }
  else
    let s := { s with written := (sink, octets) :: s.written }
    set (if m.unbuffered then s.settle else s)

/-- Writes the line end that the last line misses. -/
def endLine (m : EditManner) (sink : Sink) : Work Unit := do
  let s ← get
  if s.unended.contains sink then
    set { s with unended := s.unended.filter (· != sink) }
    emit m sink [m.lineEnd]

/-- Writes octets after the line end that the last line misses. -/
def emitAfter (m : EditManner) (sink : Sink) (octets : List UInt8) : Work Unit := do
  endLine m sink
  emit m sink octets

def emitLine (m : EditManner) (sink : Sink) (l : Line) : Work Unit := do
  if l.ended then emitAfter m sink (l.text ++ [m.lineEnd])
  else
    emitAfter m sink l.text
    modify fun s => { s with unended := sink :: s.unended }

def tell (c : Call) (words : String) : Work Unit :=
  modify fun s => { s with written := (.errors, c.say words) :: s.written }

/-! ## Files -/

/-- The octets of a file for the end of a line; a missing file is empty.  The input is a file of its
own: unless no more is read than is needed, nothing is left of it once it was read. -/
def octetsOf (c : Call) (m : EditManner) (name : String) : Work (List UInt8) := do
  let s ← get
  if name = "/dev/stdin" then
    match c.inputFault with
    | some .badDescriptor => return []
    | some cause => fail (readFault name cause)
    | none =>
      if c.seekable then return c.input
      if s.touched && !m.unbuffered then return []
      set { s with input := [], touched := true }
      return s.input
  else
    match { c with tree := s.tree }.readFile name with
    | .ok octets => return octets
    | .error .isADirectory => fail (readFault name .isADirectory)
    | .error _ => return []

/-- Writes what was queued. -/
def flush (c : Call) (m : EditManner) : Work Unit := do
  let queue := (← get).queue
  modify fun s => { s with queue := [] }
  queue.forM fun
    | .text t => emitAfter m .output t
    | .file name => do
      endLine m .output
      emit m .output (← octetsOf c m name)

/-- The ranges that begin before the first line. -/
def openRanges (script : Script) : List (Nat × RangeState) :=
  (List.range script.instructions.size).filterMap fun place =>
    match (script.instructions[place]?).map Instruction.address with
    | some (.range (.number 0) _) => some (place, .active none)
    | _ => none

/-- The name of the copy that is kept of a file. -/
def backupName? (suffix name : String) : Option String :=
  let marked := if suffix.toList.contains '*' then suffix else "*" ++ suffix
  if marked = "*" then none else some (marked.replace "*" name)

/-- Writes a file, or ends. -/
def store (name target : String) (octets : List UInt8) : Work Unit := do
  let s ← get
  match s.tree.write target octets with
  | .ok tree => set { s with tree }
  | .error cause => fail ("cannot rename " ++ name ++ ": " ++ cause.words)

/-- Closes the file that is read, and replaces it. -/
def close (m : EditManner) : Work Unit := do
  let s ← get
  if s.source.isSome then
    match m.inPlace with
    | none => set { s with source := none, anew := m.separate }
    | some suffix =>
      let before := (s.tree.read s.file).toOption.getD []
      match backupName? suffix s.file with
      | some copy => store s.file copy before
      | none => pure ()
      store s.file s.file s.edited.reverse.flatten
      modify fun s =>
        { s with source := none, anew := true, edited := []
                 unended := s.unended.filter (· != .output) }

/-- Opens a file; one that is missing is told. -/
def openFile (c : Call) (m : EditManner) (name : String) : Work Unit := do
  modify fun s => { s with file := name }
  if m.inPlace.isNone && Call.isInput name then modify fun s => { s with source := some .input }
  else
    let source : Except Files.Cause Source :=
      match { c with tree := (← get).tree }.readFile name with
      | .ok octets => .ok (.file octets)
      | .error .isADirectory => .ok (.unreadable .isADirectory)
      | .error cause => .error cause
    match source with
    | .error cause =>
      modify fun s => { s with unread := true }
      tell c ("can't read " ++ name ++ ": " ++ cause.words)
    | .ok source =>
      if m.inPlace.isSome && (Files.isDevice name || source matches .unreadable _) then
        fail ("couldn't edit " ++ name ++ ": not a regular file")
      modify fun s => { s with source := some source }

/-- Whether something is left of the file that is read; what cannot be read is at its end. -/
def hasMore (c : Call) : Work Bool := do
  let s ← get
  match s.source with
  | some .input =>
    let more := !s.input.isEmpty && c.inputFault.isNone
    set { s with touched := true, looked := s.looked || more }
    return more
  | some (.file octets) => return !octets.isEmpty
  | _ => return false

/-- Opens files until something is left of one, or there are no more; there are at most `fuel`. -/
def hasLater (c : Call) (m : EditManner) : Nat → Work Bool
  | 0 => return false
  | fuel + 1 => do
    close m
    let s ← get
    match s.waiting with
    | [] => return false
    | name :: waiting =>
      set { s with waiting }
      openFile c m name
      if ← hasMore c then return true else hasLater c m fuel

def atEnd (c : Call) (m : EditManner) : Work Bool := do
  if ← hasMore c then return false
  if m.separate then return true
  return !(← hasLater c m ((← get).waiting.length + 1))

def firstLine (lineEnd : UInt8) (octets : List UInt8) : Line × List UInt8 :=
  let text := octets.takeWhile (· != lineEnd)
  let rest := octets.drop text.length
  ({ text, ended := !rest.isEmpty }, rest.drop 1)

/-- Reads a line of the file that is read if there is one. -/
def readOpen (c : Call) (m : EditManner) : Work (Option Line) := do
  let s ← get
  match s.source with
  | none => return none
  | some .input =>
    match c.inputFault with
    | some cause => fail (readFault (if s.file = "-" then "stdin" else s.file) cause)
    | none =>
      let (line, input) := firstLine m.lineEnd s.input
      set { s with input, touched := true, looked := false }
      return if s.input.isEmpty then none else some line
  | some (.unreadable cause) => fail (readFault s.file cause)
  | some (.file octets) =>
    let (line, rest) := firstLine m.lineEnd octets
    set { s with source := some (.file rest) }
    return if octets.isEmpty then none else some line

/-- Begins anew with the next file if files are separate. -/
def beginAnew (script : Script) : Work Unit := do
  if (← get).anew then
    modify fun s => { s with number := 0, ranges := openRanges script, taken := [], anew := false }

/-- Reads the next line if there is one, from at most `fuel` files. -/
def readNext (c : Call) (m : EditManner) (script : Script) : Nat → Work (Option Line)
  | 0 => return none
  | fuel + 1 => do
    match ← readOpen c m with
    | some line => return some line
    | none =>
      close m
      match (← get).waiting with
      | [] => return none
      | name :: waiting =>
        beginAnew script
        modify fun s => { s with waiting }
        openFile c m name
        readNext c m script fuel

/-- Reads the next line if there is one; it is put after what was there or in its place. -/
def readSpace (c : Call) (m : EditManner) (script : Script) (appended : Bool) : Work Bool := do
  flush c m
  modify fun s => { s with replaced := false }
  match ← readNext c m script ((← get).waiting.length + 2) with
  | none => return false
  | some line =>
    modify fun s =>
      let text := if appended then s.space.text ++ m.lineEnd :: line.text else line.text
      { s with space := { line with text }, number := s.number + 1 }
    return true

end Edit
end Formatter
end FlowDecl
