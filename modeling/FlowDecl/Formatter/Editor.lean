import FlowDecl.Formatter.Edit.Running
import FlowDecl.Formatter.Invocation
import FlowDecl.Formatter.Usage

/-!
# The line editor

The filter that edits its input, or the files that it is told, by a script.  Its switches are taken
one after the other: a piece of the script is read by the rules that were asked for before it.
-/

namespace FlowDecl
namespace Formatter
namespace Filter

open Edit

def sedSwitches : List Switch :=
  [⟨'b', ["binary"], .never⟩, ⟨'E', ["regexp-extended"], .never⟩, ⟨'r', [], .never⟩,
    ⟨'\x01', ["debug"], .never⟩, ⟨'i', ["in-place"], .sometimes⟩, ⟨'e', ["expression"], .always⟩,
    ⟨'f', ["file"], .always⟩, ⟨'l', ["line-length"], .always⟩,
    ⟨'z', ["null-data", "zero-terminated"], .never⟩, ⟨'n', ["quiet", "silent"], .never⟩,
    ⟨'\x02', ["posix"], .never⟩, ⟨'\x03', ["sandbox"], .never⟩, ⟨'s', ["separate"], .never⟩,
    ⟨'u', ["unbuffered"], .never⟩, ⟨'\x04', ["follow-symlinks"], .never⟩, ⟨'V', [], .always⟩]

/-- What the switches that are taken so far ask for. -/
structure EditOrder where
  manner : EditManner := {}
  cursor : Cursor
  /-- The number of pieces of the script that are arguments. -/
  arguments : Nat := 0
  /-- The input if no script was read from it. -/
  input : List UInt8

/-- How the editor is called; it is said where that was wrong. -/
def sedUsage (c : Call) (said : List UInt8) : Result :=
  let usage := Text.Utf8.encode (Usage.textOf c.program Usage.sed)
  { status := 1, written := [(2, said ++ usage)], rest := c.input }

/-- The end for a fault of the script. -/
def EditOrder.refuse (o : EditOrder) (c : Call) (fault : Edit.Fault) (p : Position) : Result :=
  { status := fault.status, written := [(2, c.sayOctets (fault.said p))], rest := o.input
    tree := some o.cursor.tree }

def EditOrder.readPiece (o : EditOrder) (c : Call) (piece : ScriptPiece) :
    Except Result EditOrder :=
  match (Edit.readPiece piece).run o.cursor with
  | (.ok _, cursor) => .ok { o with cursor }
  | (.error fault, cursor) =>
    .error ({ o with cursor }.refuse c fault (cursor.piece.position cursor.rest))

def EditOrder.readArgument (o : EditOrder) (c : Call) (text : String) : Except Result EditOrder :=
  let number := o.arguments + 1
  { o with arguments := number }.readPiece c { text := Text.spread text, number }

/-- Reads a file as a piece of the script.  A directory is read as if it were empty. -/
def EditOrder.readFile (o : EditOrder) (c : Call) (name : String) : Except Result EditOrder :=
  let piece (octets : List UInt8) : ScriptPiece :=
    { text := Text.octetChars octets, file := some name, number := o.arguments }
  if Call.isInput name then
    { o with input := [] }.readPiece c (piece (if c.inputFault.isSome then [] else o.input))
  else
    match { c with tree := o.cursor.tree }.readFile name with
    | .ok octets => o.readPiece c (piece octets)
    | .error .isADirectory => o.readPiece c (piece [])
    | .error cause => .error (o.refuse c (.closedFile name cause.words) (.inArgument 0 0))

/-- The width that a text asks for; one that is no number or too great asks for none. -/
def widthOf (text : String) : Nat :=
  let cs := text.toList.dropWhile Edit.isSpace
  let cs := if cs.head? = some '+' then cs.drop 1 else cs
  let n := (number? (cs.takeWhile Char.isDigit)).getD 0
  if n < 2147483648 then n else 0

def EditOrder.take (o : EditOrder) (c : Call) (letter : Char) (value : String) :
    Except Result EditOrder :=
  let with' (m : EditManner) : Except Result EditOrder := .ok { o with manner := m }
  let reading (m : ScriptManner) : Except Result EditOrder :=
    .ok { o with cursor := { o.cursor with manner := m } }
  match letter with
  | 'e' => o.readArgument c value
  | 'f' => o.readFile c value
  | 'E' => reading { o.cursor.manner with extended := true }
  | 'r' => reading { o.cursor.manner with extended := true }
  | '\x03' => reading { o.cursor.manner with confined := true }
  | '\x02' =>
    .ok { o with
      manner := { o.manner with plain := true }
      cursor := { o.cursor with manner := { o.cursor.manner with plain := true } } }
  | '\x01' => with' { o.manner with traced := true }
  | 'i' => with' { o.manner with separate := true, inPlace := some value }
  | 'l' => with' { o.manner with width := widthOf value }
  | 'n' => with' { o.manner with quiet := true }
  | 's' => with' { o.manner with separate := true }
  | 'u' => with' { o.manner with unbuffered := true }
  | 'z' => with' { o.manner with lineEnd := 0 }
  | 'V' => .error (sedUsage c [])
  | _ => .ok o

/-- Takes switches one after the other, up to one that asks about the editor itself. -/
def EditOrder.takeAll (o : EditOrder) (c : Call) :
    List (Char × String) → Except Result EditOrder
  | [] => .ok o
  | (letter, value) :: rest =>
    if letter = helpLetter then
      let usage := Usage.textOf c.program Usage.sed
      .error (c.tell (usage ++ "E-mail bug reports to: <bug-sed@gnu.org>.\n"))
    else if letter = versionLetter then .error (c.tell (c.program ++ "\n"))
    else do (← o.take c letter value).takeAll c rest

/-- What is written in the order in which it comes out.  Unless everything is written at once, the
output waits until the end. -/
def arranged (m : EditManner) (s : State) : List (Nat × List UInt8) :=
  let all := s.written.reverse.filterMap fun (sink, octets) =>
    match sink with
    | .output => some (1, true, octets)
    | .plainOutput => some (1, true, octets)
    | .errors => some (2, false, octets)
    | .file "/dev/stdout" => some (1, false, octets)
    | .file "/dev/stderr" => some (2, false, octets)
    | .file _ => none
  let ordered :=
    if m.unbuffered then all
    else (all.filter fun w => !w.2.1) ++ all.filter fun w => w.2.1
  ordered.map fun w => (w.1, w.2.2)

/-- What comes out at the end of an edit. -/
def editResult (c : Call) (m : EditManner) (halt : Halt) (s : State) : Result :=
  let s := s.settle
  let said : List (Nat × List UInt8) :=
    match halt with
    | .failure words _ => [(2, c.sayOctets words)]
    | _ => []
  let all := arranged m s
  let written :=
    if m.unbuffered then all ++ said
    else (all.filter fun w => w.1 = 2) ++ said ++ all.filter fun w => w.1 = 1
  let status :=
    match halt with
    | .quit n => if s.unread then 2 else n
    | .failure _ n => n
    | .endless => 0
  let rest :=
    if m.unbuffered then (if s.looked then s.input.drop 1 else s.input)
    else if c.seekable || !s.touched then s.input
    else c.input.drop (inBlocks 4096 (c.input.length - s.input.length))
  { status, written, rest, slept := s.slept, tree := some s.tree
    endless := halt matches .endless }

/-- The end of the editor if something that it wrote has no place to go. -/
def sedClosing (c : Call) (r : Result) (lost : Bool) : Result :=
  let failing (words : String) : Result :=
    { r with
      status := 4
      written := (r.written.filter fun w => w.1 != 1 || c.outputFault.isNone) ++
        [(2, c.say words)] }
  if lost then failing ("couldn't flush <unknown>: " ++ Files.Cause.noRoom.words)
  else
    match c.outputFault with
    | none => r
    | some .badDescriptor => failing ("couldn't close stdout: " ++ Files.Cause.badDescriptor.words)
    | some cause =>
      if r.output.isEmpty then r else failing ("couldn't flush stdout: " ++ cause.words)

/-- Edits files, or the input if none is named. -/
def editFiles (c : Call) (o : EditOrder) (script : Script) (names : List String) : Result :=
  let m := { o.manner with quiet := o.manner.quiet || script.quiet }
  let shown : List (Sink × List UInt8) :=
    if m.traced then [(.plainOutput, Trace.program script.instructions)] else []
  let s : State :=
    { tree := o.cursor.tree, waiting := if names.isEmpty then ["-"] else names
      input := o.input, written := shown, ranges := openRanges script }
  if m.inPlace.isSome && names.isEmpty then
    editResult c m (.failure (Text.Utf8.encode "no input files") 4) s
  else
    let job : Job := { call := c, manner := m, script }
    let (halt, s) := job.edit s
    let lost := s.written.any fun w => w.1 = .file "/dev/full"
    let r := editResult c m halt s
    if halt matches .quit _ then sedClosing c r lost
    else { r with written := r.written.filter fun w => w.1 != 1 || c.outputFault.isNone }

def sed : Filter := fun c =>
  let i := Invocation.read (sedSwitches ++ askingSwitches) true c.arguments
  let start : EditOrder := { cursor := { tree := c.tree }, input := c.input }
  match start.takeAll c i.switches with
  | .error r => if r.status = 0 then sedClosing c r false else r
  | .ok o =>
    match i.fault with
    | some fault => sedUsage c (c.sayOctets fault.words)
    | none =>
      let read : Except Result (EditOrder × List String) :=
        if 0 < o.cursor.pieces then .ok (o, i.operands)
        else
          match i.operands with
          | [] => .error (sedUsage c [])
          | text :: names => (fun o => (o, names)) <$> o.readArgument c text
      match read with
      | .error r => r
      | .ok (o, names) =>
        match o.cursor.script with
        | .error (fault, p) => o.refuse c fault p
        | .ok script => editFiles c o script names

end Filter
end Formatter
end FlowDecl
