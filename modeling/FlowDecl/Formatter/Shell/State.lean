import FlowDecl.Decimal.Binary64
import FlowDecl.Files.Tree
import FlowDecl.Formatter.Shell.Syntax
import FlowDecl.Text.Octets

/-!
# What scripts work on

A script reads and writes streams through numbered descriptors.  The streams, the files and the time
are common to all parts of a script; the variables, the descriptors and the rest of its session are
its own.
-/

namespace FlowDecl
namespace Formatter
namespace Shell

open Decimal (Fraction)

inductive Access where
  | read
  | write
  | append
  | readWrite
  deriving DecidableEq, Repr, Inhabited

def Access.reads : Access → Bool
  | .read | .readWrite => true
  | _ => false

def Access.writes : Access → Bool
  | .read => false
  | _ => true

inductive Stream where
  /-- Octets that can be read once. -/
  | source (octets : List UInt8)
  /-- Octets that were written, last part first. -/
  | sink (parts : List (List UInt8))
  /-- A file at a place of the tree, from some octet on. -/
  | file (place : List String) (start : Nat) (access : Access)
  /-- A directory. -/
  | directory
  /-- What is empty and stays empty. -/
  | nowhere (access : Access)
  /-- What has no room. -/
  | full (access : Access)
  deriving Repr, Inhabited

/-- A variable. -/
structure Variable where
  value : Option (List Char) := none
  exported : Bool := false
  constant : Bool := false
  deriving DecidableEq, Repr, Inhabited

/-- What is to be done when the script ends or gets a signal; a signal without a command is
ignored. -/
structure Trap where
  /-- The number of the signal, or zero for the end of the script. -/
  signal : Nat
  command : List Char
  deriving DecidableEq, Repr

/-- A program that was found by its name. -/
structure Located where
  name : List Char
  path : List Char
  /-- The current directory has changed since. -/
  stale : Bool := false
  deriving DecidableEq, Repr

/-- A command that a shell has started beside itself. -/
structure Started where
  /-- Its number among those of the shell. -/
  number : Nat
  process : Nat
  /-- The pipes between its commands. -/
  pipes : Nat := 0
  /-- The shell has waited for it. -/
  waited : Bool := false
  deriving DecidableEq, Repr

/-- The state of one shell. -/
structure Session where
  /-- The name that messages begin with. -/
  name : List Char
  /-- The number of the process of the shell. -/
  number : Nat
  /-- The number of the running process, which is another one in a part that runs apart. -/
  process : Nat
  arguments : List (List Char) := []
  bindings : List (List Char × Variable) := []
  functions : List (List Char × Command) := []
  aliases : List (List Char × List Char) := []
  /-- The programs that were found. -/
  located : List Located := []
  /-- What stands before a command that is shown is being found out. -/
  tracing : Bool := false
  /-- The letters of the options that are set. -/
  options : List Char := []
  /-- The descriptors with the numbers of their streams. -/
  descriptors : List (Nat × Nat) := []
  status : Nat := 0
  /-- The status of the last script whose output was taken. -/
  takenStatus : Nat := 0
  /-- The line of the running command. -/
  line : Nat := 1
  /-- The line up to which the script was read. -/
  readLine : Nat := 1
  /-- The command of the shell that messages are about. -/
  command : Option (List Char) := none
  /-- A command of the shell could not write its output. -/
  unwritten : Bool := false
  /-- The loops around the running command. -/
  loops : Nat := 0
  /-- The variables as they were before the running functions, for each the innermost first. -/
  saved : List (List (List Char × Option Variable)) := []
  traps : List Trap := []
  /-- The place in the argument that options are read from. -/
  optionPlace : Nat := 0
  /-- The permissions that new files do not have. -/
  mask : Nat := 18
  /-- The commands that run beside the script, last one first. -/
  started : List Started := []
  /-- The number of the process of the last one. -/
  lastStarted : Option Nat := none
  /-- The functions around the running command. -/
  depth : Nat := 0

/-- A signal that was sent to a process. -/
structure Sent where
  process : Nat
  signal : Nat
  time : Fraction

/-- A signal that a process gets at some time. -/
structure Cutoff where
  process : Nat
  signal : Nat
  time : Fraction
  /-- The process runs a program in its own place. -/
  isDirect : Bool

/-- A command that runs beside a script and was not run yet. -/
structure Job where
  process : Nat
  session : Session
  command : Command
  /-- The time at which it begins. -/
  start : Fraction
  /-- The signal that it is going to get. -/
  cutoff : Option Cutoff := none

/-- The end of a process that ran beside a script. -/
structure Ended where
  process : Nat
  status : Nat
  /-- The signal that ended it. -/
  signal : Option Nat := none
  time : Fraction
  /-- The script knows of the end. -/
  seen : Bool := false

/-- What is common to all parts of a script. -/
structure World where
  tree : Files.Tree
  streams : Array Stream := #[]
  /-- The seconds that passed. -/
  time : Fraction := ⟨0, 1⟩
  /-- The seconds for which the first streams are held open by what runs beside the script. -/
  held : Fraction := ⟨0, 1⟩
  /-- The texts of the script, by number. -/
  texts : List (Nat × Word) := []
  /-- The number of the next text. -/
  nextText : Nat := 0
  jobs : List Job := []
  ended : List Ended := []
  /-- The number of the next process. -/
  nextProcess : Nat := 1001
  /-- The signals that were sent to processes but not yet received. -/
  signals : List Sent := []
  /-- The signal that the running job is going to get. -/
  cutoff : Option Cutoff := none
  /-- The steps that were taken, and how many may be. -/
  steps : Nat := 0
  mostSteps : Nat := 400000

/-- Why a command ends before its end. -/
inductive Stop where
  /-- A fault; its message is written and the status is set. -/
  | fault
  /-- The script ends with the status that is set. -/
  | exit
  /-- A number of loops end. -/
  | leave (loops : Nat)
  /-- A number of loops end but the last, which goes on. -/
  | goOn (loops : Nat)
  /-- The running function ends. -/
  | back
  /-- A signal ends a process. -/
  | signal (process number : Nat)
  /-- The script does not end. -/
  | endless
  deriving DecidableEq, Repr

/-- The state that commands change. -/
structure State where
  world : World
  session : Session

/-- What a command does.  What it changed before it ended stays changed. -/
abbrev Act := ExceptT Stop (StateM State)

namespace Act

def session : Act Session := do
  return (← get).session

def world : Act World := do
  return (← get).world

def changeSession (f : Session → Session) : Act Unit :=
  modify fun s => { s with session := f s.session }

def changeWorld (f : World → World) : Act Unit :=
  modify fun s => { s with world := f s.world }

/-- Takes steps.  A script that takes too many of them is taken to be endless. -/
def step (steps : Nat) : Act Unit := do
  let w ← world
  if w.mostSteps ≤ w.steps then throw .endless
  changeWorld fun w => { w with steps := w.steps + steps }

def setStatus (status : Nat) : Act Unit :=
  changeSession fun s => { s with status }

/-! ## Streams -/

/-- Makes a stream and tells its number. -/
def newStream (stream : Stream) : Act Nat := do
  let number := (← world).streams.size
  changeWorld fun w => { w with streams := w.streams.push stream }
  return number

def stream (number : Nat) : Act Stream := do
  return ((← world).streams[number]?).getD .directory

def setStream (number : Nat) (stream : Stream) : Act Unit :=
  changeWorld fun w => { w with streams := w.streams.setIfInBounds number stream }

/-- Forgets the streams from a number on, unless a job may still need them. -/
def releaseStreams (number : Nat) : Act Unit :=
  changeWorld fun w => if w.jobs.isEmpty then { w with streams := w.streams.take number } else w

/-- The number of the stream behind a descriptor. -/
def behind (descriptor : Nat) : Act (Option Nat) := do
  return (← session).descriptors.lookup descriptor

def octetsAt (tree : Files.Tree) (place : List String) : List UInt8 :=
  match tree.node? place with
  | some (.file octets) => octets
  | _ => []

/-- Writes octets to a descriptor, or tells why they cannot be written. -/
def write (descriptor : Nat) (octets : List UInt8) : Act (Option Files.Cause) := do
  if octets.isEmpty then return none
  match ← behind descriptor with
  | none => return some .badDescriptor
  | some number =>
    match ← stream number with
    | .sink parts =>
      setStream number (.sink (octets :: parts))
      return none
    | .file place start access =>
      if !access.writes then return some .badDescriptor
      let old := octetsAt (← world).tree place
      let start := if access = .append then old.length else start
      let filled := old.take start ++ List.replicate (start - old.length) 0
      let new := filled ++ octets ++ old.drop (start + octets.length)
      changeWorld fun w => { w with tree := w.tree.put place (.file new) }
      setStream number (.file place (start + octets.length) access)
      return none
    | .nowhere access => return if access.writes then none else some .badDescriptor
    | .full access => return some (if access.writes then .noRoom else .badDescriptor)
    | _ => return some .badDescriptor

/-- Why nothing can be written to a descriptor. -/
def writeFault (descriptor : Nat) : Act (Option Files.Cause) := do
  match ← behind descriptor with
  | none => return some .badDescriptor
  | some number =>
    match ← stream number with
    | .sink _ => return none
    | .full access => return some (if access.writes then .noRoom else .badDescriptor)
    | .file _ _ access | .nowhere access =>
      return if access.writes then none else some .badDescriptor
    | _ => return some .badDescriptor

/-- What can be read from a descriptor, or why it cannot be read. -/
def input (descriptor : Nat) : Act (Except Files.Cause (List UInt8)) := do
  match ← behind descriptor with
  | none => return .error .badDescriptor
  | some number =>
    match ← stream number with
    | .source octets => return .ok octets
    | .file place start access =>
      if access.reads then return .ok ((octetsAt (← world).tree place).drop start)
      else return .error .badDescriptor
    | .directory => return .error .isADirectory
    | .nowhere access | .full access =>
      return if access.reads then .ok [] else .error .badDescriptor
    | .sink _ => return .error .badDescriptor

/-- What can be read from a descriptor; nothing if it cannot be read. -/
def readable (descriptor : Nat) : Act (List UInt8) := do
  return (← input descriptor).toOption.getD []

def isFileBehind (descriptor : Nat) : Act Bool := do
  match ← behind descriptor with
  | none => return false
  | some number => return (← stream number) matches .file ..

/-- Leaves the last octets of what can be read from a descriptor. -/
def leave (descriptor left : Nat) : Act Unit := do
  match ← behind descriptor with
  | none => return ()
  | some number =>
    match ← stream number with
    | .source octets => setStream number (.source (octets.drop (octets.length - left)))
    | .file place start access =>
      let size := (octetsAt (← world).tree place).length
      setStream number (.file place (max start (size - left)) access)
    | _ => return ()

/-- What was written to the stream with a number. -/
def written (number : Nat) : Act (List UInt8) := do
  match ← stream number with
  | .sink parts => return parts.reverse.flatten
  | _ => return []

/-! ## Messages -/

def messageLine (s : Session) (words : List Char) : List Char :=
  let about := s.command.elim [] fun c => c ++ [':', ' ']
  s.name ++ s!": {s.line}: ".toList ++ about ++ words ++ ['\n']

def say (words : List Char) : Act Unit := do
  let line := messageLine (← session) words
  let _ ← write 2 (Text.charOctets line)

def fail {α : Type} (words : List Char) : Act α := do
  say words
  setStatus 2
  throw .fault

/-- Ends with a fault about a text. -/
def failAbout {α : Type} (words : String) (text : List Char) : Act α :=
  fail (words.toList ++ text)

/-- The words about a number that is none. -/
def illegalNumber : String := "Illegal number: "

def number (text : List Char) : Act Nat := do
  if !text.isEmpty && text.all Char.isDigit then
    let n := text.foldl (fun n c => n * 10 + (c.toNat - 48)) 0
    if n < 2147483648 then return n
  failAbout illegalNumber text

/-! ## Variables -/

def lookVariable (name : List Char) : Act (Option Variable) := do
  return (← session).bindings.lookup name

def value? (name : List Char) : Act (Option (List Char)) := do
  return (← lookVariable name).bind (·.value)

/-- Puts a variable in the place of the one of its name.  The programs that were found are forgotten
when the variable that tells where they are is another one. -/
def putVariable (name : List Char) (v : Option Variable) : Act Unit :=
  changeSession fun s =>
    let others := s.bindings.filter fun e => e.1 != name
    let located := if name = "PATH".toList then [] else s.located
    { s with bindings := v.toList.map (name, ·) ++ others, located }

def setVariable (name : List Char) (value : List Char) (exported : Bool := false) : Act Unit := do
  let old := (← lookVariable name).getD {}
  step (value.length / 512)
  if old.constant then fail (name ++ ": is read only".toList)
  else
    let exported := exported || old.exported || (← session).options.contains 'a'
    putVariable name (some { old with value := some value, exported })
    if name = "OPTIND".toList then changeSession fun s => { s with optionPlace := 0 }

def unsetVariable (name : List Char) : Act Unit := do
  match ← lookVariable name with
  | none => return ()
  | some v =>
    if v.constant then fail (name ++ ": is read only".toList)
    else putVariable name none

/-- The octets that separate words. -/
def separators : Act (List Char) := do
  return (← value? "IFS".toList).getD [' ', '\t', '\n']

def hasOption (letter : Char) : Act Bool := do
  return (← session).options.contains letter

end Act
end Shell
end Formatter
end FlowDecl
