import FlowDecl.Formatter.Edit.Replacing
import FlowDecl.Formatter.Edit.State
import FlowDecl.Formatter.Edit.Trace

/-!
# Line editing

A script is run on one line after the other.  At the end of the work on a line it is written, unless
lines are only written where an instruction says so, and then what instructions have queued is
written.
-/

namespace FlowDecl
namespace Formatter
namespace Edit

open Decimal (Fraction)

/-- All that stays the same while lines are edited. -/
structure Job where
  call : Call
  manner : EditManner
  script : Script

namespace Job

/-- Writes to the output as far as the work is shown. -/
def trace (j : Job) (octets : State → List UInt8) : Work Unit := do
  if j.manner.traced then
    modify fun s => { s with written := (.plainOutput, octets s) :: s.written }

def traceSpace (j : Job) : Work Unit :=
  j.trace fun s => Trace.space s.space.text

def traceKept (j : Job) : Work Unit :=
  j.trace fun s => Trace.kept s.kept.text

/-- Ends with a fault of the script. -/
def refuse {α : Type} (j : Job) (fault : Fault) : Work α :=
  throw (.failure (fault.said j.script.finish) fault.status)

/-! ## Addresses -/

def rules (j : Job) (s : Search) : MatchRules :=
  { manner := s.manner, lineEnd := j.manner.lineEnd }

def resolve (j : Job) (search : Option Search) : Work Search := do
  match search with
  | some s =>
    modify fun t => { t with lastSearch := some s }
    return s
  | none =>
    match (← get).lastSearch with
    | some s => return s
    | none => j.refuse .noPattern

def isAt (j : Job) (p : LinePoint) : Work Bool := do
  match p with
  | .number n => return (← get).number = n
  | .last => atEnd j.call j.manner
  | .every first step =>
    let n := (← get).number
    return first ≤ n && (n - first) % step = 0
  | .matching search =>
    let s ← j.resolve search
    return s.pattern.occursIn (j.rules s) (← get).space.text

/-- Remembers where a range stands. -/
def setRange (place : Nat) (r : RangeState) : Work Unit :=
  modify fun s => { s with ranges := (place, r) :: s.ranges.filter fun t => t.1 != place }

def goesOn (j : Job) (place : Nat) (final : RangeEnd) (known : Option Nat) : Work Bool := do
  let n := (← get).number
  match final, known with
  | .point (.number k), _ =>
    if k ≤ n then setRange place .closed
    return n ≤ k
  | .point p, _ =>
    if ← j.isAt p then setRange place .closed
    return true
  | _, known =>
    if known.any (· ≤ n) then setRange place .closed
    return true

/-- Whether a range begins.  One that begins with a line of a number begins there or later, but only
once. -/
def begins (j : Job) (place : Nat) (isClosed : Bool) (first : LinePoint) (final : RangeEnd) :
    Work Bool := do
  let n := (← get).number
  let found ←
    match first with
    | .number k => pure (!isClosed && k ≤ n)
    | p => j.isAt p
  if !found then return false
  match final with
  | .point (.number k) =>
    setRange place (if k ≤ n then .closed else .active none)
    return match first with
      | .number i => n ≤ k || n = i
      | _ => true
  | .point (.every start step) =>
    let endsHere ← j.isAt (.every start step)
    setRange place (if endsHere then .closed else .active none)
    return true
  | .point _ =>
    setRange place (.active none)
    return true
  | .further k =>
    setRange place (if k = 0 then .closed else .active (some (n + k)))
    return true
  | .multiple k =>
    setRange place (if k = 0 then .closed else .active (some ((n / k + 1) * k)))
    return true

/-- Whether the address of the instruction at a place selects the line. -/
def selects (j : Job) (place : Nat) : Address → Work Bool
  | .every => return true
  | .one p => j.isAt p
  | .range first final => do
    match (← get).ranges.lookup place with
    | some (.active known) => j.goesOn place final known
    | state => j.begins place state.isSome first final

/-! ## Scripts -/

/-- Runs a script, and answers with its output.  It reads what is left of the input if nothing of it
was taken that is not used. -/
def runScript (j : Job) (script : List UInt8) : Work (List UInt8) := do
  let s ← get
  let isOpen := j.manner.unbuffered || !s.touched
  let r := j.call.runScript s.tree (script.takeWhile (· != 0)) (if isOpen then s.input else [])
  let said := if r.errors.isEmpty then [] else [(Sink.errors, r.errors)]
  set { s with
    tree := r.tree
    written := said ++ s.written
    input := if isOpen then r.rest else s.input
    slept := s.slept.add r.slept }
  if r.endless then throw .endless
  return r.output

/-- Runs the line as a script, whose output comes in its place. -/
def runSpace (j : Job) : Work Unit := do
  let output ← j.runScript (← get).space.text
  let text := if output.getLast? = some j.manner.lineEnd then output.dropLast else output
  modify fun s =>
    { s with space := { text, ended := s.spareEnded }, spareEnded := s.space.ended }

/-! ## Instructions -/

/-- What comes after an instruction. -/
inductive Next where
  | go (place : Nat)
  /-- The work on the line is done; `printed` tells that it is written unless lines are quiet. -/
  | done (printed : Bool)
  /-- The work on the line is done without a word. -/
  | drop
  /-- Begins again with what is left of the line. -/
  | again

/-- The line up to its first line end, and the text after it if there is one. -/
def splitFirst (m : EditManner) (l : Line) : Line × Option (List UInt8) :=
  match l.text.dropWhile (· != m.lineEnd) with
  | [] => (l, none)
  | _ :: rest => ({ text := l.text.takeWhile (· != m.lineEnd) }, some rest)

/-- Checks that a pattern of an address has the groups that its first substitution asks for. -/
def checkGroups (j : Job) (s : Search) (asked : Nat) : Work Unit := do
  match s.address with
  | none => return
  | some address =>
    if (← get).reused.contains address then return
    if s.groups < asked && !j.manner.plain then j.refuse (.badReference asked)
    modify fun t => { t with reused := address :: t.reused }

def substitute (j : Job) (sub : Substitution) : Work Unit := do
  let s ← j.resolve sub.search
  j.checkGroups s sub.greatestGroup
  let line := (← get).space
  let rules := j.rules s
  let start : Place := { after := line.text }
  match s.pattern.findFrom rules (line.text.length + 1) start with
  | none => return
  | some (start, way) =>
    j.trace fun _ => Trace.registers start way s.groups
    let (text, changed) := sub.replace rules s.pattern line.text
    modify fun t => { t with space := { line with text }, spareEnded := line.ended }
    if !changed then return
    modify fun t => { t with replaced := true }
    if sub.printedBefore then emitLine j.manner .output (← get).space
    if sub.executed then j.runSpace
    if sub.printed then emitLine j.manner .output (← get).space
    match sub.written with
    | some sink => emitLine j.manner sink (← get).space
    | none => return

/-- The symbols of a text with some of them exchanged. -/
def exchanged (pairs : List (Symbol × Symbol)) (text : List UInt8) : List UInt8 :=
  (Symbol.ofOctets text).flatMap fun s => ((pairs.lookup s).getD s).octets

/-- Takes the next line of a file for the end of the line. -/
def takeLine (j : Job) (name : String) : Work Unit := do
  let s ← get
  let isInput := name = "/dev/stdin"
  let octets ←
    if isInput then pure s.input
    else
      match s.taken.lookup name with
      | some octets => pure octets
      | none => octetsOf j.call j.manner name
  let text := octets.takeWhile (· != j.manner.lineEnd)
  let rest := octets.drop text.length
  let text := text ++ rest.take 1
  if isInput then modify fun s => { s with input := rest.drop 1, touched := true }
  else
    modify fun s =>
      { s with taken := (name, rest.drop 1) :: s.taken.filter fun t => t.1 != name }
  if !octets.isEmpty then modify fun s => { s with queue := s.queue ++ [Queued.text text] }

/-- Reads the next line; answers with whether there is none. -/
def readSpace (j : Job) (appended : Bool) : Work Bool := do
  if ← atEnd j.call j.manner then return true
  return !(← Edit.readSpace j.call j.manner j.script appended)

/-- Whether the range of the instruction at a place goes on. -/
def inRange (place : Nat) : Work Bool := do
  return (← get).ranges.lookup place matches some (.active _)

def jump (place target : Nat) (condition : JumpCondition) : Work Next := do
  let replaced := (← get).replaced
  match condition with
  | .always => return .go target
  | .replaced =>
    modify fun s => { s with replaced := false }
    return .go (if replaced then target else place + 1)
  | .notReplaced =>
    modify fun s => { s with replaced := false }
    return .go (if replaced then place + 1 else target)

/-- Writes the text of an instruction, with a line end in the place of its last octet. -/
def emitText (j : Job) (text : List UInt8) : Work Unit :=
  let line := if text.isEmpty then [] else text.dropLast ++ [j.manner.lineEnd]
  emitAfter j.manner .output line

/-- Does the action of the instruction at a place. -/
def act (j : Job) (place : Nat) (action : Action) : Work Next := do
  let m := j.manner
  let done : Next := .go (place + 1)
  let s ← get
  match action with
  | .label _ => return done
  | .block _ => return done
  | .blockEnd => return done
  | .jump condition target => jump place target condition
  | .substitute sub =>
    j.substitute sub
    j.traceSpace
    return done
  | .exchange pairs =>
    set { s with space := { s.space with text := exchanged pairs s.space.text } }
    j.traceSpace
    return done
  | .delete => return .done false
  | .deleteFirst =>
    match splitFirst m s.space with
    | (_, none) => return .drop
    | (_, some text) =>
      set { s with space := { s.space with text } }
      return .again
  | .print =>
    emitLine m .output s.space
    return done
  | .printFirst =>
    emitLine m .output (splitFirst m s.space).1
    return done
  | .list width =>
    emitAfter m .output (list m.lineEnd (width.getD m.width) s.space.text)
    return done
  | .next =>
    if !m.quiet then emitLine m .output s.space
    if ← j.readSpace false then return .done false
    j.traceSpace
    return done
  | .appendNext =>
    if ← j.readSpace true then return .done (!m.plain)
    j.traceSpace
    return done
  | .hold appended =>
    let text := if appended then s.kept.text ++ m.lineEnd :: s.space.text else s.space.text
    set { s with kept := { s.space with text } }
    j.traceKept
    return done
  | .get appended =>
    let text := if appended then s.space.text ++ m.lineEnd :: s.kept.text else s.kept.text
    set { s with space := { s.kept with text } }
    if appended then j.traceSpace else j.traceKept
    return done
  | .swap =>
    set { s with space := s.kept, kept := s.space }
    j.traceSpace
    j.traceKept
    return done
  | .clear =>
    set { s with space := { s.space with text := [] } }
    j.traceSpace
    return done
  | .number =>
    emitAfter m .output (Text.Utf8.encode (toString s.number) ++ [m.lineEnd])
    return done
  | .fileName =>
    emitAfter m .output (Text.Utf8.encode s.file ++ [m.lineEnd])
    return done
  | .insert text =>
    j.emitText text
    return done
  | .append text =>
    set { s with queue := s.queue ++ [Queued.text text] }
    return done
  | .change text =>
    if !(← inRange place) then j.emitText text
    return .done false
  | .execute [] =>
    j.runSpace
    return done
  | .execute script =>
    let output ← j.runScript script.dropLast
    emitAfter m .output output
    return done
  | .readFile name =>
    set { s with queue := s.queue ++ [Queued.file name] }
    return done
  | .readFirst name =>
    emit m .output (← octetsOf j.call m name)
    return done
  | .readLine name found =>
    if found then j.takeLine name
    return done
  | .writeFile sink =>
    emitLine m sink s.space
    return done
  | .writeFirst sink =>
    emitLine m sink (splitFirst m s.space).1
    return done
  | .quit printed status =>
    if printed then
      if !m.quiet then emitLine m .output s.space
      endLine m .output
      flush j.call m
    throw (.quit (status.getD 0 % 256))
  | .reformat _ => fail "INTERNAL ERROR: Bad cmd L"

/-- Does the instruction at a place if its address selects the line. -/
def step (j : Job) (place : Nat) (i : Instruction) : Work Next := do
  if j.manner.traced then
    let (text, depth) := Trace.instruction j.script.instructions (← get).depth i
    j.trace fun _ => Trace.say "COMMAND: " ++ text
    modify fun s => { s with depth }
  let selected := (← j.selects place i.address) != i.others
  match i.action with
  | .block blockEnd => return .go (if selected then place + 1 else blockEnd)
  | action => if selected then j.act place action else return .go (place + 1)

/-- Begins the work on the next line; answers with whether there is one. -/
def begin (j : Job) : Work Bool := do
  if !(← Edit.readSpace j.call j.manner j.script false) then return false
  j.trace fun s => Trace.input s.file s.number
  j.traceSpace
  return true

/-- Ends the work on a line, and begins that on the next one. -/
def finish (j : Job) (printed : Bool) : Work Bool := do
  j.trace fun _ => Trace.say "END-OF-CYCLE:\n"
  if printed && !j.manner.quiet then emitLine j.manner .output (← get).space
  flush j.call j.manner
  j.begin

/-- Goes on with what is left of the line. -/
def resume (j : Job) : Work Unit := do
  flush j.call j.manner
  j.traceSpace

/-- Goes on after an instruction if there is something to go on with. -/
def advance (j : Job) (place : Nat) : Work (Option Nat) := do
  let next ←
    match j.script.instructions[place]? with
    | none => pure (.done true)
    | some i => j.step place i
  match next with
  | .go place => return some place
  | .again =>
    j.resume
    return some 0
  | .done printed => return if ← j.finish printed then some 0 else none
  | .drop =>
    flush j.call j.manner
    return if ← j.begin then some 0 else none

/-- Does instructions from a place on, in at most `fuel` steps. -/
def run (j : Job) : Nat → Nat → State → Halt × State
  | 0, _, s => (.endless, s)
  | fuel + 1, place, s =>
    match (j.advance place).run s with
    | (.error halt, s) => (halt, s)
    | (.ok none, s) => (.quit 0, s)
    | (.ok (some place), s) => run j fuel place s

def mostSteps (j : Job) (s : State) : Nat :=
  1000000 + 4 * (s.input.length + 1) * (j.script.instructions.size + 1)

/-- The end of an edit; the file that is read is replaced unless editing failed. -/
def ended (j : Job) (halt : Halt) (s : State) : Halt × State :=
  match halt with
  | .quit _ =>
    match (close j.manner).run s with
    | (.error halt, s) => (halt, s)
    | (.ok _, s) => (halt, s)
  | halt => (halt, s)

def edit (j : Job) (s : State) : Halt × State :=
  match j.begin.run s with
  | (.error halt, s) => (halt, s)
  | (.ok false, s) => (.quit 0, s)
  | (.ok true, s) =>
    let (halt, s) := j.run (j.mostSteps s) 0 s
    j.ended halt s

end Job
end Edit
end Formatter
end FlowDecl
