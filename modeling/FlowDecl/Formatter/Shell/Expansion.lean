import FlowDecl.Formatter.Shell.Arithmetic
import FlowDecl.Formatter.Shell.Fields
import FlowDecl.Formatter.Shell.Grammar
import FlowDecl.Formatter.Shell.State

/-!
# What words stand for

Parameters, the output of scripts and the values of expressions are put in the place of the pieces
of a word.  A script that stands in a word runs apart: what it changes in its session is lost.
What runs the inner commands of a level is given to what runs the level, as it is for reading.
-/

namespace FlowDecl
namespace Formatter
namespace Shell

structure Manner where
  /-- The word is split into fields. -/
  full : Bool := false
  /-- Plain characters may separate fields. -/
  splits : Bool := false
  /-- A tilde at the beginning stands for a directory. -/
  tilde : Bool := true
  /-- A tilde after a colon does so too. -/
  afterColons : Bool := false

/-- What runs the inner parts of a command.  A flag tells that the status of a command is tested. -/
structure Below where
  run : Bool → Command → Act Unit
  expand : Manner → Word → Act (List Item)

open Act

def optionLetters : List Char :=
  ['p', 'u', 'b', 'a', 'C', 'E', 'V', 'v', 'x', 's', 'n', 'm', 'i', 'I', 'f', 'e']

namespace Below

/-! ## Scripts in words -/

/-- Runs commands one after the other, unless they are only to be read. -/
def runAll (below : Below) (tested : Bool) : Script → Act Unit
  | [] => return ()
  | c :: rest => do
    if !(← hasOption 'n') then
      below.run tested c
      below.runAll tested rest

/-- Runs the lines of a text, at most `fuel` of them. -/
def runLines (below : Below) (tested : Bool) : Nat → Source → Act Unit
  | 0, _ => return ()
  | fuel + 1, source => do
    let nextNumber := (← world).nextText
    let aliases := (← session).aliases
    match { source with nextNumber, aliases : Source }.next with
    | .error (line, fault) =>
      changeSession fun s => { s with line }
      failAbout "Syntax error: " fault.words.toList
    | .ok (none, _) => return ()
    | .ok (some script, source) =>
      changeWorld fun w =>
        { w with texts := source.texts ++ w.texts, nextText := source.nextNumber }
      changeSession fun s => { s with readLine := source.line }
      below.runAll tested script
      below.runLines tested fuel { source with texts := [] }

def hasCommands (text : List Char) : Bool :=
  match ({ rest := text } : Source).next with
  | .ok (some [], source) => source.rest.any fun c => !isBlank c
  | .ok (none, _) => false
  | _ => true
where
  /-- Whether a character is a blank or a line end. -/
  isBlank (c : Char) : Bool := c = ' ' || c = '\t' || c = '\n'

/-- Runs a text as a script; the status of an empty one is zero. -/
def runText (below : Below) (tested : Bool) (text : List Char) : Act Unit := do
  unless hasCommands text do setStatus 0
  below.runLines tested (text.length + 1) { rest := text }

/-- Takes the trap of a signal away and tells its command. -/
def takeTrap (signal : Nat) : Act (Option (List Char)) := do
  let found := (← session).traps.find? fun t => t.signal = signal
  changeSession fun s => { s with traps := s.traps.filter fun t => t.signal != signal }
  return found.map (·.command)

/-- What was thrown, if anything. -/
def caught (act : Act Unit) : Act (Option Stop) :=
  tryCatch (do act; return none) fun stop => return some stop

/-- Runs what is to be done at the end of a script; a status that it gives counts. -/
def runEnd (below : Below) : Act Unit := do
  match ← takeTrap 0 with
  | none => return ()
  | some command =>
    let status := (← session).status
    match ← caught (below.runText false command) with
    | none => setStatus status
    | some .exit => return ()
    | some .fault => return ()
    | some stop => throw stop

/-- Runs to the end of a script.  Only a signal and what does not end go beyond it. -/
def runWhole (below : Below) (act : Act Unit) : Act Unit := do
  match ← caught act with
  | some (.signal p n) => throw (.signal p n)
  | some .endless => throw .endless
  | _ => below.runEnd

/-! ## Signals -/

/-- The signals that do nothing by themselves. -/
def mildSignals : List Nat := [0, 17, 18, 23, 28]

/-- The signals that stop a process without ending it. -/
def stoppingSignals : List Nat := [19, 20, 21, 22]

def isCatchable (signal : Nat) : Bool :=
  signal != 9 && signal != 19

def receive (below : Below) (n : Nat) : Act Unit := do
  let s ← session
  match s.traps.find? fun t => t.signal = n && isCatchable n with
  | some t =>
    if !t.command.isEmpty then
      below.runText false t.command
      setStatus s.status
  | none =>
    if mildSignals.contains n then return ()
    else if stoppingSignals.contains n then throw .endless
    else throw (.signal s.process n)

/-- Gets the signals that were sent to the running process, at most `fuel` of them. -/
def receiveAll (below : Below) : Nat → Act Unit
  | 0 => return ()
  | fuel + 1 => do
    let { signals, .. } ← world
    let { process, .. } ← session
    match signals.filter fun s => s.process = process with
    | [] => return ()
    | s :: rest =>
      changeWorld fun w =>
        { w with signals := rest ++ w.signals.filter fun s => s.process != process }
      below.receive s.signal
      below.receiveAll fuel

def signalWords : List (Nat × String) :=
  [(1, "Hangup"), (2, "Interrupt"), (3, "Quit"), (4, "Illegal instruction"),
    (5, "Trace/breakpoint trap"), (6, "Aborted"), (7, "Bus error"), (8, "Floating point exception"),
    (9, "Killed"), (10, "User defined signal 1"), (11, "Segmentation fault"),
    (12, "User defined signal 2"), (13, "Broken pipe"), (14, "Alarm clock"), (15, "Terminated"),
    (16, "Stack fault"), (24, "CPU time limit exceeded"), (25, "File size limit exceeded"),
    (26, "Virtual timer expired"), (27, "Profiling timer expired"), (29, "I/O possible"),
    (30, "Power failure"), (31, "Bad system call")]

def wordsFor (signal : Nat) : String :=
  (signalWords.lookup signal).getD s!"Real-time signal {signal - 34}"

/-- Says that a process was ended by a signal; of some signals nothing is said. -/
def sayEnded (signal : Nat) : Act Unit := do
  if signal != 2 && signal != 13 then
    let _ ← write 2 (Text.Utf8.encode (wordsFor signal ++ "\n"))

/-! ## Parts that run apart -/

def later (a b : Decimal.Fraction) : Decimal.Fraction :=
  if a.lt b then b else a

/-- Puts a stream behind a descriptor. -/
def attach (descriptor number : Nat) : Act Unit :=
  changeSession fun s =>
    let others := s.descriptors.filter fun d => d.1 != descriptor
    { s with descriptors := (descriptor, number) :: others }

def detach (descriptor : Nat) : Act Unit :=
  changeSession fun s =>
    { s with descriptors := s.descriptors.filter fun d => d.1 != descriptor }

def newProcess : Act Nat := do
  let { nextProcess, .. } ← world
  changeWorld fun w => { w with nextProcess := nextProcess + 1 }
  return nextProcess

/-- Runs as a process of its own.  Only the status is kept of its session; the result is the signal
that ended it. -/
def isolated (below : Below) (process : Nat) (act : Act Unit) : Act (Option Nat) := do
  let around ← session
  let place := (← world).tree.current
  changeSession fun s =>
    { s with process, traps := s.traps.filter (·.command.isEmpty), started := [] }
  let stop ← caught (below.runWhole act)
  let { status, .. } ← session
  changeSession fun _ => { around with status }
  changeWorld fun w => { w with tree := { w.tree with current := place } }
  match stop with
  | some (.signal p n) =>
    if p != process then throw (.signal p n)
    setStatus (128 + n)
    return some n
  | some stop => throw stop
  | none => return none

/-- Whether some descriptors hold one of the first streams open for writing. -/
def holdsFirst (descriptors : List (Nat × Nat)) : Bool :=
  descriptors.any fun d => d.2 = 1 || d.2 = 2

/-- Whether a job runs a program in its own place. -/
def isDirect (job : Job) : Bool :=
  match job.command with
  | .simple _ _ (word :: _) _ =>
    match Inner.plainText? word with
    | some name => (job.session.functions.lookup name).isNone
    | none => true
  | _ => false

/-- Runs one job.  The script goes on at the time at which it is. -/
def runJob (below : Below) (job : Job) : Act Unit := do
  let around ← session
  let { time, tree, jobs, cutoff, .. } ← world
  let nothing ← newStream (.nowhere .read)
  changeSession fun _ => job.session
  let others := jobs.filter fun j => j.process != job.process
  changeWorld fun w => { w with time := job.start, jobs := [], cutoff := job.cutoff }
  let signal ← below.isolated job.process do
    attach 0 nothing
    below.run false job.command
  let { status, .. } ← session
  changeSession fun _ => around
  let { descriptors, .. } := job.session
  changeWorld fun w =>
    let ended : Ended := { process := job.process, status, signal, time := w.time }
    { w with
      tree := { w.tree with current := tree.current }
      time, cutoff
      held := if !isDirect job && holdsFirst descriptors then later w.held w.time else w.held
      jobs := others ++ w.jobs
      ended := ended :: w.ended }

/-- The job that ends first of those that were not run yet: the time of its end, and the state after
it.  Jobs that do not end are left out. -/
def firstEnd? (below : Below) (s : State) : Option (Decimal.Fraction × State) :=
  s.world.jobs.foldl (fun found job =>
    match (below.runJob job).run.run s with
    | (.ok _, after) =>
      match after.world.ended.head?, found with
      | some e, none => some (e.time, after)
      | some e, some (time, other) => some (if e.time.lt time then (e.time, after) else (time, other))
      | none, found => found
    | (.error _, _) => found) none

def mostJobs : Nat := 10000

/-- Runs the jobs that have ended by now, at most `fuel` of them. -/
def runEndedFrom (below : Below) : Nat → Act Unit
  | 0 => throw .endless
  | fuel + 1 => do
    if (← world).jobs.isEmpty then return ()
    match below.firstEnd? (← get) with
    | none => return ()
    | some (time, after) =>
      if after.world.time.lt time then return ()
      set after
      below.runEndedFrom fuel

/-- Runs the jobs that have ended by now. -/
def runEnded (below : Below) : Act Unit :=
  below.runEndedFrom mostJobs

/-- Runs jobs in the order of their ends as long as one of some processes has not ended, at most
`fuel` of them.  The result tells whether this was broken off by a signal, by its number. -/
def awaitFrom (below : Below) (processes : List Nat) : Nat → Act (Option Nat)
  | 0 => throw .endless
  | fuel + 1 => do
    if !(← world).jobs.any fun j => processes.contains j.process then
      let ends := (← world).ended.filter fun e => processes.contains e.process
      changeWorld fun w => { w with time := ends.foldl (fun t e => later t e.time) w.time }
      return none
    match below.firstEnd? (← get) with
    | none => throw .endless
    | some (final, after) =>
      set after
      let { process, .. } ← session
      match (← world).signals.find? fun s => s.process = process && s.time.lt final with
      | some s =>
        changeWorld fun w => { w with time := later w.time s.time }
        below.receiveAll mostJobs
        return some s.signal
      | none =>
        changeWorld fun w => { w with time := later w.time final }
        below.receiveAll mostJobs
        below.awaitFrom processes fuel

def await (below : Below) (processes : List Nat) : Act (Option Nat) :=
  below.awaitFrom processes mostJobs

/-- Notes that the script knows of the ends so far. -/
def seeEnds : Act Unit :=
  changeWorld fun w => { w with ended := w.ended.map fun e => { e with seen := true } }

/-- Runs as a process of its own and waits for it. -/
def apart (below : Below) (act : Act Unit) : Act Unit := do
  let signal ← below.isolated (← newProcess) act
  below.runEnded
  seeEnds
  signal.forM sayEnded
  below.receiveAll mostJobs

/-- Waits for the jobs that can write to a stream. -/
def drain (below : Below) (number : Nat) : Act Unit := do
  let writers := (← world).jobs.filter fun j => j.session.descriptors.any fun d => d.2 = number
  if !writers.isEmpty then
    let _ ← below.await (writers.map (·.process))

/-- What a script writes, without the line ends at its end. -/
def outputOf (below : Below) (script : Script) : Act (List Char) := do
  let number ← newStream (.sink [])
  let status := (← session).status
  below.apart do
    attach 1 number
    below.runAll false script
  below.drain number
  let ended := (← session).status
  let takenStatus := if script.isEmpty then 0 else ended
  changeSession fun s => { s with status, takenStatus }
  let chars := (Text.octetChars (← written number)).filter fun c => c.toNat != 0
  releaseStreams number
  return (chars.reverse.dropWhile (· = '\n')).reverse

/-! ## Parameters -/

/-- The value of a parameter that is no list. -/
def parameter? (name : List Char) : Act (Option (List Char)) := do
  let s ← session
  match name with
  | ['?'] => return some (toString s.status).toList
  | ['#'] => return some (toString s.arguments.length).toList
  | ['$'] => return some (toString s.number).toList
  | ['!'] => return s.lastStarted.map fun n => (toString n).toList
  | ['-'] => return some (optionLetters.filter s.options.contains)
  | ['0'] => return some s.name
  | name =>
    if name.all Char.isDigit then
      let place := name.foldl (fun n c => n * 10 + (c.toNat - 48)) 0
      return if place = 0 then some s.name else s.arguments[place - 1]?
    else value? name

def argumentEnd : Char :=
  Char.ofNat 0

/-- The arguments with what stands between them; `each` tells that each is a field of its own
between quotes. -/
def argumentText (m : Manner) (inQuotes each : Bool) : Act (List Char) := do
  let marks ← value? "IFS".toList
  let isSplit := m.full && (if inQuotes then each else marks.isSome)
  let separator := if isSplit then [argumentEnd] else (marks.getD [' ']).take 1
  return separator.intercalate (← session).arguments

/-- The items of arguments with what stands between them. -/
def argumentItems (m : Manner) (inQuotes each : Bool) (text : List Char) : Act (List Item) := do
  let isSplit := each && inQuotes && m.full
  let items := text.map fun c =>
    if c != argumentEnd then Item.char c inQuotes (!inQuotes)
    else if isSplit then .gap
    else .char c false true
  let { arguments, .. } ← session
  return if isSplit && !arguments.isEmpty then items ++ [.mark] else items

/-- The text of a word that is no list of fields. -/
def textOf (below : Below) (word : Word) (tilde : Bool := true) : Act (List Char) := do
  return Item.text (← below.expand { tilde } word)

def parameterItems (below : Below) (m : Manner) (name : List Char) (use : Use) (inQuotes : Bool) :
    Act (List Item) := do
  let isList := name = ['@'] || name = ['*']
  let value ←
    if isList then some <$> argumentText m inQuotes (name = ['@']) else parameter? name
  let itemsOf (text : List Char) : Act (List Item) :=
    if isList then argumentItems m inQuotes (name = ['@']) text
    else return Item.ofText text inQuotes (!inQuotes)
  let items ← itemsOf (value.getD [])
  let inner : Manner := { m with splits := !inQuotes, tilde := !inQuotes }
  let isWanting (w : Wanting) : Bool :=
    match value with
    | none => true
    | some v => w = .unsetOrEmpty && v.isEmpty
  let needed : Act Unit := do
    if value.isNone && (← hasOption 'u') then fail (name ++ ": parameter not set".toList)
  match use with
  | .value =>
    needed
    return items
  | .length =>
    needed
    return Item.ofText (toString (value.getD []).length).toList inQuotes (!inQuotes)
  | .default w word => if isWanting w then below.expand inner word else return items
  | .alternative w word => if isWanting w then return [] else below.expand inner word
  | .assign w word =>
    if !isWanting w then return items
    else
      let text ← below.textOf word
      if !isName name then fail (name ++ ": bad variable name".toList)
      setVariable name text
      return Item.ofText text inQuotes (!inQuotes)
  | .require w word =>
    if !isWanting w then return items
    else
      let words ←
        if word.isEmpty then
          let tail := if w = .unsetOrEmpty then " or null" else ""
          pure ("parameter not set" ++ tail).toList
        else below.textOf word
      fail (name ++ [':', ' '] ++ words)
  | .trim atEnd longest word =>
    needed
    let pattern := Item.pattern (← below.expand {} word)
    itemsOf (Glob.trim atEnd longest pattern (value.getD []))
  | .wrong => fail "Bad substitution".toList

/-! ## Expressions -/

def valueOf (text : List Char) : Act Int := do
  let s ← session
  let wrong (fault : Arithmetic.Fault) : Act Int :=
    match fault with
    | .badNumber value => failAbout illegalNumber value
    | fault =>
      fail (("arithmetic expression: " ++ fault.words ++ ": \"").toList ++ text ++ ['"'])
  let given (name : List Char) : Option (List Char) := (s.bindings.lookup name).bind (·.value)
  match (Arithmetic.Expression.ofChars text).evaluate { given } with
  | .error fault => wrong fault
  | .ok (n, values) =>
    for (name, value) in values.assigned.reverse do
      setVariable name (toString value).toList
    return n

/-! ## Words -/

/-- The directory that a name after a tilde stands for. -/
def homeOf (name : List Char) : Act (Option (List Char)) := do
  if name.isEmpty then value? "HOME".toList
  else return if name = "root".toList then some "/root".toList else none

/-- The plain characters after a tilde, and what follows them; none if they are quoted. -/
def tildeName (afterColons : Bool) : Word → Option (List Char × Word)
  | .plain c :: rest =>
    if c = '/' || (afterColons && c = ':') then some ([], .plain c :: rest)
    else (fun r => (c :: r.1, r.2)) <$> tildeName afterColons rest
  | [] => some ([], [])
  | _ => none

/-- The items of the pieces of a word, at most `fuel` of them; `starts` tells that a tilde here
stands for a directory. -/
def pieceItems (below : Below) (m : Manner) : Nat → Bool → Word → Act (List Item)
  | 0, _, _ => return []
  | _, _, [] => return []
  | fuel + 1, starts, p :: rest => do
    let goOn (items : List Item) (rest : Word) : Act (List Item) := do
      return items ++ (← below.pieceItems m fuel false rest)
    match p with
    | .plain c =>
      let home ←
        if c = '~' && starts then
          match tildeName m.afterColons rest with
          | some (name, after) => (fun h => h.map fun h => (h, after)) <$> homeOf name
          | none => pure none
        else pure none
      match home with
      | some (home, after) => goOn (Item.ofText home true false) after
      | none =>
        let more ← below.pieceItems m fuel (m.afterColons && c = ':') rest
        return .char c false m.splits :: more
    | .quoted c => goOn [.char c true false] rest
    | .mark =>
      match rest with
      | .parameter ['@'] .value true :: .mark :: rest =>
        goOn (← argumentItems m true true (← argumentText m true true)) rest
      | rest => goOn [.mark] rest
    | .parameter name use inQuotes => goOn (← below.parameterItems m name use inQuotes) rest
    | .output script inQuotes =>
      let text ← below.outputOf script
      goOn (Item.ofText text inQuotes (!inQuotes)) rest
    | .value expression inQuotes =>
      let n ← valueOf (← below.textOf expression false)
      goOn (Item.ofText (toString n).toList inQuotes (!inQuotes)) rest

def expandWord (below : Below) (m : Manner) (word : Word) : Act (List Item) :=
  below.pieceItems m (word.length + 1) m.tilde word

def fields (below : Below) (word : Word) : Act (List (List Char)) := do
  let items ← below.expandWord { full := true } word
  let parts := Item.split (← separators) items
  let globs := !(← hasOption 'f')
  return parts.flatMap (Item.texts (← world).tree globs)

/-- The text of the value of an assignment. -/
def assigned (below : Below) (word : Word) : Act (List Char) := do
  return Item.text (← below.expandWord { afterColons := true } word)

end Below
end Shell
end Formatter
end FlowDecl
