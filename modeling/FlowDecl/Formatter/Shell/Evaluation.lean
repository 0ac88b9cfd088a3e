import FlowDecl.Formatter.Shell.Builtins

/-!
# Running scripts

The commands of a script run one after the other.  A command is one of the shell itself, a function
of the script or a standard program.  Each level of commands is run by the level above it, up to a
depth that scripts do not reach unless their functions call themselves without end.
-/

namespace FlowDecl
namespace Formatter
namespace Shell

open Act

/-- The commands that the shell runs itself, but for those that run others. -/
def ownBuiltins (below : Below) : List (String × Builtin) :=
  [("echo", Builtin.echo), ("printf", Builtin.printf), ("test", Builtin.test),
    ("[", Builtin.bracket), ("pwd", Builtin.pwd), ("cd", Builtin.cd), ("chdir", Builtin.cd),
    ("read", Builtin.read), ("export", Builtin.export), ("readonly", Builtin.readonly),
    ("local", Builtin.local), ("unset", Builtin.unset), ("shift", Builtin.shift),
    ("set", Builtin.set), ("break", Builtin.leaveLoops false),
    ("continue", Builtin.leaveLoops true), ("return", Builtin.return), ("exit", Builtin.exit),
    ("kill", Builtin.kill below), ("trap", Builtin.trap), ("wait", Builtin.wait below),
    ("jobs", Builtin.jobs below), ("fg", Builtin.resume), ("bg", Builtin.resume),
    ("alias", Builtin.alias), ("unalias", Builtin.unalias), ("getopts", Builtin.getopts),
    (":", fun _ => setStatus 0), ("true", fun _ => setStatus 0), ("false", fun _ => setStatus 1),
    ("times", fun _ => Builtin.emitLine "0m0.00s 0m0.00s\n0m0.00s 0m0.00s"),
    ("umask", Builtin.umask), ("ulimit", fun _ => Builtin.emitLine "unlimited")]

/-- The commands of the shell that run others. -/
def runners : List String := ["eval", ".", "exec", "command", "type"]

def isBuiltinName (below : Below) (name : List Char) : Bool :=
  let text := String.ofList name
  text = "hash" || runners.contains text || ((ownBuiltins below).lookup text).isSome

/-- The commands that the shell runs itself, but for those that run others. -/
def builtins (below : Below) : List (String × Builtin) :=
  ("hash", Builtin.hash (isBuiltinName below)) :: ownBuiltins below

/-- Whether a name is that of a command that every shell has to have. -/
def isSpecialName (name : List Char) : Bool :=
  Inner.specialNames.contains (String.ofList name)

/-- The commands whose arguments may be assignments. -/
def assigningNames : List String := ["export", "readonly", "local"]

namespace Below

/-- Ends a script whose command failed untested, if it is to end then. -/
def checkStatus (tested : Bool) : Act Unit := do
  let s ← session
  if !tested && s.status != 0 && s.options.contains 'e' then throw .exit

/-! ## Programs -/

/-- The variables that a new shell begins with, besides those that are exported to it. -/
def firstVariables (path : List Char) : List (List Char × Variable) :=
  let plain (name value : String) : List Char × Variable :=
    (name.toList, { value := some value.toList })
  [plain "IFS" " \t\n", plain "OPTIND" "1", plain "PS1" "$ ", plain "PS2" "> ", plain "PS4" "+ ",
    plain "PPID" "999", ("PWD".toList, { value := some path, exported := true })]

structure Start where
  options : List Char := []
  /-- The text of the script is the first operand. -/
  takesText : Bool := false
  operands : List (List Char) := []

/-- Reads the arguments that a shell is called with, at most `fuel` of them. -/
def readStart (s : Start) : Nat → List (List Char) → Act Start
  | 0, rest => return { s with operands := rest }
  | fuel + 1, argument :: rest =>
    match argument with
    | ['-'] => return { s with operands := rest }
    | ['-', '-'] => return { s with operands := rest }
    | sign :: letters =>
      if sign = '-' || sign = '+' then do
        let on := sign = '-'
        let others := letters.filter fun c => c != 'c' && c != 'o' && c != 'l'
        others.forM (Builtin.setOption on)
        let s := { s with takesText := s.takesText || letters.contains 'c' }
        if letters.contains 'o' then
          match rest with
          | [] => return s
          | name :: rest =>
            Builtin.setNamed on name
            readStart s fuel rest
        else readStart s fuel rest
      else return { s with operands := argument :: rest }
    | [] => return { s with operands := argument :: rest }
  | _, [] => return s

/-- Reads the script that a shell is called with. -/
def scriptOf (start : Start) : Act (List Char) := do
  match start.takesText, start.operands with
  | true, text :: rest =>
    changeSession fun s =>
      { s with name := rest.headD s.name, arguments := rest.drop 1 }
    return text
  | true, [] => fail "-c requires an argument".toList
  | false, path :: rest =>
    if (← hasOption 's') then
      changeSession fun s => { s with arguments := path :: rest }
      let octets ← readable 0
      leave 0 0
      return Text.octetChars octets
    else
      match (← world).tree.read (Text.gather path) with
      | .ok octets =>
        changeSession fun s => { s with name := path, arguments := rest }
        return Text.octetChars octets
      | .error cause => failOpening false path (openingWords false cause)
  | false, [] =>
    Builtin.setOption true 's'
    let octets ← readable 0
    leave 0 0
    return Text.octetChars octets

/-- Runs a shell in the place of the running process. -/
def runShell (below : Below) (name : List Char) (arguments : List (List Char)) : Act Unit := do
  let around ← session
  let path := Builtin.currentPath (← world).tree
  let exported := around.bindings.filter fun v => v.2.exported
  let first := firstVariables path
  let kept := exported.filter fun v => (first.lookup v.1).isNone
  let traps := around.traps.filter fun t => t.command.isEmpty
  let { descriptors, process, .. } := around
  changeSession fun _ =>
    { name, number := process, process, bindings := first ++ kept, descriptors, traps, line := 0 }
  let run : Act Unit := do
    let start ← readStart {} arguments.length arguments
    let text ← scriptOf start
    below.runText false text
  below.runWhole run

/-- Runs a script for a program, on an input of its own. -/
def runFor (below : Below) (around : Session) (tree : Files.Tree) (script input : List UInt8) :
    ScriptRun :=
  let session := { around with descriptors := [(0, 0), (1, 1), (2, 2)] }
  let world : World := { tree, streams := #[.source input, .sink [], .sink []] }
  let name := "sh".toList
  let run := below.apart (below.runShell name ["-c".toList, Text.octetChars script])
  let (stop, s) := run.run { world, session }
  let sunk (number : Nat) : List UInt8 :=
    match s.world.streams[number]? with
    | some (.sink parts) => parts.reverse.flatten
    | _ => []
  let rest :=
    match s.world.streams.toList with
    | .source octets :: _ => octets
    | _ => []
  { tree := s.world.tree, output := sunk 1, errors := sunk 2, rest
    slept := later s.world.time s.world.held, endless := stop matches .error .endless }

/-- Lets time pass for a program that the running process waits for.  A signal may come first. -/
def pass (seconds : Decimal.Fraction) : Act Unit := do
  if seconds.num = 0 then return ()
  let { process, descriptors, traps, .. } ← session
  let { time, cutoff, .. } ← world
  let final := time.add seconds
  let hold (w : World) : World :=
    { w with held := if holdsFirst descriptors then later w.held final else w.held }
  match cutoff.filter fun c => c.time.lt final with
  | none => changeWorld fun w => hold { w with time := final }
  | some c =>
    let trap := traps.find? fun t => process = c.process && t.signal = c.signal
    let isIgnored := trap.any (·.command.isEmpty)
    if isCatchable c.signal && (isIgnored || (trap.isSome && !c.isDirect)) then
      let sent := if isIgnored then [] else [{ process := c.process, signal := c.signal, time := c.time : Sent }]
      changeWorld fun w =>
        hold { w with time := final, cutoff := none, signals := w.signals ++ sent }
    else
      changeWorld fun w =>
        let w := if c.isDirect then w else hold w
        { w with time := later time c.time }
      throw (.signal c.process c.signal)

def runFilter (below : Below) (filter : Filter) (name : List Char) (arguments : List (List Char)) :
    Act Unit := do
  step 40
  let { tree, .. } ← world
  let around ← session
  let read ← input 0
  let inputFault :=
    match read with
    | .error cause => some cause
    | .ok _ => none
  let call : Call :=
    { tree, program := Text.gather name, arguments := arguments.map Text.gather
      input := read.toOption.getD [], inputFault, inputClosed := (← behind 0).isNone
      seekable := ← isFileBehind 0
      outputFault := ← writeFault 1, runScript := below.runFor around }
  let r := filter call
  r.tree.forM fun tree => changeWorld fun w => { w with tree }
  r.written.forM fun (descriptor, octets) => discard (write descriptor octets)
  if inputFault.isNone then leave 0 r.rest.length
  setStatus r.status
  pass r.slept
  if r.endless then throw .endless
  below.runEnded
  seeEnds
  below.receiveAll mostJobs

/-- Runs a program; unless directories are given, it is looked for as usual. -/
def runProgram (below : Below) (directories : Option (List String)) (name : List Char)
    (arguments : List (List Char)) : Act Unit := do
  let { tree, .. } ← world
  let isPath := name.contains '/'
  let found ←
    match directories with
    | some directories => pure (Standard.find tree directories (Text.gather name))
    | none => if isPath then pure (Standard.find tree [] (Text.gather name)) else Builtin.locate name
  match found with
  | .program program _ =>
    below.runEnded
    match Standard.filters.lookup program with
    | some filter => below.runFilter filter name arguments
    | none => below.apart (below.runShell name arguments)
  | .nothing cause =>
    say (name ++ ": ".toList ++ (Builtin.startingWords cause).toList)
    let isMissing := cause = .missing || cause = .notADirectory || cause = .tooLong
    setStatus (if isPath && !isMissing then 126 else 127)

/-! ## Commands by name -/

def putBackVariables (old : List (List Char × Option Variable)) : Act Unit :=
  old.forM fun (name, v) => putVariable name v

/-- The functions that may run within each other. -/
def mostFunctions : Nat := 1000

def runFunction (below : Below) (tested : Bool) (body : Command) (arguments : List (List Char)) :
    Act Unit := do
  let around ← session
  if mostFunctions ≤ around.depth then
    fail s!"Maximum function recursion depth ({mostFunctions}) reached".toList
  changeSession fun s =>
    { s with arguments, loops := 0, saved := [] :: s.saved, depth := s.depth + 1 }
  let stop ← caught (below.run tested body)
  putBackVariables ((← session).saved.headD [])
  changeSession fun s =>
    { s with
      arguments := around.arguments, loops := around.loops, saved := around.saved
      depth := around.depth }
  match stop with
  | none => return ()
  | some .back => return ()
  | some stop => throw stop

/-- Runs with messages about a command of the shell.  Faults of a command that not every shell has
to have do not end the script. -/
def asBuiltin (name : List Char) (isSpecial : Bool) (act : Act Unit) : Act Unit := do
  let around := (← session).command
  changeSession fun s => { s with command := some name, unwritten := false }
  let stop ← caught act
  if (← session).unwritten && stop.isNone then
    say (name ++ ": I/O error".toList)
    changeSession fun s => { s with status := if s.status % 2 = 0 then s.status + 1 else s.status }
  changeSession fun s => { s with command := around, unwritten := false }
  match stop with
  | none => return ()
  | some .fault => if isSpecial then throw .fault else setStatus 2
  | some stop => throw stop

def scriptIn (path : List Char) : Act (List Char) := do
  let name := Text.gather path
  if name = "/dev/null" then return []
  else if descriptorPath? name = some 0 then
    let octets ← readable 0
    leave 0 0
    return Text.octetChars octets
  else if !path.contains '/' then fail (path ++ ": not found".toList)
  else
    match (← world).tree.read name with
    | .ok octets => return Text.octetChars octets
    | .error cause => failOpening false path (openingWords false cause)

/-- Runs the script in a file. -/
def source (below : Below) (tested : Bool) : Builtin := fun arguments => do
  match arguments with
  | [] => setStatus 0
  | path :: _ =>
    let text ← scriptIn path
    match ← caught (below.runText tested text) with
    | some .back => return ()
    | stop => stop.forM throw

/-- Tells what a name stands for; `full` asks for a sentence. -/
def describe (below : Below) (full : Bool) (name : List Char) : Act Unit := do
  let text := String.ofList name
  let tell (sentence plain : List Char) : Act Unit :=
    Builtin.emit ((if full then name ++ sentence else plain) ++ ['\n'])
  let tellKind (kind : String) : Act Unit := tell (" is a ".toList ++ kind.toList) name
  let { aliases, functions, located, .. } ← session
  let { tree, .. } ← world
  if Keyword.all.any fun k => k.1 = text then tellKind "shell keyword"
  else if let some value := aliases.lookup name then
    tell (" is an alias for ".toList ++ value)
      ("alias ".toList ++ (Builtin.aliasLine (name, value)).dropLast)
  else if (functions.lookup name).isSome then tellKind "shell function"
  else if isSpecialName name then tellKind "special shell builtin"
  else if isBuiltinName below name then tellKind "shell builtin"
  else if name.contains '/' then
    if (Standard.programAt? tree (Text.gather name)).isSome || tree.hasPath (Text.gather name) then
      tell (" is ".toList ++ name) name
    else missing full
  else
    let isTracked := located.any fun l => l.name = name
    match ← Builtin.locate name with
    | .program _ path =>
      tell ((if isTracked then " is a tracked alias for " else " is ").toList ++ Text.spread path)
        (Text.spread path)
    | .nothing _ => missing full
where
  /-- Tells that a name stands for nothing. -/
  missing (full : Bool) : Act Unit := do
    if full then Builtin.emit (name ++ ": not found\n".toList)
    setStatus 127

/-- Tells what names stand for; the status is that of the last one that stands for nothing. -/
def describeAll (below : Below) (full : Bool) (names : List (List Char)) : Act Unit := do
  let mut status := 0
  for name in names do
    setStatus 0
    below.describe full name
    status := max status (← session).status
  setStatus status

/-- How a command is run by its name. -/
structure Calling where
  /-- Functions are left out, and faults do not end the script. -/
  isPlain : Bool := false
  /-- The directories of programs, if not the usual ones. -/
  directories : Option (List String) := none

/-- Runs a command by its name. -/
def runNamed (below : Below) (tested : Bool) : Nat → Calling → List (List Char) → Act Unit
  | 0, _, _ => return ()
  | _, _, [] => setStatus 0
  | fuel + 1, calling, name :: arguments => do
    let text := String.ofList name
    let s ← session
    let function := if calling.isPlain then none else s.functions.lookup name
    let isSpecial := isSpecialName name && !calling.isPlain
    match function with
    | some body => below.runFunction tested body arguments
    | none =>
      if text = "eval" then
        asBuiltin name isSpecial (below.runText tested (Printing.joined arguments))
      else if text = "." then asBuiltin name isSpecial (below.source tested arguments)
      else if text = "type" then asBuiltin name false (below.describeAll true arguments)
      else if text = "exec" then
        match arguments with
        | [] => setStatus 0
        | program :: arguments =>
          asBuiltin name isSpecial do
            below.runProgram none program arguments
            changeSession fun s => { s with traps := [] }
            throw .exit
      else if text = "command" then
        let known := [('p', false), ('v', false), ('V', false)]
        let around := (← session).command
        changeSession fun s => { s with command := some name }
        let read ← tryCatch (some <$> Builtin.letters known arguments) fun stop =>
          if stop = .fault then return none else throw stop
        changeSession fun s => { s with command := around }
        match read with
        | none => setStatus 2
        | some (options, arguments) =>
          match (options.filter fun o => o.1 != 'p').getLast? with
          | some (letter, _) =>
            asBuiltin name false (below.describeAll (letter = 'V') (arguments.take 1))
          | none =>
            let directories := if options.isEmpty then none else some Standard.searched
            below.runNamed tested fuel { isPlain := true, directories } arguments
      else
        match (builtins below).lookup text with
        | some act => asBuiltin name isSpecial (act arguments)
        | none => below.runProgram calling.directories name arguments

/-! ## Simple commands -/

/-- The texts of words; assignments among the arguments of some commands are not split. -/
def argumentTexts (below : Below) : List (List Char) → List Word → Act (List (List Char))
  | texts, [] => return texts
  | texts, word :: rest => do
    let assigns :=
      match texts with
      | name :: second :: _ =>
        assigningNames.contains (String.ofList name) ||
          (name = "command".toList && assigningNames.contains (String.ofList second))
      | [name] => assigningNames.contains (String.ofList name)
      | [] => false
    if assigns && (assignment? word).isSome then
      let text ← below.assigned word
      below.argumentTexts (texts ++ [text]) rest
    else
      let new ← below.fields word
      below.argumentTexts (texts ++ new) rest

/-- Sets variables one after the other, and tells what they were before and their new values. -/
def assignAll (below : Below) (exported : Bool) : List (List Char × Word) →
    Act (List (List Char × Option Variable) × List (List Char))
  | [] => return ([], [])
  | (name, word) :: rest => do
    let text ← below.assigned word
    let old ← lookVariable name
    setVariable name text exported
    let (olds, texts) ← below.assignAll exported rest
    return ((name, old) :: olds, (name ++ '=' :: text) :: texts)

/-- What stands before a command that is shown. -/
def traceStart (below : Below) : Act (List Char) := do
  let text := (← value? "PS4".toList).getD []
  match readText text with
  | .ok word => below.textOf word false
  | .error _ => return text

/-- Shows a command before it runs, if this is asked for. -/
def trace (below : Below) (descriptors : List (Nat × Nat)) (texts : List (List Char)) :
    Act Unit := do
  if (← hasOption 'x') && !(← session).tracing then
    let redirected := (← session).descriptors
    changeSession fun s => { s with tracing := true }
    let start ← below.traceStart
    changeSession fun s => { s with tracing := false, descriptors }
    Builtin.mutter (start ++ Printing.joined texts)
    changeSession fun s => { s with descriptors := redirected }

def runSimple (below : Below) (tested : Bool) (line : Nat)
    (assignments : List (List Char × Word)) (words : List Word)
    (redirections : List Redirection) : Act Unit := do
  changeSession fun s => { s with line, takenStatus := 0 }
  let texts ← below.argumentTexts [] words
  let name := texts.head?
  let { functions, .. } ← session
  let isFunction := name.any fun name => (functions.lookup name).isSome
  let isSpecial := name.any isSpecialName
  let rs ← below.ready redirections
  let descriptors := (← session).descriptors
  let restore : Act Unit := changeSession fun s => { s with descriptors }
  if !(← below.redirectAll rs) then
    restore
    setStatus 2
    if isSpecial then throw .fault
  else
    let keeps := name.isNone || (isSpecial && !isFunction)
    let act : Act Unit := do
      let (olds, values) ← below.assignAll (!keeps) assignments
      below.trace descriptors (values ++ texts)
      match name with
      | none => changeSession fun s => { s with status := s.takenStatus }
      | some _ =>
        let stop ← caught (below.runNamed tested (texts.length + 1) {} texts)
        if !keeps then putBackVariables olds.reverse
        stop.forM throw
    let stop ← caught act
    if name != some "exec".toList || stop.isSome then restore
    stop.forM throw
  checkStatus tested

/-! ## Loops -/

/-- What becomes of a loop after one of its turns, with the status that it would end with. -/
inductive Turn where
  | again (status : Nat)
  | done (status : Nat)

/-- What becomes of a loop after a stop. -/
def Turn.ofStop (status : Nat) : Stop → Act Turn
  | .leave n => if n ≤ 1 then return .done status else throw (.leave (n - 1))
  | .goOn n => if n ≤ 1 then return .again status else throw (.goOn (n - 1))
  | stop => throw stop

/-- Runs the script of a loop once. -/
def runTurn (below : Below) (tested : Bool) (script : Script) : Act Turn := do
  match ← caught (below.runAll tested script) with
  | none => return .again (← session).status
  | some stop => Turn.ofStop (← session).status stop

def runTested (below : Below) (tested succeeds : Bool) (test script : Script) (status : Nat) :
    Act Turn := do
  match ← caught (below.runAll true test) with
  | some stop => Turn.ofStop status stop
  | none =>
    if ((← session).status = 0) = succeeds then below.runTurn tested script
    else return .done status

/-- Takes turns as long as they ask for another one, at most `fuel` of them. -/
def takeTurns (turn : Nat → Act Turn) : Nat → Nat → State → Except Stop Unit × State
  | 0, _, s => (.error .endless, s)
  | fuel + 1, status, s =>
    match (turn status).run s with
    | (.ok (.again status), s) => takeTurns turn fuel status s
    | (.ok (.done status), s) => (setStatus status).run s
    | (.error stop, s) => (.error stop, s)

def mostTurns : Nat := 1000000

/-- Runs a script for each of some values. -/
def runEach (below : Below) (tested : Bool) (name : List Char) (script : Script) :
    List (List Char) → Nat → Act Unit
  | [], status => setStatus status
  | value :: rest, _ => do
    setVariable name value
    match ← below.runTurn tested script with
    | .again status => below.runEach tested name script rest status
    | .done status => setStatus status

def inLoop (act : Act Unit) : Act Unit := do
  let loops := (← session).loops
  changeSession fun s => { s with loops := loops + 1 }
  let stop ← caught act
  changeSession fun s => { s with loops }
  stop.forM throw

/-! ## Commands -/

/-- Runs one of the commands that are piped: it reads a stream and writes another.  The result tells
whether it does not end by itself. -/
def runPart (below : Below) (tested : Bool) (input output : Option Nat) (c : Command) :
    Act Bool := do
  let around ← session
  let place := (← world).tree.current
  let stop ← caught (below.apart do
    input.forM (attach 0)
    output.forM (attach 1)
    below.run tested c.last)
  match stop with
  | some .endless =>
    changeSession fun _ => around
    changeWorld fun w => { w with tree := { w.tree with current := place } }
    return true
  | some stop => throw stop
  | none => return false

/-- The steps that a command which writes to another one may take at first. -/
def firstSteps : Nat := 20000

/-- The steps of a script up to which this is tried. -/
def triedSteps : Nat := 60000

/-- Runs an act, and if it does not end another one in its place after some steps. -/
def orElse (steps : Nat) (first second : Act Unit) : Act Unit := do
  match first.run.run (← get) with
  | (.error .endless, _) =>
    step steps
    second
  | (.error stop, s) =>
    set s
    throw stop
  | (.ok (), s) => set s

/-- Runs commands each of which reads what the one before it writes; all begin at the same time.
What does not end is ended when nothing more is read of what it writes; `isOpen` tells that the
input goes on.  At first it is tried whether a few steps of each command are enough. -/
def runPiped (below : Below) (tested : Bool) (start : Decimal.Fraction) (isOpen : Bool) :
    Option Nat → List Command → Act Unit
  | _, [] => return ()
  | input, c :: rest =>
    let run (most : Option Nat) : Act Unit := do
      let { time := ended, steps, mostSteps, .. } ← world
      let limit := (most.map fun n => min mostSteps (steps + n)).getD mostSteps
      changeWorld fun w => { w with time := start, mostSteps := limit }
      let sink ← newStream (.sink [])
      let output := if rest.isEmpty then none else some sink
      let isEndless ← below.runPart tested input output c
      below.drain sink
      changeWorld fun w =>
        { w with
          time := later ended w.time, mostSteps, steps := if isEndless && !rest.isEmpty then steps else w.steps }
      let left ←
        match input with
        | none => pure true
        | some number => (fun s => !(s matches .source [])) <$> stream number
      let goesOn := isEndless || (isOpen && !left)
      if rest.isEmpty then
        if goesOn then throw .endless
      else
        let next ← newStream (.source (← written sink))
        below.runPiped tested start goesOn (some next) rest
    do
      let { steps, mostSteps, .. } ← world
      if rest.isEmpty || triedSteps ≤ steps || mostSteps ≤ steps + firstSteps then run none
      else orElse firstSteps (run (some firstSteps)) (run none)

def pipesOf : Command → Nat
  | .pipe commands => commands.length - 1
  | _ => 0

/-- Starts a command beside the script.  It is run when the script waits for it, runs a program or
ends. -/
def startBeside (c : Command) : Act Unit := do
  let process ← newProcess
  let { time, .. } ← world
  let s ← session
  let job : Job := { process, session := s, command := c.last, start := time }
  changeWorld fun w => { w with jobs := w.jobs ++ [job] }
  let used := (s.started.filter fun j => !j.waited).map (·.number)
  let number := ((List.range (used.length + 1)).find? fun n => !used.contains (n + 1)).getD 0 + 1
  let new : Started := { number, process, pipes := pipesOf c }
  changeSession fun s =>
    { s with
      started := new :: s.started.filter fun j => j.number != number
      lastStarted := some process, status := 0 }

/-- Whether one of some patterns matches a text. -/
def anyFits (below : Below) (text : List Char) : List Word → Act Bool
  | [] => return false
  | word :: rest => do
    let pattern := Item.pattern (← below.expandWord {} word)
    if Glob.fits pattern text then return true else below.anyFits text rest

/-- Runs the first of some cases that matches a text. -/
def runCases (below : Below) (tested : Bool) (text : List Char) :
    List (List Word × Script) → Act Unit
  | [] => setStatus 0
  | (patterns, script) :: rest => do
    if ← below.anyFits text patterns then
      if script.isEmpty then setStatus 0 else below.runAll tested script
    else below.runCases tested text rest

def runCommand (below : Below) (tested : Bool) (c : Command) : Act Unit := do
  step 1
  match c with
  | .simple line assignments words redirections =>
    below.runSimple tested line assignments words redirections
  | .redirected line c redirections => do
    changeSession fun s => { s with line }
    below.redirected redirections (below.run tested c)
  | .pipe commands => do
    let { streams, time, .. } ← world
    let number := streams.size
    below.runPiped tested time false none commands
    releaseStreams number
    checkStatus tested
  | .inner line script redirections => do
    changeSession fun s => { s with line }
    let rs ← below.ready redirections
    below.apart do
      rs.forM below.redirect
      below.runAll tested script
    checkStatus tested
  | .beside c => startBeside c
  | .negated c => do
    below.run true c
    changeSession fun s => { s with status := if s.status = 0 then 1 else 0 }
  | .both first second => do
    below.run true first
    if (← session).status = 0 then below.run tested second
  | .either first second => do
    below.run true first
    if (← session).status != 0 then below.run tested second
  | .group script => below.runAll tested script
  | .choice test script otherwise => do
    below.runAll true test
    if (← session).status = 0 then below.runAll tested script
    else if otherwise.isEmpty then setStatus 0
    else below.runAll tested otherwise
  | .loop succeeds test script =>
    inLoop fun s => takeTurns (below.runTested tested succeeds test script) mostTurns 0 s
  | .each line name words script => do
    changeSession fun s => { s with line }
    let values ← below.argumentTexts [] words
    inLoop (below.runEach tested name script values 0)
  | .select line word cases => do
    changeSession fun s => { s with line }
    let text ← below.textOf word
    below.runCases tested text cases
  | .define name body => do
    changeSession fun s =>
      { s with functions := (name, body) :: s.functions.filter fun f => f.1 != name }
    setStatus 0

/-- Ends the running process because it goes too deep. -/
def tooDeep {α : Type} : Act α := do
  throw (.signal (← session).process 11)

/-- What runs a number of levels of commands.  A script that goes deeper is ended by a signal. -/
def ofDepth : Nat → Below
  | 0 => { run := fun _ _ => tooDeep, expand := fun _ _ => tooDeep }
  | depth + 1 =>
    let below := ofDepth depth
    { run := below.runCommand, expand := below.expandWord }

end Below
end Shell
end Formatter
end FlowDecl
