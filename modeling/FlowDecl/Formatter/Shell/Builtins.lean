import FlowDecl.Formatter.Printing
import FlowDecl.Formatter.Shell.Condition
import FlowDecl.Formatter.Shell.Redirecting
import FlowDecl.Formatter.Standard

/-!
# Commands of the shell

The commands that the shell runs itself.  Each takes its arguments and sets a status.
-/

namespace FlowDecl
namespace Formatter
namespace Shell

open Act

/-- A command of the shell itself. -/
abbrev Builtin := List (List Char) → Act Unit

namespace Builtin

/-- Writes octets and sets a status. -/
def emit (text : List Char) (status : Nat := 0) : Act Unit := do
  let fault ← write 1 (Text.charOctets text)
  changeSession fun s => { s with unwritten := s.unwritten || fault.isSome, status }

def emitLine (line : String) (status : Nat := 0) : Act Unit :=
  emit (line.toList ++ ['\n']) status

/-- Writes a message without saying where it comes from. -/
def mutter (line : List Char) : Act Unit := do
  let _ ← write 2 (Text.charOctets (line ++ ['\n']))

/-- Reads the letters at the beginning of arguments, of those that are known; a flag tells that a
letter has a value.  At most `fuel` letters are read. -/
def readLetters (known : List (Char × Bool)) :
    Nat → List Char → List (List Char) → Act (List (Char × List Char) × List (List Char))
  | 0, _, rest => return ([], rest)
  | fuel + 1, c :: cs, rest =>
    match known.lookup c with
    | none => failAbout "Illegal option -" [c]
    | some false => do
      let (letters, rest) ← readLetters known fuel cs rest
      return ((c, []) :: letters, rest)
    | some true =>
      if !cs.isEmpty then do
        let (letters, rest) ← readLetters known fuel [] rest
        return ((c, cs) :: letters, rest)
      else
        match rest with
        | [] => fail ("No arg for -".toList ++ c :: " option".toList)
        | value :: rest => do
          let (letters, rest) ← readLetters known fuel [] rest
          return ((c, value) :: letters, rest)
  | fuel + 1, [], argument :: rest =>
    match argument with
    | ['-', '-'] => return ([], rest)
    | '-' :: c :: cs => readLetters known fuel (c :: cs) rest
    | _ => return ([], argument :: rest)
  | _, [], [] => return ([], [])

/-- Reads the letters at the beginning of arguments. -/
def letters (known : List (Char × Bool)) (arguments : List (List Char)) :
    Act (List (Char × List Char) × List (List Char)) :=
  readLetters known (arguments.flatten.length + arguments.length + 1) [] arguments

/-- A text between quotes, so that it is read as one word. -/
def quotedText (text : List Char) : List Char :=
  let inner := text.flatMap fun c => if c = '\'' then "'\"'\"'".toList else [c]
  '\'' :: inner ++ ['\'']

/-- Names with values, in order. -/
def listing (start : String) (entries : List (List Char × Option (List Char))) : List Char :=
  let sorted := entries.mergeSort fun a b => String.ofList a.1 ≤ String.ofList b.1
  sorted.flatMap fun (name, value) =>
    start.toList ++ name ++ (value.elim [] fun v => '=' :: quotedText v) ++ ['\n']

/-! ## Writing -/

/-- Writes its arguments on a line. -/
def echo : Builtin := fun arguments => do
  let (arguments, ending) :=
    match arguments with
    | ['-', 'n'] :: rest => (rest, [])
    | arguments => (arguments, ['\n'])
  let text := Printing.joined arguments
  let r := Printing.resolve .shell .line text.length text
  emit (if r.ending.isSome then r.octets else r.octets ++ ending)

/-- Writes its arguments by a format. -/
def printf : Builtin := fun arguments => do
  let (_, arguments) ← letters [] arguments
  match arguments with
  | [] => fail "usage: printf format [arg ...]".toList
  | format :: rest =>
    let w := Printing.print .shell format rest
    w.complaints.forM say
    emit w.output w.status
    if w.ended = some 2 then throw .fault

/-! ## Files -/

def aboutFile (tree : Files.Tree) (letter : Char) (path : List Char) : Bool :=
  let path := Text.gather path
  let isDevice := Files.isDevice path
  let isPipe := (Below.descriptorPath? path).isSome
  let isProgram := (Standard.programAt? tree path).isSome
  let exists_ := isDevice || isPipe || isProgram || tree.hasPath path
  if ['e', 'r', 'w', 'O', 'G'].contains letter then exists_
  else if letter = 'f' then isProgram || tree.isFile path
  else if letter = 'd' then tree.isDirectory path
  else if letter = 's' then
    isProgram || tree.isDirectory path || !((tree.read path).toOption.getD []).isEmpty
  else if letter = 'x' then isProgram || tree.isDirectory path
  else if letter = 'c' then isDevice
  else if letter = 'p' then isPipe
  else false

def test : Builtin := fun arguments => do
  match Condition.evaluate (aboutFile (← world).tree) arguments with
  | .ok holds => setStatus (if holds then 0 else 1)
  | .error words => fail words

/-- Evaluates a condition that ends with a bracket. -/
def bracket : Builtin := fun arguments => do
  if (arguments.getLastD []).head? = some ']' then test arguments.dropLast
  else fail "missing ]".toList

def currentPath (tree : Files.Tree) : List Char :=
  Text.spread (Files.fullPath tree.current)

/-- Shows the current directory. -/
def pwd : Builtin := fun arguments => do
  let _ ← letters [('L', false), ('P', false)] arguments
  emit (currentPath (← world).tree ++ ['\n'])

def directory? (tree : Files.Tree) (path : String) : Option (List String) :=
  match tree.locate path with
  | .ok place => if tree.node? place = some .directory then some place else none
  | .error _ => none

/-- Whether a path is looked for from the current directory alone. -/
def isFixed (path : List Char) : Bool :=
  match Text.splitOn '/' path with
  | part :: _ => part.isEmpty || part = ['.'] || part = ['.', '.']
  | [] => true

/-- The path of a directory from one of some directories, and whether it is shown. -/
def directoryFrom (tree : Files.Tree) (path : List Char) :
    List (List Char) → Option (List Char × Bool)
  | [] => none
  | start :: rest =>
    let full := if start.isEmpty then path else start ++ '/' :: path
    if (directory? tree (Text.gather full)).isSome then some (full, !start.isEmpty)
    else directoryFrom tree path rest

/-- Changes the current directory. -/
def cd : Builtin := fun arguments => do
  let (_, arguments) ← letters [('L', false), ('P', false)] arguments
  let goesBack := arguments.head? = some ['-']
  let target ←
    match arguments with
    | [] => value? "HOME".toList
    | ['-'] :: _ => value? "OLDPWD".toList
    | path :: _ => pure (some path)
  let target := target.getD []
  let tree := (← world).tree
  let starts := Text.splitOn ':' ((← value? "CDPATH".toList).getD [])
  let bare := if target.isEmpty then ['.'] else target
  let found := if isFixed target && !target.isEmpty then none else directoryFrom tree bare starts
  let (path, shows) := found.getD (bare, false)
  match directory? tree (Text.gather path) with
  | none => failAbout "can't cd to " target
  | some place =>
    let old := currentPath tree
    let tree := { tree with current := place }
    changeWorld fun w => { w with tree }
    setVariable "OLDPWD".toList old true
    setVariable "PWD".toList (currentPath tree) true
    changeSession fun s =>
      { s with located := s.located.map fun l => { l with stale := true } }
    if goesBack || shows then emit (currentPath tree ++ ['\n']) else setStatus 0

/-! ## Reading -/

/-- A line that was read: its octets, whether each was escaped, the octets after it, and whether it
had an end. -/
structure ReadLine where
  octets : List (Char × Bool) := []
  rest : List UInt8 := []
  ended : Bool := false

/-- Reads a line from at most `fuel` octets; unless it is taken as it is, backslashes escape. -/
def readLine (asIs : Bool) : Nat → List (Char × Bool) → List UInt8 → ReadLine
  | 0, read, rest => { octets := read.reverse, rest }
  | _, read, [] => { octets := read.reverse }
  | fuel + 1, read, b :: rest =>
    let c := Char.ofNat b.toNat
    if c = '\n' then { octets := read.reverse, rest, ended := true }
    else if b = 0 then readLine asIs fuel read rest
    else if c = '\\' && !asIs then
      match rest with
      | [] => { octets := read.reverse }
      | d :: rest =>
        if d = lineFeed then readLine asIs fuel read rest
        else readLine asIs fuel ((Char.ofNat d.toNat, true) :: read) rest
    else readLine asIs fuel ((c, false) :: read) rest

/-- Reads a line into variables. -/
def read : Builtin := fun arguments => do
  let (options, names) ← letters [('p', true), ('r', false)] arguments
  if names.isEmpty then fail "arg count".toList
  else
    let octets ← readable 0
    let line := readLine (options.any fun o => o.1 = 'r') (octets.length + 1) [] octets
    leave 0 line.rest.length
    let values := cutFields (← separators) names.length line.octets
    for (name, value) in names.zip values do
      if !isName name then fail (name ++ ": bad variable name".toList)
      setVariable name value
    setStatus (if line.ended then 0 else 1)

/-! ## Variables -/

def nameAndValue (argument : List Char) : List Char × Option (List Char) :=
  let name := argument.takeWhile (· != '=')
  (name, if name.length < argument.length then some (argument.drop (name.length + 1)) else none)

/-- Marks variables, some of which are set. -/
def mark (verb : String) (isMarked : Variable → Bool) (f : Variable → Variable) : Builtin :=
  fun arguments => do
    let (options, arguments) ← letters [('p', false)] arguments
    if !options.isEmpty || arguments.isEmpty then
      let marked := (← session).bindings.filter fun v => isMarked v.2
      emit (listing (verb ++ " ") (marked.map fun v => (v.1, v.2.value)))
    else
      for argument in arguments do
        let (name, value) := nameAndValue argument
        if !isName name then fail (name ++ ": bad variable name".toList)
        value.forM fun value => setVariable name value
        putVariable name (some (f ((← lookVariable name).getD {})))
      setStatus 0

def «export» : Builtin :=
  mark "export" (·.exported) fun v => { v with exported := true }

def «readonly» : Builtin :=
  mark "readonly" (·.constant) fun v => { v with constant := true }

/-- Makes variables that end with the running function. -/
def «local» : Builtin := fun arguments => do
  match (← session).saved with
  | [] => fail "not in a function".toList
  | _ =>
    for argument in arguments do
      let (name, value) := nameAndValue argument
      if name != ['-'] then
        if !isName name then fail (name ++ ": bad variable name".toList)
        let old ← lookVariable name
        changeSession fun s =>
          match s.saved with
          | frame :: frames =>
            if (frame.lookup name).isSome then s
            else { s with saved := ((name, old) :: frame) :: frames }
          | [] => s
        value.forM fun value => setVariable name value
    setStatus 0

def unset : Builtin := fun arguments => do
  let (options, names) ← letters [('v', false), ('f', false)] arguments
  let isFunction := (options.getLast?.map (·.1)) = some 'f'
  for name in names do
    if isFunction then
      changeSession fun s => { s with functions := s.functions.filter fun f => f.1 != name }
    else if isName name then unsetVariable name
    else fail (name ++ ": bad variable name".toList)
  setStatus 0

/-- Drops arguments of the script. -/
def shift : Builtin := fun arguments => do
  let n ← (arguments.head?.map number).getD (pure 1)
  let s ← session
  if s.arguments.length < n then fail "can't shift that many".toList
  else
    changeSession fun s => { s with arguments := s.arguments.drop n }
    setStatus 0

/-! ## Options -/

/-- The names of the options with their letters, in the order in which they are shown. -/
def optionNames : List (String × Char) :=
  [("errexit", 'e'), ("noglob", 'f'), ("ignoreeof", 'I'), ("interactive", 'i'), ("monitor", 'm'),
    ("noexec", 'n'), ("stdin", 's'), ("xtrace", 'x'), ("verbose", 'v'), ("vi", 'V'), ("emacs", 'E'),
    ("noclobber", 'C'), ("allexport", 'a'), ("notify", 'b'), ("nounset", 'u'), ("privileged", 'p'),
    ("nolog", '\x01'), ("debug", '\x02')]

def setOption (on : Bool) (letter : Char) : Act Unit :=
  if optionNames.any fun o => o.2 = letter then
    changeSession fun s =>
      let others := s.options.filter (· != letter)
      { s with options := if on then letter :: others else others }
  else failAbout "Illegal option -" [letter]

def optionLines (on : Bool) (options : List Char) : String :=
  if on then
    "Current option settings\n" ++ String.join (optionNames.map fun (name, letter) =>
      name ++ String.ofList (List.replicate (16 - name.length) ' ') ++
        (if options.contains letter then "on" else "off") ++ "\n")
  else
    String.join (optionNames.map fun (name, letter) =>
      (if options.contains letter then "set -o " else "set +o ") ++ name ++ "\n")

def setNamed (on : Bool) (name : List Char) : Act Unit :=
  match optionNames.lookup (String.ofList name) with
  | some letter => setOption on letter
  | none => failAbout "Illegal option -o " name

/-- Reads options from arguments, at most `fuel` of them; the result is what follows, and whether it
replaces the arguments of the script even if it is empty. -/
def readOptions : Nat → List (List Char) → Act (List (List Char) × Bool)
  | 0, rest => return (rest, false)
  | fuel + 1, argument :: rest =>
    match argument with
    | ['-'] => do
      setOption false 'x'
      setOption false 'v'
      return (rest, false)
    | ['-', '-'] => return (rest, true)
    | sign :: letters =>
      if sign = '-' || sign = '+' then do
        let on := sign = '-'
        (letters.filter (· != 'o')).forM (setOption on)
        if letters.contains 'o' then
          match rest with
          | [] =>
            emit (optionLines on (← session).options).toList
            return ([], false)
          | name :: rest =>
            setNamed on name
            readOptions fuel rest
        else readOptions fuel rest
      else return (argument :: rest, false)
    | [] => return (argument :: rest, false)
  | _, [] => return ([], false)

/-- Sets options and the arguments of the script. -/
def set : Builtin := fun arguments => do
  if arguments.isEmpty then
    let shown := (← session).bindings.filter fun v => v.2.value.isSome
    emit (listing "" (shown.map fun v => (v.1, v.2.value)))
  else
    let (rest, replaces) ← readOptions arguments.length arguments
    if replaces || !rest.isEmpty then changeSession fun s => { s with arguments := rest }
    setStatus 0

/-! ## Ends -/

/-- Ends loops or what is left of one turn. -/
def leaveLoops (goesOn : Bool) : Builtin := fun arguments => do
  let n ← (arguments.head?.map number).getD (pure 1)
  if n = 0 then failAbout illegalNumber ['0']
  else
    let n := min n (← session).loops
    setStatus 0
    if 0 < n then throw (if goesOn then .goOn n else .leave n)

/-- The status that an argument tells, or else the last one. -/
def toldStatus (arguments : List (List Char)) : Act Nat := do
  match arguments with
  | [] => return (← session).status
  | argument :: _ => return (← number argument) % 256

/-- Ends the running function. -/
def «return» : Builtin := fun arguments => do
  setStatus (← toldStatus arguments)
  throw .back

def exit : Builtin := fun arguments => do
  setStatus (← toldStatus arguments)
  throw .exit

/-! ## Signals -/

def signalNames : List String :=
  let early := (List.range 15).map fun n => s!"RTMIN+{n + 1}"
  let late := (List.range 14).map fun n => s!"RTMAX-{14 - n}"
  ["EXIT", "HUP", "INT", "QUIT", "ILL", "TRAP", "ABRT", "BUS", "FPE", "KILL", "USR1", "SEGV",
    "USR2", "PIPE", "ALRM", "TERM", "16", "CHLD", "CONT", "STOP", "TSTP", "TTIN", "TTOU", "URG",
    "XCPU", "XFSZ", "VTALRM", "PROF", "WINCH", "IO", "PWR", "SYS", "32", "33", "RTMIN"] ++
    early ++ late ++ ["RTMAX"]

def signal? (text : List Char) : Option Nat :=
  if !text.isEmpty && text.all Char.isDigit then
    let n := text.foldl (fun n c => n * 10 + (c.toNat - 48)) 0
    if n < 65 then some n else none
  else
    let upper := String.ofList (text.map Char.toUpper)
    signalNames.findIdx? (· = upper)

def killUsage : String :=
  "Usage: kill [-s sigspec | -signum | -sigspec] [pid | job]... or\nkill -l [exitstatus]"

/-- The command beside the script that a text names. -/
def jobOf (text : List Char) : Act Started := do
  let { started, .. } ← session
  let find (found : Option Started) (words : List Char) : Act Started :=
    match found with
    | some j => return j
    | none => fail words
  let missing := "No such job: ".toList ++ text
  match text with
  | '%' :: name =>
    if name.isEmpty || name = ['%'] || name = ['+'] then
      find started.head? "No current job".toList
    else if name = ['-'] then find (started.drop 1).head? "No previous job".toList
    else if name.all Char.isDigit then
      let n := name.foldl (fun n c => n * 10 + (c.toNat - 48)) 0
      find (started.find? fun j => j.number = n) missing
    else fail missing
  | _ => fail missing

/-- Sends a signal to a process, and tells whether there is one. -/
def sendTo (below : Below) (process n : Nat) : Act Bool := do
  below.runEnded
  let s ← session
  let { jobs, ended, time, .. } ← world
  if process = s.process then
    below.receive n
    return true
  else if process = s.number then
    changeWorld fun w => { w with signals := w.signals ++ [{ process, signal := n, time }] }
    return true
  else if jobs.any fun j => j.process = process then
    if !Below.mildSignals.contains n then
      let isNew (c : Option Cutoff) := c.isNone || n = 9
      let cut (j : Job) : Job :=
        if j.process != process || !isNew j.cutoff then j
        else
          { j with cutoff := some { process, signal := n, time, isDirect := Below.isDirect j } }
      changeWorld fun w => { w with jobs := w.jobs.map cut }
      below.runEnded
    return true
  else return process = 1 || ended.any fun e => e.process = process && !e.seen

/-- Sends a signal to some processes; the status is `status` unless one is missing. -/
def sendAll (below : Below) (n : Nat) : Nat → List (List Char) → Act Unit
  | status, [] => setStatus status
  | status, target :: rest => do
    let isGroup := target.head? = some '-'
    let process ←
      if target.head? = some '%' then do
        let _ ← jobOf target
        pure none
      else do
        let n ← number (if isGroup then target.drop 1 else target)
        pure (if isGroup then none else some n)
    setStatus status
    let found ←
      match process with
      | some process => sendTo below process n
      | none => pure false
    if found then sendAll below n status rest
    else
      say "No such process\n".toList
      sendAll below n 1 rest

def kill (below : Below) : Builtin := fun arguments => do
  let send (n : Nat) (targets : List (List Char)) : Act Unit := do
    if targets.isEmpty then fail killUsage.toList else sendAll below n 0 targets
  match arguments with
  | [] => fail killUsage.toList
  | ('-' :: name) :: rest =>
    match if name.isEmpty then none else signal? name with
    | some n => send n rest
    | none =>
      let (options, rest) ← letters [('l', false), ('s', true)] arguments
      if options.any fun o => o.1 = 'l' then
        match rest with
        | [] => emit (String.join (("0" :: signalNames.drop 1).map (· ++ "\n"))).toList
        | status :: _ =>
          let n ← number status
          let n := if 128 < n then n - 128 else n
          match if n = 0 then none else signalNames[n]? with
          | some name => emitLine name
          | none => failAbout "invalid signal number or exit status: " status
      else
        match (options.find? fun o => o.1 = 's').map (·.2) with
        | none => send 15 rest
        | some name =>
          match signal? name with
          | some n => send n rest
          | none => failAbout "invalid signal number or name: " name
  | targets => send 15 targets

def setTraps (action : Option (List Char)) : List (List Char) → Act Unit
  | [] => setStatus 0
  | name :: rest => do
    match signal? name with
    | none =>
      mutter ("trap: ".toList ++ name ++ ": bad trap".toList)
      setStatus 1
    | some signal =>
      changeSession fun s =>
        let others := s.traps.filter fun t => t.signal != signal
        let new := action.toList.map fun command => ({ signal, command } : Trap)
        { s with traps := new ++ others }
      setTraps action rest

/-- Sets what is to be done on signals and at the end. -/
def trap : Builtin := fun arguments => do
  let (_, arguments) ← letters [] arguments
  match arguments with
  | [] =>
    let traps := (← session).traps.mergeSort fun a b => a.signal ≤ b.signal
    emit (traps.flatMap fun t =>
      "trap -- ".toList ++ quotedText t.command ++
        (" " ++ signalNames.getD t.signal (toString t.signal) ++ "\n").toList)
  | [name] => setTraps none [name]
  | action :: names =>
    let isNumber := !action.isEmpty && action.all Char.isDigit
    if isNumber then setTraps none arguments
    else setTraps (if action = ['-'] then none else some action) names

/-! ## Commands beside the script -/

/-- Notes that the script has waited for a process. -/
def noteWaited (process : Nat) : Act Unit :=
  changeSession fun s =>
    { s with
      started := s.started.map fun j => if j.process = process then { j with waited := true } else j }

/-- Waits for the processes that arguments name; `status` is that of the last one. -/
def waitAll (below : Below) : Nat → List (List Char) → Act Unit
  | status, [] => setStatus status
  | _, argument :: rest => do
    let process ←
      if argument.head? = some '%' then (fun j => some j.process) <$> jobOf argument
      else do
        let n ← number argument
        pure (((← session).started.find? fun j => j.process = n).map (·.process))
    match process with
    | none => waitAll below 127 rest
    | some process =>
      match ← below.await [process] with
      | some n => setStatus (128 + n)
      | none =>
        noteWaited process
        let ended := (← world).ended.find? fun e => e.process = process
        (ended.filter fun e => !e.seen).forM fun e => e.signal.forM Below.sayEnded
        Below.seeEnds
        waitAll below ((ended.map (·.status)).getD 127) rest

/-- Waits for what runs beside the script. -/
def wait (below : Below) : Builtin := fun arguments => do
  let (_, arguments) ← letters [] arguments
  if !arguments.isEmpty then waitAll below 0 arguments
  else
    let { started, .. } ← session
    match ← below.await (started.map (·.process)) with
    | some n => setStatus (128 + n)
    | none =>
      started.forM fun j => noteWaited j.process
      Below.seeEnds
      setStatus 0

/-- What has become of a command beside the script. -/
def stateText (ended : Option Ended) : String :=
  match ended with
  | none => "Running"
  | some e =>
    match e.signal with
    | some n => Below.wordsFor n
    | none => if e.status = 0 then "Done" else s!"Done({e.status})"

/-- The line that shows a command beside the script. -/
def jobLine (s : Session) (w : World) (full : Bool) (j : Started) : String :=
  let sign :=
    if s.started.head? = some j then "+"
    else if (s.started.drop 1).head? = some j then "-"
    else " "
  let start := s!"[{j.number}] " ++ sign ++ " " ++ if full then s!"{j.process} " else ""
  let text := start ++ stateText (w.ended.find? fun e => e.process = j.process)
  let blanks := String.ofList (List.replicate (max 1 (33 - text.length)) ' ')
  text ++ blanks ++ String.join (List.replicate j.pipes " | ") ++ "\n"

/-- Shows commands beside the script; those that have ended are forgotten. -/
def showJobs (options : List Char) : List Started → Act Unit
  | [] => return ()
  | j :: rest => do
    let s ← session
    let w ← world
    if options.getLast? = some 'p' then emitLine (toString j.process)
    else
      emit (jobLine s w (options.contains 'l') j).toList
      if w.ended.any fun e => e.process = j.process then
        changeSession fun s => { s with started := s.started.filter (· != j) }
    showJobs options rest

/-- Shows what runs beside the script. -/
def jobs (below : Below) : Builtin := fun arguments => do
  let (options, arguments) ← letters [('l', false), ('p', false)] arguments
  below.runEnded
  Below.seeEnds
  setStatus 0
  let shown ← if arguments.isEmpty then pure (← session).started else arguments.mapM jobOf
  showJobs (options.map (·.1)) shown

/-- Refuses to go on with a command beside the script in the way of a terminal. -/
def resume : Builtin := fun arguments => do
  let (_, arguments) ← letters [] arguments
  let text := arguments.headD []
  let _ ← jobOf (if arguments.isEmpty then ['%'] else text)
  fail ("job ".toList ++ (if arguments.isEmpty then "(null)".toList else text) ++
    " not created under job control".toList)

/-! ## Meanings of names -/

/-- The number of the chain of a table that a name is kept in. -/
def chainOf (size : Nat) (name : List Char) : Nat :=
  let sum := name.foldl (fun n c => n + c.toNat) ((name.headD (Char.ofNat 0)).toNat * 16)
  sum % 32768 % size

/-- The order in which a table of a size shows its entries. -/
def inTableOrder {α : Type} (size : Nat) (name : α → List Char) (entries : List α) : List α :=
  entries.mergeSort fun a b => chainOf size (name a) ≤ chainOf size (name b)

/-- The line that shows the meaning of a name. -/
def aliasLine (a : List Char × List Char) : List Char :=
  a.1 ++ '=' :: quotedText a.2 ++ ['\n']

/-- Gives names a meaning or shows it; the status is `status` unless a name has none. -/
def setAliases : Nat → List (List Char) → Act Unit
  | status, [] => setStatus status
  | status, argument :: rest => do
    let name := argument.take 1 ++ (argument.drop 1).takeWhile (· != '=')
    let { aliases, .. } ← session
    if name.length < argument.length then
      let value := argument.drop (name.length + 1)
      let new :=
        if (aliases.lookup name).isSome then
          aliases.map fun a => if a.1 = name then (name, value) else a
        else aliases ++ [(name, value)]
      changeSession fun s => { s with aliases := new }
      setAliases status rest
    else
      match aliases.lookup name with
      | some value =>
        emit (aliasLine (name, value))
        setAliases status rest
      | none =>
        mutter ("alias: ".toList ++ name ++ " not found".toList)
        setAliases 1 rest

/-- Gives names a meaning. -/
def «alias» : Builtin := fun arguments => do
  if arguments.isEmpty then
    emit ((inTableOrder 39 (·.1) (← session).aliases).flatMap aliasLine)
  else setAliases 0 arguments

/-- Takes the meanings of names away. -/
def unalias : Builtin := fun arguments => do
  let (options, names) ← letters [('a', false)] arguments
  if !options.isEmpty then
    changeSession fun s => { s with aliases := [] }
    setStatus 0
  else
    let { aliases, .. } ← session
    let missing := names.filter fun name => (aliases.lookup name).isNone
    missing.forM fun name => mutter ("unalias: ".toList ++ name ++ " not found".toList)
    changeSession fun s => { s with aliases := s.aliases.filter fun a => !names.contains a.1 }
    setStatus (if missing.isEmpty then 0 else 1)

/-! ## Programs -/

/-- The directories that programs are looked for in. -/
def searched : Act (List String) := do
  return ((← value? "PATH".toList).map fun path =>
    (Text.splitOn ':' path).map Text.gather).getD []

/-- What is found by the name of a program that is no path.  The shell keeps in mind what was
found. -/
def locate (name : List Char) : Act Standard.Found := do
  let { tree, .. } ← world
  let { located, .. } ← session
  let program := Text.gather name
  let known := located.find? fun l => l.name = name && !l.stale
  match known.bind fun l => (Standard.programAt? tree (Text.gather l.path)).map fun p => (p, l) with
  | some (found, l) => return .program found (Text.gather l.path)
  | none =>
    let found := Standard.find tree (← searched) program
    match found with
    | .program _ path =>
      let new : Located := { name, path := Text.spread path }
      changeSession fun s =>
        { s with
          located :=
            if s.located.any fun l => l.name = name then
              s.located.map fun l => if l.name = name then new else l
            else s.located ++ [new] }
    | .nothing _ =>
      changeSession fun s => { s with located := s.located.filter fun l => l.name != name }
    return found

def startingWords (cause : Files.Cause) : String :=
  if cause = .missing || cause = .notADirectory then "not found" else cause.words

/-- The shell keeps in mind where programs are, or shows it. -/
def hash (isBuiltin : List Char → Bool) : Builtin := fun arguments => do
  let (options, names) ← letters [('r', false)] arguments
  if !options.isEmpty then
    changeSession fun s => { s with located := [] }
    setStatus 0
  else if names.isEmpty then
    emit ((inTableOrder 31 (·.name) (← session).located).flatMap fun l =>
      l.path ++ (if l.stale then ['*'] else []) ++ ['\n'])
  else
    setStatus 0
    for name in names do
      let { functions, .. } ← session
      if !isBuiltin name && (functions.lookup name).isNone then
        changeSession fun s => { s with located := s.located.filter fun l => l.name != name }
        if name.contains '/' then pure ()
        else
          match ← locate name with
          | .program .. => pure ()
          | .nothing cause =>
            say (name ++ ": ".toList ++ (startingWords cause).toList)
            setStatus 1

/-! ## Permissions -/

/-- The permissions that are told by three bits. -/
def permissionText (bits : Nat) : String :=
  (if bits / 4 % 2 = 1 then "r" else "") ++ (if bits / 2 % 2 = 1 then "w" else "") ++
    (if bits % 2 = 1 then "x" else "")

/-- Shows or changes the permissions that new files do not have. -/
def umask : Builtin := fun arguments => do
  let (options, arguments) ← letters [('S', false)] arguments
  let mask := (← session).mask
  let group (shift : Nat) : Nat := mask / shift % 8
  match arguments with
  | [] =>
    if options.isEmpty then emitLine s!"0{group 64}{group 8}{group 1}"
    else
      let shown (shift : Nat) := permissionText (7 - group shift)
      emitLine ("u=" ++ shown 64 ++ ",g=" ++ shown 8 ++ ",o=" ++ shown 1)
  | mode :: _ =>
    let isOctal (c : Char) := '0' ≤ c && c ≤ '7'
    let value := mode.foldl (fun n c => n * 8 + (c.toNat - 48)) 0
    if mode.head?.any Char.isDigit then
      if mode.all isOctal && value < 512 then
        changeSession fun s => { s with mask := value }
        setStatus 0
      else failAbout illegalNumber mode
    else failAbout "Illegal mode: " mode

/-! ## Options of scripts -/

/-- What reading options from arguments comes to: the letter and the value of the next option, the
number of the argument after it, and the place in that argument. -/
structure NextOption where
  letter : Char
  value : Option (List Char) := none
  index : Nat
  place : Nat := 0
  /-- What is said about it. -/
  complaint : Option (List Char) := none

/-- Reads the next option of some arguments, from a place of the argument of an index. -/
def nextOption (known : List Char) (arguments : List (List Char)) (index place : Nat) :
    Option NextOption :=
  let isQuiet := known.head? = some ':'
  let argument := arguments.getD (index - 1) []
  let start : Option (List Char) :=
    if 0 < place && place < argument.length then some (argument.drop place)
    else
      match argument with
      | ['-', '-'] => none
      | '-' :: c :: cs => some (c :: cs)
      | _ => none
  match start with
  | some (c :: cs) =>
    let place := argument.length - cs.length
    let after (n : NextOption) : NextOption :=
      if cs.isEmpty then { n with index := index + 1 } else { n with index, place }
    let from_ := (if isQuiet then known.drop 1 else known).dropWhile (· != c)
    if from_.isEmpty || c = ':' then
      if isQuiet then some (after { letter := '?', value := some [c], index })
      else
        let complaint := some ("Illegal option -".toList ++ [c])
        some (after { letter := '?', index, complaint })
    else if (from_.drop 1).head? = some ':' then
      if !cs.isEmpty then some { letter := c, value := some cs, index := index + 1 }
      else
        match arguments[index]? with
        | some value => some { letter := c, value := some value, index := index + 2 }
        | none =>
          if isQuiet then some { letter := ':', value := some [c], index := index + 1 }
          else
            let complaint := some ("No arg for -".toList ++ c :: " option".toList)
            some { letter := '?', index := index + 1, complaint }
    else some (after { letter := c, index })
  | _ => none

/-- Reads the next option of a script. -/
def getopts : Builtin := fun arguments => do
  match arguments with
  | known :: name :: others =>
    let s ← session
    let given := if others.isEmpty then s.arguments else others
    let optind := "OPTIND".toList
    let optarg := "OPTARG".toList
    let index := ((← value? optind).bind fun v => Filter.number? v).getD 1
    match nextOption known given (max index 1) s.optionPlace with
    | none =>
      let ended := given.getD (index - 1) [] = ['-', '-']
      setVariable name ['?']
      setVariable optind (toString (if ended then index + 1 else max index 1)).toList
      setStatus 1
    | some n =>
      n.complaint.forM mutter
      match n.value with
      | some value => setVariable optarg value
      | none => unsetVariable optarg
      setVariable name [n.letter]
      setVariable optind (toString n.index).toList
      changeSession fun s => { s with optionPlace := n.place }
      setStatus 0
  | _ => fail "Usage: getopts optstring var [arg...]".toList

end Builtin
end Shell
end Formatter
end FlowDecl
