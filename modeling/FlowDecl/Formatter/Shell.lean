import FlowDecl.Formatter.Outcome
import FlowDecl.Formatter.Shell.Evaluation

/-!
# Running formatters

Commands are run on the standard filters and on scripts of them.  A command takes too long if the
seconds that it sleeps are more than it may take.
-/

namespace FlowDecl
namespace Formatter

open Decimal (Fraction Binary64)
open Json.Value (Numeric)

/-- Whether a time is more than a command may take. -/
def exceeds (slept : Fraction) (timeout : Numeric) : Bool :=
  match timeout with
  | .int n => n ≤ 0 || Fraction.lt ⟨n.toNat, 1⟩ slept
  | .float x =>
    match x.toFraction? with
    | some (negative, allowed) => negative || x.isZero || allowed.lt slept
    | none => x = .infinite true

/-- The time that a command may take, if it is bounded. -/
def timeOf (timeout : Numeric) : Option Fraction :=
  match timeout with
  | .int n => some ⟨n.toNat, 1⟩
  | .float x => x.toFraction?.map fun (negative, x) => if negative then ⟨0, 1⟩ else x

namespace Shell

/-- The levels of commands that a script may have. -/
def mostLevels : Nat := 20000

/-- The variables that a shell is started with. -/
def environment : List (List Char × Variable) :=
  let plain (name value : String) : List Char × Variable :=
    (name.toList, { value := some value.toList, exported := true })
  [plain "HOME" "/root", plain "LANG" "C.UTF-8",
    plain "PATH" "/usr/local/bin:/usr/local/sbin:/usr/local/bin:/usr/sbin:/usr/bin:/sbin:/bin"]

def firstProcess : Nat := 1000

/-- The state before a program runs: what it reads, what it writes and what it says are the first
three streams.  The process is ended when the time is over. -/
def initial (tree : Files.Tree) (command : Formatter.Command) (input : List UInt8) : State where
  world :=
    { tree, streams := #[.source input, .sink [], .sink []]
      cutoff := (timeOf command.timeout).map fun time =>
        { process := firstProcess, signal := 9, time, isDirect := true } }
  session :=
    { name := Text.spread command.program, number := firstProcess, process := firstProcess
      bindings := environment
      descriptors := [(0, 0), (1, 1), (2, 2)] }

/-- Runs a program in the place of the first process. -/
def runFirst (below : Below) (name : String) (command : Formatter.Command) : Act Unit := do
  let program := Text.spread command.program
  let arguments := command.arguments.map Text.spread
  match Standard.filters.lookup name with
  | some filter => below.runFilter filter program arguments
  | none => below.runShell program arguments

/-- Runs what is left beside a program that has ended.  What does not end counts if it holds the
streams of the program open. -/
def runLeft (below : Below) : Act Unit := do
  Act.changeSession fun s => { s with process := 0 }
  match ← Below.caught (discard (below.await ((← Act.world).jobs.map (·.process)))) with
  | some .endless =>
    if (← Act.world).jobs.any fun j => Below.holdsFirst j.session.descriptors then throw .endless
  | _ => return ()

/-- What comes of running a program with some arguments, and the files after it. -/
def outcome (tree : Files.Tree) (name : String) (command : Formatter.Command)
    (input : List UInt8) : Outcome × Files.Tree :=
  let below := Below.ofDepth mostLevels
  let (stop, s) := (runFirst below name command).run (initial tree command input)
  let ended := s.world.time
  let (left, after) := (runLeft below).run s
  let octets (number : Nat) : List UInt8 :=
    match after.world.streams[number]? with
    | some (.sink parts) => parts.reverse.flatten
    | _ => []
  let isEndless := stop matches .error .endless || left matches .error .endless
  let isCut := (timeOf command.timeout).any ended.same && stop matches .error (.signal _ 9)
  let isLate := isCut || exceeds (Below.later ended after.world.held) command.timeout
  let result : Outcome :=
    if isEndless || isLate then .timedOut
    else
      match stop with
      | .error (.signal _ n) => .ended (-(n : Int)) (octets 1) (octets 2)
      | _ => .ended s.session.status (octets 1) (octets 2)
  (result, { after.world.tree with current := tree.current })

end Shell

def runStandard : Runner := fun command input => do
  let tree ← get
  match Standard.find tree Standard.searched command.program with
  | .program name _ =>
    let (outcome, tree) := Shell.outcome tree name command input
    set tree
    return outcome
  | .nothing cause => return .notStarted cause

end Formatter
end FlowDecl
