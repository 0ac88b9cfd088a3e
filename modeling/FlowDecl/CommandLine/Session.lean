import FlowDecl.CommandLine.Arguments
import FlowDecl.CommandLine.Help
import FlowDecl.Endpoint.Fetch
import FlowDecl.Formatter.Outcome
import FlowDecl.Module.Build
import FlowDecl.Schema.Load

/-!
# Sessions

A session is one run of the program: it changes files, prints texts and asks endpoints.  It ends
when its work is done or at a stop, whose text is printed last.  A stop for wrong usage has status
two, and a failure that is not reported to the user has status one.  That a text cannot be printed
is such a failure too.
-/

namespace FlowDecl
namespace CommandLine

/-- A terminal.  It may refuse a text, depending on what has been printed before. -/
abbrev Console := String → String → Option Mishap

structure Surroundings where
  /-- What an endpoint answers to a client. -/
  endpoint : Endpoint.Client → Endpoint.Answer
  /-- How the bodies of answers are decoded. -/
  decoder : Endpoint.Decoder
  toolkit : Sdl.Toolkit
  /-- How templates are filled in. -/
  engine : Template.Engine
  /-- How formatters are run. -/
  runner : Formatter.Runner
  console : Console := fun _ _ => none
  /-- The token that is used if none is given. -/
  token : Option String := none

/-- What a session has done so far. -/
structure Session where
  tree : Files.Tree
  output : String := ""
  clients : List Endpoint.Client := []

/-- A failure that is not reported to the user. -/
inductive Crash where
  | load (fault : Load.Fault)
  | fetch (fault : Endpoint.Fault)
  | module (fault : Module.Fault)
  | file (fault : Files.Fault)
  /-- A text cannot be printed. -/
  | console (mishap : Mishap)

/-- The sentence for a failure. -/
def Crash.message : Crash → String
  | .load fault => fault.message
  | .fetch fault => fault.message
  | .module fault => fault.message
  | .file fault => fault.message
  | .console mishap => mishap.words

/-- Why a session ends before its work is done. -/
inductive Stop where
  /-- A page or the version was asked for. -/
  | shown (text : String)
  /-- There are no arguments at all. -/
  | noArguments (page : Page)
  | usage (page : Page) (message : String)
  /-- Arguments that do not even fit together. -/
  | arguments (message : String)
  | crash (crash : Crash)

namespace Stop

/-- What is printed at a stop. -/
def text : Stop → String
  | .shown text => text
  | .noArguments page => page.text
  | .usage page message => page.hint ++ "Error: " ++ message ++ "\n"
  | .arguments message => "Error: " ++ message ++ "\n"
  | .crash _ => ""

def status : Stop → Nat
  | .shown _ => 0
  | .crash _ => 1
  | _ => 2

end Stop

abbrev Action (α : Type) := ExceptT Stop (StateM Session) α

def print (around : Surroundings) (text : String) : Action Unit := do
  let s ← get
  match around.console s.output text with
  | none => set { s with output := s.output ++ text }
  | some mishap => throw (.crash (.console mishap))

def echo (around : Surroundings) (line : String) : Action Unit :=
  print around (line ++ "\n")

def failUsage {α : Type} (page : Page) (message : String) : Action α :=
  throw (.usage page message)

def invalidValue (hint words : String) : String :=
  "Invalid value for " ++ hint ++ ": " ++ words

/-- The sentence for a name that there is none of, with the names that are like it. -/
def unknownName (kind name : String) (alike : List String) : String :=
  "No such " ++ kind ++ " " ++ Text.quoted name ++ "." ++
    match alike.map Text.quoted with
    | [] => ""
    | [one] => " Did you mean " ++ one ++ "?"
    | several => " (Did you mean one of: " ++ ", ".intercalate several ++ "?)"

def argumentStop (page : Page) : ArgumentFault → Stop
  | .unknownOption option alike => .usage page (unknownName "option" option alike)
  | .missingValue option => .arguments ("Option " ++ Text.quoted option ++ " requires an argument.")
  | .unwantedValue option =>
    .arguments ("Option " ++ Text.quoted option ++ " does not take a value.")

structure Outcome where
  status : Nat
  session : Session
  crash : Option Crash := none

def Stop.print (around : Surroundings) : Stop → Action Unit
  | .crash c => throw (.crash c)
  | stop => do
    CommandLine.print around stop.text
    throw stop

/-- Runs a part of a session from a state of the files. -/
def Action.outcome (around : Surroundings) (action : Action Unit) (tree : Files.Tree) : Outcome :=
  match (tryCatch action (Stop.print around)).run.run { tree } with
  | (.ok (), session) => { status := 0, session }
  | (.error stop, session) =>
    { status := stop.status
      session
      crash :=
        match stop with
        | .crash crash => some crash
        | _ => none }

end CommandLine
end FlowDecl
