import FlowDecl.CommandLine.Generate
import FlowDecl.CommandLine.Introspect

/-!
# Running the program

The first argument that is no option names the command, and the arguments after it are the
command's.
-/

namespace FlowDecl
namespace CommandLine

def versionText : String :=
  programName ++ ", version " ++ version ++ "\n"

/-- Reads the options before the command; the first one that asks for a text is answered. -/
def readProgram (arguments : List String) : Except Stop (List String) := do
  let g ← (Arguments.read programForms false arguments).mapError (argumentStop .program)
  match g.options.head? with
  | some (.version, _) => throw (.shown versionText)
  | some _ => throw (.shown Page.program.text)
  | none => return g.positional

def commands : List (String × (Surroundings → List String → Action Unit)) :=
  [("generate", Generate.run), ("introspect", Introspect.run)]

/-- Runs a command.  A name that is no command is looked at as an option. -/
def runCommand (around : Surroundings) (name : String) (arguments : List String) :
    Action Unit := do
  match commands.lookup name with
  | some command => command around arguments
  | none =>
    if Text.beginsWith "-" name then
      match readProgram (name :: arguments) with
      | .ok _ => pure ()
      | .error stop => throw stop
    failUsage .program (unknownName "command" name (Text.closeNames name (commands.map (·.1))))

def runProgram (around : Surroundings) (arguments : List String) : Action Unit := do
  if arguments.isEmpty then throw (.noArguments .program)
  match readProgram arguments with
  | .error stop => throw stop
  | .ok [] => failUsage .program "Missing command."
  | .ok (name :: rest) => runCommand around name rest

/-- Runs the program on a state of the files. -/
def run (around : Surroundings) (tree : Files.Tree) (arguments : List String) : Outcome :=
  (runProgram around arguments).outcome around tree

end CommandLine
end FlowDecl
