import FlowDecl.CommandLine.Session
import FlowDecl.Endpoint.Standard
import FlowDecl.Module.Template
import FlowDecl.Sdl.Introspection

/-!
# Standard surroundings

The parts that the program is run with: bodies are JSON, type systems are built and templates filled
in by the standard parts, and every text can be printed.
-/

namespace FlowDecl
namespace CommandLine

/-- The standard surroundings with an answer for all clients. -/
def standardSurroundings (answer : Endpoint.Answer) (runner : Formatter.Runner)
    (token : Option String := none) : Surroundings where
  endpoint client := client.receive answer
  decoder := Endpoint.decodeJson
  toolkit := Sdl.standardToolkit
  engine := Template.standardEngine
  runner
  token

end CommandLine
end FlowDecl
