import FlowDecl.CommandLine.Options
import FlowDecl.Json.Writer

/-!
# Saving documents

The command that asks an endpoint for its introspection document and writes it to a file.
-/

namespace FlowDecl
namespace CommandLine

structure IntrospectRequest where
  url : String
  output : String
  endpoint : EndpointRequest

namespace Introspect

def check (tree : Files.Tree) (g : Given OptionKey) : OptionKey → Except Stop Unit
  | .url => (fun _ => ()) <$> required .introspect urlForm (g.value? .url)
  | .output => do
    let path ← required .introspect outputForm (g.value? .output)
    checkFile .introspect tree false outputForm.hint path
  | .timeout => (fun _ => ()) <$> readTimeout .introspect (g.value? .timeout)
  | _ => .ok ()

def readRequest (around : Surroundings) (tree : Files.Tree) (arguments : List String) :
    Except Stop IntrospectRequest := do
  let g ← readCommand .introspect introspectForms 0 (check tree) arguments
  let url ← required .introspect urlForm (g.value? .url)
  let output ← required .introspect outputForm (g.value? .output)
  let endpoint ← readEndpoint .introspect around g
  return { url, output, endpoint }

def documentText (document : Json.Value) : String :=
  document.indented ++ "\n"

/-- Does a file operation of the session. -/
def doFiles (writing : Files.Writing Unit) : Action Unit := do
  let s ← get
  let (result, tree) := writing.run.run s.tree
  set { s with tree }
  match result with
  | .ok () => return
  | .error fault => throw (.crash (.file fault))

/-- Writes a document to a file and makes the directory that it is in. -/
def save (path : String) (document : Json.Value) : Files.Writing Unit := do
  let tree ← get
  let place := tree.resolve path
  Files.makePlace place.length place.dropLast
  Files.save (tree.absolute path) (Text.Utf8.encode (documentText document))

/-- Does what the command is asked for. -/
def perform (around : Surroundings) (r : IntrospectRequest) : Action Unit := do
  let credentials ← readCredentials .introspect r.endpoint
  let document ← fetchDocument around .introspect r.url credentials r.endpoint.timeout
  doFiles (save r.output document)
  echo around ("Wrote introspection result to " ++ (← get).tree.absolute r.output)

def run (around : Surroundings) (arguments : List String) : Action Unit := do
  match readRequest around (← get).tree arguments with
  | .ok request => perform around request
  | .error stop => throw stop

end Introspect
end CommandLine
end FlowDecl
