import FlowDecl.CommandLine.Paths
import FlowDecl.CommandLine.Run
import FlowDecl.CommandLine.Standard
import FlowDecl.Formatter.Shell

/-!
# The program

Reads the files that the arguments may name and the directories of the standard programs, runs the
session on them and writes the files that it has changed.  Formatters are the standard ones, and no
endpoint can be reached from here.
-/

namespace FlowDecl
namespace Main

def nodeAt (place : List String) : IO (Option Files.Node) := do
  let .ok path ← (IO.FS.realPath (Files.fullPath place)).toBaseIO | return none
  match (← path.metadata).type with
  | .dir => return some .directory
  | .file =>
    let .ok octets ← (IO.FS.readBinFile path).toBaseIO | return none
    return some (.file octets.toList)
  | _ => return none

/-- The files that some paths lead to. -/
def readTree (current : List String) (paths : List String) : IO Files.Tree := do
  let tree : Files.Tree := { current }
  let entries ← (paths.flatMap (CommandLine.placesOn tree)).eraseDups.filterMapM fun place => do
    return (← nodeAt place).map (place, ·)
  return { tree with entries }

/-- Writes what has changed, directories before what is in them. -/
def writeChanges (before after : Files.Tree) : IO Unit := do
  let changed := after.entries.filter fun (place, node) => before.node? place != some node
  for (place, node) in changed.mergeSort fun a b => decide (a.1.length ≤ b.1.length) do
    match node with
    | .directory => IO.FS.createDir (Files.fullPath place)
    | .file octets => IO.FS.writeBinFile (Files.fullPath place) ⟨octets.toArray⟩

/-- Runs a session on the files around and answers with its status. -/
def runSession (arguments : List String) : IO UInt32 := do
  let current := Files.parts (← IO.currentDir).toString
  let programs := Formatter.Standard.places.map Files.fullPath
  let tree ← readTree current (CommandLine.pathsOf arguments ++ programs)
  let around := CommandLine.standardSurroundings (.failure "no endpoint can be reached")
    Formatter.runStandard (← IO.getEnv "GQL_FLOWGEN_TOKEN")
  let outcome := CommandLine.run around tree arguments
  writeChanges tree outcome.session.tree
  IO.print outcome.session.output
  if let some crash := outcome.crash then IO.eprintln crash.message
  return UInt32.ofNat outcome.status

end Main
end FlowDecl

def main (arguments : List String) : IO UInt32 :=
  FlowDecl.Main.runSession arguments
