import FlowDecl.Formatter.Concatenation
import FlowDecl.Formatter.Count
import FlowDecl.Formatter.Cut
import FlowDecl.Formatter.Editor
import FlowDecl.Formatter.OctetSet
import FlowDecl.Formatter.Printing
import FlowDecl.Formatter.Sleep

/-!
# Standard programs

The standard filters by name, and what stands where a path to a program leads.
-/

namespace FlowDecl
namespace Formatter
namespace Standard

def filters : List (String × Filter) :=
  [("cat", Filter.cat), ("head", Filter.head), ("tail", Filter.tail), ("tr", Filter.tr),
    ("sed", Filter.sed), ("wc", Filter.wc), ("echo", Filter.echo), ("printf", Filter.printf),
    ("sleep", Filter.sleep), ("true", Filter.quiet 0 (Usage.nothing "true" "success")),
    ("false", Filter.quiet 1 (Usage.nothing "false" "failure"))]

def shellNames : List String := ["sh", "dash"]

/-- The places of the directories that the standard programs are in. -/
def places : List (List String) := [["bin"], ["usr", "bin"]]

def isProgram (name : String) : Bool :=
  (filters.lookup name).isSome || shellNames.contains name

/-- The name of the standard program that a path leads to. -/
def programAt? (tree : Files.Tree) (path : String) : Option String :=
  match tree.locate path with
  | .ok place =>
    let name := place.getLastD ""
    if places.contains place.dropLast && isProgram name && !Files.Tree.wantsDirectory path then
      some name
    else none
  | .error _ => none

/-- Why a path that leads to no standard program cannot be started. -/
def refusal (tree : Files.Tree) (path : String) : Files.Cause :=
  match tree.stat path with
  | .ok _ => .notPermitted
  | .error cause => cause

inductive Found where
  /-- A standard program and the path to it. -/
  | program (name path : String)
  /-- Why nothing can be started. -/
  | nothing (cause : Files.Cause)
  deriving Repr

/-- Looks for a program in directories one after the other. -/
def search (tree : Files.Tree) (name : String) : List String → Found
  | [] => .nothing .missing
  | directory :: rest =>
    let path := if directory = "" then name else directory ++ "/" ++ name
    match programAt? tree path with
    | some program => .program program path
    | none =>
      match search tree name rest with
      | .nothing .missing => .nothing (if tree.hasPath path then .notPermitted else .missing)
      | found => found

/-- The directories that programs are looked for in unless another choice is made. -/
def searched : List String :=
  ["/usr/local/bin", "/usr/local/sbin", "/usr/local/bin", "/usr/sbin", "/usr/bin", "/sbin", "/bin"]

/-- Finds a program by a name, which may be a path. -/
def find (tree : Files.Tree) (directories : List String) (name : String) : Found :=
  if name.toList.contains '/' then
    match programAt? tree name with
    | some program => .program program name
    | none => .nothing (refusal tree name)
  else if Files.longestPart < name.utf8ByteSize then .nothing .tooLong
  else search tree name directories

end Standard
end Formatter
end FlowDecl
