import FlowDecl.Files.Tree

/-!
# Missing parent directories

A file is written below directories that may be missing.  There are two ways to make them: from the
outermost missing one inwards, looking at what is there first, or by trying the innermost one and
making its parents if that is refused.  They differ only in which path a fault names.

Both answer with the tree that is reached, because the outer directories stay when an inner one is
refused.
-/

namespace FlowDecl
namespace Files

/-- A file operation that keeps the tree it has reached when it fails. -/
abbrev Writing (α : Type) := ExceptT Fault (StateM Tree) α

/-- Does one operation on the tree. -/
def Writing.run1 (path : String) (f : Tree → Except Cause Tree) : Writing Unit := do
  match f (← get) with
  | .ok t => set t
  | .error cause => throw ⟨cause, path⟩

/-- Makes a directory; one that is there already is fine. -/
def ensureDirectory (path : String) : Writing Unit := do
  match (← get).makeDirectory path with
  | .ok t => set t
  | .error cause =>
    if (← get).isDirectory path then return else throw ⟨cause, path⟩

/-- A path split before its last part; a slash at the end is left out first. -/
def splitLast (path : String) : String × String :=
  if baseName path = "" then (dirName (dirName path), baseName (dirName path))
  else (dirName path, baseName path)

/-- Makes a directory and first the parents that are missing.  A path has at most `fuel` parts. -/
def makeParentsFirst : Nat → String → Writing Unit
  | 0, path => ensureDirectory path
  | fuel + 1, path => do
    let (head, tail) := splitLast path
    if head != "" && tail != "" && !(← get).hasPath head then
      tryCatch (makeParentsFirst fuel head) fun fault =>
        if fault.cause = .exists then return else throw fault
      if tail = "." then return
    ensureDirectory path

/-- Makes the directory that a file is written in. -/
def makeParentOf (path : String) : Writing Unit := do
  let parent := dirName path
  if parent != "" then makeParentsFirst parent.length parent

/-- Makes the directory of a place, trying it before its parents. -/
def makePlace : Nat → List String → Writing Unit
  | 0, place => ensureDirectory (fullPath place)
  | fuel + 1, place => do
    let path := fullPath place
    match (← get).makeDirectory path with
    | .ok t => set t
    | .error .missing =>
      if place.isEmpty then throw ⟨.missing, path⟩
      else
        makePlace fuel place.dropLast
        ensureDirectory path
    | .error cause => if (← get).isDirectory path then return else throw ⟨cause, path⟩

def save (path : String) (octets : List UInt8) : Writing Unit :=
  Writing.run1 path fun t => t.write path octets

end Files
end FlowDecl
