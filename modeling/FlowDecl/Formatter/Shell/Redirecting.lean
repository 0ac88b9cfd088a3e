import FlowDecl.Formatter.Shell.Expansion

/-!
# Redirections

A redirection opens a target and puts it behind a descriptor for the time of a command.  A target
that cannot be opened is a fault of the command alone.
-/

namespace FlowDecl
namespace Formatter
namespace Shell

open Act

namespace Below

/-- The words for a cause that a file is not opened; `creates` tells that it is to be written. -/
def openingWords (creates : Bool) (cause : Files.Cause) : String :=
  if cause = .missing || cause = .notADirectory then
    if creates then "Directory nonexistent" else "No such file"
  else cause.words

/-- Ends with a fault because a file cannot be opened. -/
def failOpening {α : Type} (creates : Bool) (path : List Char) (words : String) : Act α :=
  let verb := if creates then "cannot create " else "cannot open "
  fail (verb.toList ++ path ++ (": " ++ words).toList)

def descriptorPath? (path : String) : Option Nat :=
  if path = "/dev/stdin" then some 0
  else if path = "/dev/stdout" then some 1
  else if path = "/dev/stderr" then some 2
  else
    let start := "/dev/fd/"
    let digits := path.toList.drop start.length
    if start.toList.isPrefixOf path.toList && !digits.isEmpty && digits.all Char.isDigit then
      some (digits.foldl (fun n c => n * 10 + (c.toNat - 48)) 0)
    else none

def accessOf : Opening → Access
  | .read => .read
  | .append => .append
  | .readWrite => .readWrite
  | _ => .write

/-- Opens the file at a place of the tree for writing, and tells the number of its stream. -/
def openPlace (opening : Opening) (place : List String) : Act Nat := do
  if opening = .write || opening = .overwrite then
    changeWorld fun w => { w with tree := w.tree.put place (.file []) }
  newStream (.file place 0 (accessOf opening))

/-- Opens a file and tells the number of its stream. -/
def openFile (opening : Opening) (target : List Char) : Act Nat := do
  let path := Text.gather target
  let access := accessOf opening
  let creates := opening != .read
  let tree := (← world).tree
  let refuse (cause : Files.Cause) : Act Nat :=
    failOpening creates target (openingWords creates cause)
  if path = "/dev/full" then newStream (.full access)
  else if Files.isDevice path then newStream (.nowhere access)
  else
    match descriptorPath? path with
    | some d =>
      match ← behind d with
      | none => refuse .missing
      | some number =>
        match ← stream number with
        | .file place _ _ => openPlace opening place
        | _ => return number
    | none =>
      match tree.locate path with
      | .error cause => refuse cause
      | .ok place =>
        match opening, tree.stat path with
        | .read, .ok .directory => newStream .directory
        | .read, .ok (.file _) => openPlace opening place
        | .read, .error cause => refuse cause
        | _, .ok .directory => refuse .isADirectory
        | opening, .ok (.file _) =>
          if opening = .write && (← hasOption 'C') then refuse .exists
          else openPlace opening place
        | opening, .error _ =>
          match tree.write path [] with
          | .error cause => refuse cause
          | .ok tree =>
            changeWorld fun w => { w with tree }
            openPlace opening place

/-- A redirection with the text of its target. -/
structure Ready where
  descriptor : Nat
  opening : Opening
  target : List Char

/-- Opens the target of a redirection. -/
def redirect (below : Below) (r : Ready) : Act Unit := do
  match r.opening with
  | .text number =>
    let word := ((← world).texts.lookup number).getD []
    let text ← below.textOf word false
    attach r.descriptor (← newStream (.source (Text.charOctets text)))
  | .copy _ =>
    match r.target with
    | ['-'] => detach r.descriptor
    | [c] =>
      match ← behind (c.toNat - 48) with
      | some number => attach r.descriptor number
      | none =>
        detach r.descriptor
        fail (c :: ": Bad file descriptor".toList)
    | _ => return ()
  | opening => attach r.descriptor (← openFile opening r.target)

/-- The texts of the targets of redirections; what cannot name a descriptor is a fault of the whole
script. -/
def ready (below : Below) : List Redirection → Act (List Ready)
  | [] => return []
  | .mk descriptor opening word :: rest => do
    let target ← below.textOf word
    let isCopy :=
      match opening with
      | .copy _ => true
      | _ => false
    let names := target = ['-'] || (target.length = 1 && target.all Char.isDigit)
    if isCopy && !names then
      changeSession fun s => { s with line := s.readLine }
      failAbout "Syntax error: " SyntaxFault.descriptor.words.toList
    let others ← below.ready rest
    return { descriptor, opening, target } :: others

/-- Opens the targets of redirections, and tells whether this succeeds. -/
def redirectAll (below : Below) (rs : List Ready) : Act Bool := do
  match ← caught (rs.forM below.redirect) with
  | none => return true
  | some .fault => return false
  | some stop => throw stop

/-- Runs with redirections that end with it; if they fail it is not run, and the status is set. -/
def redirected (below : Below) (redirections : List Redirection) (act : Act Unit) : Act Unit := do
  let rs ← below.ready redirections
  let descriptors := (← session).descriptors
  let restore : Act Unit := changeSession fun s => { s with descriptors }
  if ← below.redirectAll rs then
    let stop ← caught act
    restore
    stop.forM throw
  else
    restore
    setStatus 2

end Below
end Shell
end Formatter
end FlowDecl
