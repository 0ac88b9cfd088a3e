import FlowDecl.Files.Tree
import FlowDecl.Text.Octets

/-!
# Patterns of words

A pattern matches a text as a whole.  A question mark stands for any octet, an asterisk for any
octets, and brackets for one octet of a set; a backslash takes the meaning from what follows it.  A
pattern with slashes stands for the paths of a tree that it matches part by part.
-/

namespace FlowDecl
namespace Formatter
namespace Shell
namespace Glob

def classes : List (String × (Char → Bool)) :=
  let visible (c : Char) := '!' ≤ c && c ≤ '~'
  [("alnum", Char.isAlphanum), ("alpha", Char.isAlpha), ("blank", fun c => c = ' ' || c = '\t'),
    ("cntrl", fun c => c.toNat < 32 || c.toNat = 127), ("digit", Char.isDigit),
    ("graph", visible), ("lower", Char.isLower), ("print", fun c => visible c || c = ' '),
    ("punct", fun c => visible c && !c.isAlphanum),
    ("space", fun c => c = ' ' || (9 ≤ c.toNat && c.toNat ≤ 13)), ("upper", Char.isUpper),
    ("xdigit", fun c => c.isDigit || ('a' ≤ c && c ≤ 'f') || ('A' ≤ c && c ≤ 'F'))]

/-- The class whose name follows an opening bracket and a colon, and what follows it. -/
def readClass : List Char → Option ((Char → Bool) × List Char)
  | ':' :: cs =>
    match cs.dropWhile Char.isAlpha with
    | ':' :: ']' :: rest =>
      (fun f => (f, rest)) <$> classes.lookup (String.ofList (cs.takeWhile Char.isAlpha))
    | _ => none
  | _ => none

/-- The first octet of a set and what follows it; a backslash takes its meaning. -/
def readMember : List Char → Option (Char × List Char)
  | '\\' :: c :: rest => some (c, rest)
  | c :: rest => some (c, rest)
  | [] => none

/-- Reads a set in at most `fuel` members: whether an octet is in it, and what follows the bracket.
The first member may be a closing bracket. -/
def readSet (c : Char) : Nat → Bool → Bool → List Char → Option (Bool × List Char)
  | 0, _, _, _ => none
  | fuel + 1, isFirst, found, cs =>
    match cs with
    | [] => none
    | d :: rest =>
      if d = ']' && !isFirst then some (found, rest)
      else
        match if d = '[' then readClass rest else none with
        | some (f, rest) => readSet c fuel false (found || f c) rest
        | none =>
          match readMember cs with
          | none => none
          | some (low, '-' :: high :: rest) =>
            if high = ']' then readSet c fuel false (found || c = low) ('-' :: high :: rest)
            else
              match readMember (high :: rest) with
              | some (high, rest) => readSet c fuel false (found || (low ≤ c && c ≤ high)) rest
              | none => none
          | some (low, rest) => readSet c fuel false (found || c = low) rest

/-- Whether an octet is in the set that follows an opening bracket, and what follows the set; none
if no set follows. -/
def inSet (c : Char) (cs : List Char) : Option (Bool × List Char) :=
  match cs with
  | '!' :: rest => (fun r => (!r.1, r.2)) <$> readSet c (cs.length + 1) true false rest
  | _ => readSet c (cs.length + 1) true false cs

/-- Whether a pattern matches a text, in at most `fuel` parts of the pattern. -/
def fitsFrom : Nat → List Char → List Char → Bool
  | 0, _, _ => false
  | _, [], text => text.isEmpty
  | fuel + 1, c :: rest, text =>
    let char (c : Char) (rest : List Char) : Bool :=
      match text with
      | d :: after => c = d && fitsFrom fuel rest after
      | [] => false
    match c, rest with
    | '*', _ => (List.range (text.length + 1)).any fun n => fitsFrom fuel rest (text.drop n)
    | '?', _ =>
      match text with
      | _ :: after => fitsFrom fuel rest after
      | [] => false
    | '\\', d :: rest => char d rest
    | '[', _ =>
      match text with
      | d :: after =>
        match inSet d rest with
        | some (found, rest) => found && fitsFrom fuel rest after
        | none => d = '[' && fitsFrom fuel rest after
      | [] => false
    | c, rest => char c rest

/-- Whether a pattern matches a text. -/
def fits (pattern text : List Char) : Bool :=
  fitsFrom (pattern.length + 1) pattern text

/-- A text without what a pattern matches at one of its ends.  A null ends what is matched. -/
def trim (atEnd longest : Bool) (pattern text : List Char) : List Char :=
  let sizes := List.range (text.length + 1)
  let sizes := if longest then sizes.reverse else sizes
  let taken (n : Nat) := if atEnd then text.drop (text.length - n) else text.take n
  let left (n : Nat) := if atEnd then text.take (text.length - n) else text.drop n
  match sizes.find? fun n => fits pattern ((taken n).takeWhile fun c => c.toNat != 0) with
  | some n => left n
  | none => text

/-- Whether a pattern has octets that stand for others. -/
def isSpecial : List Char → Bool
  | '\\' :: _ :: rest => isSpecial rest
  | c :: rest => c = '*' || c = '?' || c = '[' || isSpecial rest
  | [] => false

/-- The text that a pattern without special octets stands for. -/
def plainText : List Char → List Char
  | '\\' :: c :: rest => c :: plainText rest
  | c :: rest => c :: plainText rest
  | [] => []

def namesIn (tree : Files.Tree) (path : List Char) : List (List Char) :=
  match tree.locate (if path.isEmpty then "." else Text.gather path) with
  | .error _ => []
  | .ok place =>
    tree.entries.filterMap fun e =>
      match e.1.getLast? with
      | some name =>
        if e.1.length = place.length + 1 && e.1.dropLast = place then some (Text.spread name)
        else none
      | none => none

/-- The paths that go on from a path by the parts of a pattern. -/
def pathsFrom (tree : Files.Tree) (path : List Char) : List (List Char) → List (List Char)
  | [] => if tree.hasPath (Text.gather path) then [path] else []
  | part :: rest =>
    let next (name : List Char) : List (List Char) :=
      let reached := path ++ name
      if rest.isEmpty then pathsFrom tree reached rest
      else if name.isEmpty || tree.isDirectory (Text.gather reached) then
        pathsFrom tree (reached ++ ['/']) rest
      else []
    if isSpecial part then
      let names := [['.'], ['.', '.']] ++ namesIn tree path
      let shown := names.filter fun name =>
        (name.head? != some '.' || (plainText part).head? = some '.') && fits part name
      shown.flatMap next
    else next (plainText part)

/-- The paths that a pattern stands for, in order; none if it stands for itself. -/
def paths (tree : Files.Tree) (pattern : List Char) : List (List Char) :=
  if isSpecial pattern then
    let found := pathsFrom tree [] (Text.splitOn '/' pattern)
    found.mergeSort fun a b => String.ofList a ≤ String.ofList b
  else []

end Glob
end Shell
end Formatter
end FlowDecl
