import FlowDecl.Formatter.Shell.Glob

/-!
# Fields

What the pieces of a word stand for is a list of items: octets, of which some may separate fields or
stand for others in a pattern.  The items are split into fields, and a field is a text, a pattern or
the paths that a pattern stands for.
-/

namespace FlowDecl
namespace Formatter
namespace Shell

/-- A part of what a word stands for. -/
inductive Item where
  /-- An octet: whether it stands for itself in a pattern, and whether it may separate fields. -/
  | char (c : Char) (quoted splits : Bool)
  /-- A quotation mark. -/
  | mark
  /-- The end of a field in any case. -/
  | gap
  deriving DecidableEq, Repr

namespace Item

/-- The items of a text. -/
def ofText (text : List Char) (quoted splits : Bool) : List Item :=
  text.map fun c => .char c quoted splits

def text (items : List Item) : List Char :=
  items.filterMap fun i =>
    match i with
    | .char c _ _ => some c
    | _ => none

def pattern (items : List Item) : List Char :=
  items.flatMap fun i =>
    match i with
    | .char c true _ => ['\\', c]
    | .char c false _ => [c]
    | _ => []

/-- Whether an item separates fields, by the octets that do so. -/
def separates (separators : List Char) : Item → Bool
  | .char c _ true => separators.contains c || c.toNat = 0
  | _ => false

/-- Whether an item is white space between fields: several of them count as one. -/
def isWhite : Item → Bool
  | .char c _ _ => c = ' ' || c = '\t' || c = '\n' || c.toNat = 0
  | _ => false

/-- What follows the separator of a field: white space, and after white space also one separator of
another kind. -/
def afterSeparator (separators : List Char) (white : Bool) : List Item → List Item
  | [] => []
  | i :: rest =>
    if i.separates separators then
      if i.isWhite then afterSeparator separators white rest
      else if white then afterSeparator separators false rest
      else i :: rest
    else i :: rest

/-- Splits items into fields in at most `fuel` steps; `field` is the field that was begun, last item
first. -/
def splitFrom (separators : List Char) : Nat → List Item → List Item → List (List Item)
  | 0, field, _ => if field.isEmpty then [] else [field.reverse]
  | _, field, [] => if field.isEmpty then [] else [field.reverse]
  | fuel + 1, field, i :: rest =>
    match i with
    | .gap => field.reverse :: splitFrom separators fuel [] rest
    | i =>
      if i.separates separators then
        if field.isEmpty && i.isWhite then splitFrom separators fuel [] rest
        else
          field.reverse ::
            splitFrom separators fuel [] (afterSeparator separators i.isWhite rest)
      else splitFrom separators fuel (i :: field) rest

/-- Splits items into fields. -/
def split (separators : List Char) (items : List Item) : List (List Item) :=
  splitFrom separators (items.length + 1) [] items

/-- The texts of a field: the paths that it stands for, if there are any. -/
def texts (tree : Files.Tree) (globs : Bool) (field : List Item) : List (List Char) :=
  let found := if globs then Glob.paths tree (pattern field) else []
  if found.isEmpty then [text field] else found

end Item

/-- Cuts the line that was read into one text for each of a number of names; the last one is the
rest without white space at its ends.  The characters are told by whether they were escaped. -/
def cutFields (separators : List Char) : Nat → List (Char × Bool) → List (List Char)
  | 0, _ => []
  | names + 1, cs =>
    let separates (c : Char × Bool) := !c.2 && separators.contains c.1
    let isWhite (c : Char × Bool) := separates c && [' ', '\t', '\n'].contains c.1
    let cs := cs.dropWhile isWhite
    if names = 0 then
      let fade := (cs.reverse.takeWhile fun c => isWhite c || c.2).reverse
      let kept := cs.take (cs.length - fade.length) ++ fade.takeWhile fun c => c.2
      let field := cs.takeWhile fun c => !separates c
      let rest := (cs.dropWhile fun c => !separates c).dropWhile isWhite
      let alone :=
        match rest with
        | [] => false
        | c :: rest => separates c && (rest.dropWhile isWhite).isEmpty
      [(if alone then field else kept).map (·.1)]
    else
      let field := cs.takeWhile fun c => !separates c
      let rest := (cs.dropWhile fun c => !separates c).dropWhile isWhite
      let rest :=
        match rest with
        | c :: after => if separates c then after else rest
        | [] => []
      field.map (·.1) :: cutFields separators names rest

end Shell
end Formatter
end FlowDecl
