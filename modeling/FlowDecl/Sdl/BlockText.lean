import FlowDecl.Text.Blank

/-!
# Block texts

The text between triple quotes in schema definition text.  The indentation that all lines but the
first have in common is taken away, and so are the blank lines at either end.
-/

namespace FlowDecl
namespace Sdl

def isIndent (c : Char) : Bool :=
  c = ' ' || c = '\t'

/-- The lines of a text; a line ends with `LF`, `CR` or `CR LF`. -/
def splitLines : List Char → List (List Char)
  | [] => [[]]
  | '\r' :: '\n' :: rest => [] :: splitLines rest
  | c :: rest =>
    if c = '\n' ∨ c = '\r' then [] :: splitLines rest
    else
      match splitLines rest with
      | [] => [[c]]
      | line :: lines => (c :: line) :: lines

/-- The number of indenting characters that a line begins with. -/
def indentation (line : List Char) : Nat :=
  (line.takeWhile isIndent).length

/-- Whether a line holds indentation only. -/
def isBlankLine (line : List Char) : Bool :=
  line.all isIndent

/-- The indentation that all lines with something on them have in common. -/
def commonIndentation (lines : List (List Char)) : Nat :=
  ((lines.filter fun line => !isBlankLine line).map indentation).min?.getD 0

/-- Lines without the blank ones at either end. -/
def trimBlankLines (lines : List (List Char)) : List (List Char) :=
  ((lines.dropWhile isBlankLine).reverse.dropWhile isBlankLine).reverse

/-- The text that the lines of a block stand for. -/
def dedent (lines : List (List Char)) : List (List Char) :=
  match lines with
  | [] => []
  | first :: rest =>
    trimBlankLines (first :: rest.map fun line => line.drop (commonIndentation rest))

def blockText (cs : List Char) : String :=
  String.ofList (['\n'].intercalate (dedent (splitLines cs)))

end Sdl
end FlowDecl
