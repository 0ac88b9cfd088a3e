import FlowDecl.Text.Printable

/-!
# Line ends

Two readings of line ends are in use: text that is read from files and processes has every
`CR LF` and every lone `CR` turned into `LF`, and counting the lines of a text breaks at ten
different characters.
-/

namespace FlowDecl
namespace Text

/-- Every `CR LF` and every lone `CR` becomes `LF`. -/
def unifyNewlines : List Char → List Char
  | [] => []
  | '\r' :: '\n' :: rest => '\n' :: unifyNewlines rest
  | '\r' :: rest => '\n' :: unifyNewlines rest
  | c :: rest => c :: unifyNewlines rest

/-- The characters that end a line when lines are counted. -/
def lineEnds : List (Nat × Nat) :=
  [(0xa, 0xd), (0x1c, 0x1e), (0x85, 0x85), (0x2028, 0x2029)]

/-- Whether a character ends a line when lines are counted. -/
def isLineEnd (c : Char) : Bool :=
  inRanges lineEnds c.toNat

/-- Counts lines; `started` tells whether the current line holds a character already. -/
def countLinesFrom (started : Bool) : List Char → Nat
  | [] => if started then 1 else 0
  | '\r' :: '\n' :: rest => 1 + countLinesFrom false rest
  | c :: rest => if isLineEnd c then 1 + countLinesFrom false rest else countLinesFrom true rest

/-- The number of lines of a text, a last line without a line end included. -/
def countLines (s : String) : Nat :=
  countLinesFrom false s.toList

end Text
end FlowDecl
