import FlowDecl.Text.Printable

/-!
# Blank characters and trimming

The blank characters are all Unicode white space together with the four information separators
`U+001C` to `U+001F`.  The zero-width characters `U+200B` and `U+FEFF` are not blank.
-/

namespace FlowDecl
namespace Text

/-- The closed ranges of blank code points. -/
def blankRanges : List (Nat × Nat) :=
  [(0x9, 0xd), (0x1c, 0x20), (0x85, 0x85), (0xa0, 0xa0), (0x1680, 0x1680), (0x2000, 0x200a),
    (0x2028, 0x2029), (0x202f, 0x202f), (0x205f, 0x205f), (0x3000, 0x3000)]

/-- Whether a character is removed from the ends of a text by trimming. -/
def isBlank (c : Char) : Bool :=
  inRanges blankRanges c.toNat

/-- A list of characters without the blanks at either end. -/
def trimChars (cs : List Char) : List Char :=
  ((cs.dropWhile isBlank).reverse.dropWhile isBlank).reverse

/-- A text without the blanks at either end. -/
def trim (s : String) : String :=
  String.ofList (trimChars s.toList)

def beginsWith (start s : String) : Bool :=
  start.toList.isPrefixOf s.toList

def endsWith (ending s : String) : Bool :=
  ending.toList.reverse.isPrefixOf s.toList.reverse

end Text
end FlowDecl
