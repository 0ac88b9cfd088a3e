import FlowDecl.Decimal.Binary64
import FlowDecl.Text.Blank
import FlowDecl.Text.Digits

/-!
# Numbers given by a user

A number is an optional sign with decimal digits, a point and an exponent, or a word for infinity or
for no number.  Blanks around it do not count, digits of every script are taken, and an underscore
may stand between two digits.
-/

namespace FlowDecl
namespace Decimal

/-- Whether a character around a number does not count.  The information separators do. -/
def isNumberBlank (c : Char) : Bool :=
  Text.isBlank c && !(0x1c ≤ c.toNat && c.toNat < 0x20)

/-- The number of some digits; nothing if a character is no digit. -/
def digits? (cs : List Char) : Option Nat :=
  cs.foldlM (fun n c => (n * 10 + ·) <$> Text.digitValue? c) 0

/-- Whether a character is a digit of any script. -/
def isDigit (c : Char) : Bool :=
  (Text.digitValue? c).isSome

/-- A text without underscores; nothing if one of them is not between two digits.  `before` tells
that a digit comes before. -/
def dropUnderscores (before : Bool) : List Char → Option (List Char)
  | [] => some []
  | '_' :: rest =>
    if before && rest.head?.any isDigit then dropUnderscores false rest else none
  | c :: rest => (c :: ·) <$> dropUnderscores (isDigit c) rest

def takeSign : List Char → Bool × List Char
  | '-' :: rest => (true, rest)
  | '+' :: rest => (false, rest)
  | cs => (false, cs)

/-- The exponent at the end of a number; it is zero if there is none. -/
def exponent? : List Char → Option Int
  | [] => some 0
  | c :: rest =>
    if c = 'e' || c = 'E' then
      let (negative, rest) := takeSign rest
      if rest.isEmpty then none
      else (fun n => if negative then -(n : Int) else (n : Int)) <$> digits? rest
    else none

def numberWords (negative : Bool) : List (String × Binary64) :=
  [("inf", .infinite negative), ("infinity", .infinite negative), ("nan", .nan)]

/-- A number without its sign. -/
def unsigned? (negative : Bool) (cs : List Char) : Option Binary64 :=
  match (numberWords negative).lookup (String.ofList (cs.map Char.toLower)) with
  | some x => some x
  | none => do
    let cs ← dropUnderscores false cs
    let whole := cs.takeWhile isDigit
    let rest := cs.dropWhile isDigit
    let (part, rest) :=
      match rest with
      | '.' :: rest => (rest.takeWhile isDigit, rest.dropWhile isDigit)
      | rest => ([], rest)
    if whole.isEmpty && part.isEmpty then none
    else
      let n ← digits? (whole ++ part)
      let e ← exponent? rest
      return .ofDecimal negative n (e - part.length)

def ofText? (s : String) : Option Binary64 :=
  let cs := ((s.toList.dropWhile isNumberBlank).reverse.dropWhile isNumberBlank).reverse
  let (negative, cs) := takeSign cs
  unsigned? negative cs

end Decimal
end FlowDecl
