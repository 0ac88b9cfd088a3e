import FlowDecl.Decimal.Binary64
import FlowDecl.Text.Hex

/-!
# Numbers in formats

How a number is read from the beginning of a text, and how it is written for a place in a format:
in a base, with a sign, with a least number of digits, or with a number of decimal places.
-/

namespace FlowDecl
namespace Formatter
namespace Numerals

open Decimal (Fraction Binary64)

/-! ## Reading -/

/-- A number without its sign. -/
inductive Size where
  | finite (x : Fraction)
  | infinite
  | nan

/-- A number at the beginning of a text, and what follows it. -/
structure Leading where
  negative : Bool := false
  size : Size
  rest : List Char

def valueOf (base : Nat) (digits : List Char) : Nat :=
  digits.foldl (fun n c => n * base + (Text.hexValue? c).getD 0) 0

/-- What follows a word at the beginning of a text, whose letters may be capitals. -/
def afterWord? (word : String) (cs : List Char) : Option (List Char) :=
  let n := word.length
  if (cs.take n).map Char.toLower = word.toList then some (cs.drop n) else none

/-- An exponent after one of two letters, and what follows; it is zero if there is none. -/
def readExponent (small capital : Char) (cs : List Char) : Int × List Char :=
  match cs with
  | c :: rest =>
    if c != small && c != capital then (0, cs)
    else
      let (negative, rest) :=
        match rest with
        | '-' :: rest => (true, rest)
        | '+' :: rest => (false, rest)
        | rest => (false, rest)
      let digits := rest.takeWhile Char.isDigit
      if digits.isEmpty then (0, cs)
      else
        let n : Int := valueOf 10 digits
        (if negative then -n else n, rest.drop digits.length)
  | [] => (0, [])

/-- The digits of a number in a base up to its exponent: their value, how many of them stand after
the point, and what follows. -/
def readDigits? (base : Nat) (cs : List Char) : Option (Nat × Nat × List Char) :=
  let isDigit (c : Char) := (Text.hexValue? c).any (· < base)
  let whole := cs.takeWhile isDigit
  let (part, rest) :=
    match cs.drop whole.length with
    | '.' :: rest => (rest.takeWhile isDigit, rest.dropWhile isDigit)
    | rest => ([], rest)
  if whole.isEmpty && part.isEmpty then none
  else some (valueOf base (whole ++ part), part.length, rest)

/-- The size of the number `n · base ^ e`.  Exponents that are far out of range count as less
far. -/
def sized (base n : Nat) (e : Int) : Size :=
  let far : Int := 20000
  .finite (Fraction.scale base ⟨n, 1⟩ (max (-far) (min far e)))

/-- The number in the base ten at the beginning of a text. -/
def readDecimal? (cs : List Char) : Option (Size × List Char) := do
  let (n, places, rest) ← readDigits? 10 cs
  let (e, rest) := readExponent 'e' 'E' rest
  return (sized 10 n (e - places), rest)

/-- The number at the beginning of a text without blanks and a sign: decimal, or in the base sixteen
after a mark, or a word. -/
def readSize? (cs : List Char) : Option (Size × List Char) :=
  let hex :=
    match cs with
    | '0' :: x :: rest => if x = 'x' || x = 'X' then readDigits? 16 rest else none
    | _ => none
  match afterWord? "infinity" cs, afterWord? "inf" cs, afterWord? "nan" cs, hex with
  | some rest, _, _, _ => some (.infinite, rest)
  | none, some rest, _, _ => some (.infinite, rest)
  | none, none, some rest, _ =>
    let inside := (rest.drop 1).takeWhile fun c => c.isAlphanum || c = '_'
    let after := (rest.drop 1).drop inside.length
    some (.nan, if rest.head? = some '(' && after.head? = some ')' then after.drop 1 else rest)
  | none, none, none, some (n, places, rest) =>
    let (e, rest) := readExponent 'p' 'P' rest
    some (sized 2 n (e - 4 * places), rest)
  | none, none, none, none => readDecimal? cs

/-- The number at the beginning of a text, before which there may be white space and a sign. -/
def leading? (cs : List Char) : Option Leading :=
  let bare := cs.dropWhile fun c => c = ' ' || ('\t' ≤ c && c ≤ '\r')
  let (negative, bare) :=
    match bare with
    | '-' :: rest => (true, rest)
    | '+' :: rest => (false, rest)
    | rest => (false, rest)
  (readSize? bare).map fun (size, rest) => { negative, size, rest }

/-- How numbers are kept: the bits of a mantissa, and the least and the greatest exponent. -/
structure Precision where
  bits : Nat
  minExponent : Int
  maxExponent : Int

def Precision.double : Precision := ⟨53, -1074, 971⟩

def Precision.extended : Precision := ⟨64, -16445, 16320⟩

/-- A number that is kept, without its sign; a finite one is `mantissa · 2 ^ exponent`. -/
inductive Kept where
  | finite (mantissa : Nat) (exponent : Int)
  | infinite
  | nan

/-- The exponent at which a positive fraction has a mantissa of all bits, or the least exponent. -/
def Precision.exponentOf (p : Precision) (x : Fraction) : Int :=
  let e : Int := (x.num.log2 : Int) - (x.den.log2 : Int) - (p.bits - 1)
  let y := x.scale 2 (-e)
  max (if y.num < Nat.pow 2 (p.bits - 1) * y.den then e - 1 else e) p.minExponent

/-- Keeps a number, and tells whether it is out of range: too large, or too small for all bits of
its mantissa. -/
def Precision.keep (p : Precision) : Size → Kept × Bool
  | .infinite => (.infinite, false)
  | .nan => (.nan, false)
  | .finite x =>
    if x.num = 0 then (.finite 0 p.minExponent, false)
    else
      let e := p.exponentOf x
      let y := x.scale 2 (-e)
      let m := y.roundEven
      let (m, e) := if m = Nat.pow 2 p.bits then (m / 2, e + 1) else (m, e)
      if p.maxExponent < e then (.infinite, true)
      else (.finite m e, m < Nat.pow 2 (p.bits - 1) && y.num % y.den != 0)

/-! ## Writing -/

def digitChar (capitals : Bool) (d : Nat) : Char :=
  if d < 10 then Char.ofNat (48 + d) else Char.ofNat ((if capitals then 55 else 87) + d)

/-- The digits of a number in a base, in at most `fuel` places, last first. -/
def digitsFrom (base : Nat) (capitals : Bool) : Nat → Nat → List Char
  | 0, _ => []
  | fuel + 1, n =>
    if n = 0 then [] else digitChar capitals (n % base) :: digitsFrom base capitals fuel (n / base)

/-- The digits of a number in a base from eight on; zero has none. -/
def digits (base : Nat) (capitals : Bool) (n : Nat) : List Char :=
  (digitsFrom base capitals (n.log2 / 3 + 1) n).reverse

def digitsAtLeast (base : Nat) (capitals : Bool) (least n : Nat) : List Char :=
  let ds := digits base capitals n
  List.replicate (least - ds.length) '0' ++ ds

/-- A whole part and decimal places with a point between them; without places the point is `kept` or
left out. -/
def pointed (kept : Bool) (whole places : List Char) : List Char :=
  if places.isEmpty && !kept then whole else whole ++ '.' :: places

/-- A number with a number of decimal places. -/
def fixed (kept : Bool) (places : Nat) (x : Fraction) : List Char :=
  let n := (x.scale 10 places).roundEven
  let ds := digitsAtLeast 10 false (places + 1) n
  pointed kept (ds.take (ds.length - places)) (ds.drop (ds.length - places))

/-- The power of ten of the first digit of a number that is not zero. -/
def leadingPower (x : Fraction) : Int :=
  let length (n : Nat) : Int := (digits 10 false n).length
  if x.den ≤ x.num then length (x.num / x.den) - 1
  else -length ((x.den - 1) / x.num)

/-- The power of ten of the first digit of a number, and its digits, of which there are
`places + 1`. -/
def scientific (places : Nat) (x : Fraction) : Int × List Char :=
  if x.num = 0 then (0, List.replicate (places + 1) '0')
  else
    let e := leadingPower x
    let n := (x.scale 10 (places - e)).roundEven
    let ds := digits 10 false n
    if places + 1 < ds.length then (e + 1, ds.take (places + 1)) else (e, ds)

/-- A letter and an exponent of a least number of digits. -/
def exponentText (letter : Char) (least : Nat) (e : Int) : List Char :=
  letter :: (if e < 0 then '-' else '+') :: digitsAtLeast 10 false least e.natAbs

def exponential (kept capitals : Bool) (places : Nat) (x : Fraction) : List Char :=
  let (e, ds) := scientific places x
  pointed kept (ds.take 1) (ds.drop 1) ++ exponentText (if capitals then 'E' else 'e') 2 e

/-- Digits after a point without the zeros at their end. -/
def withoutZeros (cs : List Char) : List Char :=
  if cs.contains '.' then
    let bare := cs.reverse.dropWhile (· = '0')
    (if bare.head? = some '.' then bare.drop 1 else bare).reverse
  else cs

/-- A number in the shorter one of both ways, with a number of digits that count; zeros at the end
are `kept` or left out. -/
def general (kept capitals : Bool) (precision : Nat) (x : Fraction) : List Char :=
  let precision := max precision 1
  let (e, ds) := scientific (precision - 1) x
  let trimmed (cs : List Char) := if kept then cs else withoutZeros cs
  if e < -4 || (precision : Int) ≤ e then
    trimmed (pointed kept (ds.take 1) (ds.drop 1)) ++
      exponentText (if capitals then 'E' else 'e') 2 e
  else trimmed (fixed kept ((precision : Int) - 1 - e).toNat x)

/-- A number in the base sixteen with an exponent of two, without its mark: one digit and then as
many as there are places, or as many as are needed. -/
def hexadecimal (kept capitals : Bool) (p : Precision) (places : Option Nat) (m : Nat) (e : Int) :
    List Char :=
  let letter := if capitals then 'P' else 'p'
  let most := (p.bits - 1) / 4
  let ending := exponentText letter 1 (if m = 0 then 0 else e + 4 * most)
  match places with
  | none =>
    let ds := digitsAtLeast 16 capitals (most + 1) m
    pointed kept (ds.take 1) (withoutZeros ('.' :: ds.drop 1) |>.drop 1) ++ ending
  | some places =>
    let n := ((⟨m, 1⟩ : Fraction).scale 16 ((places : Int) - most)).roundEven
    let ds := digitsAtLeast 16 capitals (places + 1) n
    if places + 1 < ds.length then
      pointed kept (ds.take 1) ((ds.drop 1).take places) ++
        exponentText letter 1 (e + 4 * most + 4)
    else pointed kept (ds.take 1) (ds.drop 1) ++ ending

end Numerals
end Formatter
end FlowDecl
