import FlowDecl.Decimal.Binary64

/-!
# Shortest decimals

The shortest decimal of a binary number is the one with the fewest digits that is read back as the
number; of several, the one nearest to the number.  It is found on the decimal grids of one, two
and more digits: if any point of a grid is read back as the number, then so is one of the number's
two neighbours on that grid.
-/

namespace FlowDecl
namespace Decimal

/-- A positive decimal `digits · 10 ^ exponent`. -/
structure Scaled where
  digits : Nat
  exponent : Int
  deriving DecidableEq, Repr

/-- The positive reals that are read as one number: those between two bounds, the bounds included
or not. -/
structure ReadInterval where
  low : Fraction
  high : Fraction
  closed : Bool

namespace ReadInterval

/-- The reals that are read as `mantissa · 2 ^ exponent`.  Below a power of two the neighbour is
half as far as above it. -/
def of (mantissa : Nat) (exponent : Int) : ReadInterval :=
  let below := if mantissa = Binary64.leastMantissa ∧ Binary64.minExponent < exponent then 1 else 2
  { low := Fraction.scale 2 ⟨4 * mantissa - below, 1⟩ (exponent - 2)
    high := Fraction.scale 2 ⟨4 * mantissa + 2, 1⟩ (exponent - 2)
    closed := mantissa % 2 = 0 }

/-- Whether a fraction is read as the number. -/
def contains (i : ReadInterval) (x : Fraction) : Bool :=
  if i.closed then i.low.le x && x.le i.high else i.low.lt x && x.lt i.high

end ReadInterval

def Scaled.toFraction (d : Scaled) : Fraction :=
  Fraction.scale 10 ⟨d.digits, 1⟩ d.exponent

/-- The least exponent `k`, from a first guess upwards, with `x < 10 ^ k`. -/
def magnitudeFrom (x : Fraction) : Nat → Int → Int
  | 0, k => k
  | fuel + 1, k => if x.lt (Fraction.scale 10 ⟨1, 1⟩ k) then k else magnitudeFrom x fuel (k + 1)

/-- The exponent `k` with `10 ^ (k - 1) ≤ x < 10 ^ k`. -/
def magnitude (x : Fraction) : Int :=
  let bits : Int := (x.num.log2 : Int) - (x.den.log2 : Int)
  magnitudeFrom x 8 (bits * 30103 / 100000 - 2)

/-- The neighbour of `x` on the grid of `n` digits that is read as the number, the nearer one if
both are. -/
def onGrid (i : ReadInterval) (x : Fraction) (k : Int) (n : Nat) : Option Scaled :=
  let g : Int := k - n
  let y := Fraction.scale 10 x (-g)
  let c := y.num / y.den
  let lower : Scaled := ⟨c, g⟩
  let upper : Scaled := ⟨c + 1, g⟩
  match i.contains lower.toFraction, i.contains upper.toFraction with
  | true, true => some (if y.roundEven = c then lower else upper)
  | true, false => some lower
  | false, true => some upper
  | false, false => none

/-- The first grid with a hit, from `n` digits on. -/
def firstGrid (i : ReadInterval) (x : Fraction) (k : Int) : Nat → Nat → Option Scaled
  | 0, _ => none
  | fuel + 1, n =>
    match onGrid i x k n with
    | some d => some d
    | none => firstGrid i x k fuel (n + 1)

/-- A decimal without the zeros at the end of its digits. -/
def Scaled.trimZeros (d : Scaled) : Nat → Scaled
  | 0 => d
  | fuel + 1 =>
    if d.digits % 10 = 0 then Scaled.trimZeros ⟨d.digits / 10, d.exponent + 1⟩ fuel else d

/-- The shortest decimal of the positive number `mantissa · 2 ^ exponent`; seventeen digits always
suffice. -/
def shortest (mantissa : Nat) (exponent : Int) : Scaled :=
  let x := Fraction.scale 2 ⟨mantissa, 1⟩ exponent
  let k := magnitude x
  match firstGrid (.of mantissa exponent) x k 17 1 with
  | some d => d.trimZeros 20
  | none => ⟨0, 0⟩

/-- The words for the numbers that have no digits. -/
structure NumberWords where
  infinity : String
  notANumber : String

/-- Digits with a point after the first `point` of them; the digits are padded with zeros where
the point lies outside of them, and a digit follows the point always. -/
def positional (digits : List Char) (point : Int) : List Char :=
  if point ≤ 0 then '0' :: '.' :: List.replicate (-point).toNat '0' ++ digits
  else
    let n := point.toNat
    let whole := digits.take n ++ List.replicate (n - digits.length) '0'
    let part := digits.drop n
    whole ++ '.' :: (if part.isEmpty then ['0'] else part)

/-- Digits with a point after the first and an exponent of at least two digits with a sign. -/
def exponential (digits : List Char) (point : Int) : List Char :=
  let e := point - 1
  let power := Nat.toDigits 10 e.natAbs
  let power := if power.length < 2 then '0' :: power else power
  let whole :=
    match digits with
    | [] => []
    | [d] => [d]
    | d :: part => d :: '.' :: part
  whole ++ 'e' :: (if e < 0 then '-' else '+') :: power

/-- The text of a number: the shortest decimal, positional from `1e-4` up to below `1e16` and with
an exponent outside of that. -/
def Binary64.text (words : NumberWords) : Binary64 → String
  | .nan => words.notANumber
  | .infinite negative => (if negative then "-" else "") ++ words.infinity
  | .finite negative mantissa exponent =>
    let body :=
      if mantissa = 0 then ['0', '.', '0']
      else
        let d := shortest mantissa exponent
        let digits := Nat.toDigits 10 d.digits
        let point : Int := digits.length + d.exponent
        if -4 < point ∧ point ≤ 16 then positional digits point else exponential digits point
    String.ofList (if negative then '-' :: body else body)

end Decimal
end FlowDecl
