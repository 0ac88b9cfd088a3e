/-!
# Binary floating-point numbers

The numbers of the binary interchange format with 64 bits, as exact data: a finite number is
`± mantissa · 2 ^ exponent`.  A decimal is read as the nearest such number, a tie going to the even
mantissa.
-/

namespace FlowDecl
namespace Decimal

/-- A number of the binary format with 64 bits. -/
inductive Binary64 where
  | finite (negative : Bool) (mantissa : Nat) (exponent : Int)
  | infinite (negative : Bool)
  | nan
  deriving DecidableEq, Repr, Inhabited

structure Fraction where
  num : Nat
  den : Nat

namespace Fraction

/-- The fraction times a power of a base. -/
def scale (base : Nat) (x : Fraction) : Int → Fraction
  | .ofNat n => ⟨x.num * base.pow n, x.den⟩
  | .negSucc n => ⟨x.num, x.den * base.pow (n + 1)⟩

/-- The nearest natural number, a tie going to the even one. -/
def roundEven (x : Fraction) : Nat :=
  let q := x.num / x.den
  let r := x.num % x.den
  if x.den < 2 * r ∨ (x.den = 2 * r ∧ q % 2 = 1) then q + 1 else q

/-- The sum of two fractions. -/
def add (x y : Fraction) : Fraction :=
  ⟨x.num * y.den + y.num * x.den, x.den * y.den⟩

/-- Whether a fraction is below another. -/
def lt (x y : Fraction) : Bool :=
  x.num * y.den < y.num * x.den

/-- Whether two fractions have the same value. -/
def same (x y : Fraction) : Bool :=
  x.num * y.den == y.num * x.den

/-- Whether a fraction is at most another. -/
def le (x y : Fraction) : Bool :=
  x.num * y.den ≤ y.num * x.den

end Fraction

namespace Binary64

/-- The least exponent of a finite number. -/
def minExponent : Int := -1074

/-- The greatest exponent of a finite number. -/
def maxExponent : Int := 971

def leastMantissa : Nat := 4503599627370496

/-- The exponent at which a positive fraction has a mantissa of 53 bits, or the least exponent. -/
def exponentOf (x : Fraction) : Int :=
  let e : Int := (x.num.log2 : Int) - (x.den.log2 : Int) - 52
  let e := if (x.scale 2 (-e)).num < leastMantissa * (x.scale 2 (-e)).den then e - 1 else e
  max e minExponent

/-- The number nearest to a positive fraction. -/
def ofFraction (negative : Bool) (x : Fraction) : Binary64 :=
  let e := exponentOf x
  let m := (x.scale 2 (-e)).roundEven
  let (m, e) := if m = 2 * leastMantissa then (leastMantissa, e + 1) else (m, e)
  if maxExponent < e then .infinite negative else .finite negative m e

/-- The number of decimal digits of a natural number, zero for zero. -/
def decimalLength (n : Nat) : Nat :=
  if n = 0 then 0 else (Nat.toDigits 10 n).length

/-- The number nearest to `± digits · 10 ^ exponent`.  Decimals that are far out of range are
settled by their length alone. -/
def ofDecimal (negative : Bool) (digits : Nat) (exponent : Int) : Binary64 :=
  if digits = 0 then .finite negative 0 minExponent
  else
    let magnitude := exponent + decimalLength digits
    if 400 < magnitude then .infinite negative
    else if magnitude < -400 then .finite negative 0 minExponent
    else ofFraction negative (Fraction.scale 10 ⟨digits, 1⟩ exponent)

def isZero : Binary64 → Bool
  | .finite _ m _ => m = 0
  | _ => false

/-- The finite numbers as signed fractions. -/
def toFraction? : Binary64 → Option (Bool × Fraction)
  | .finite negative m e => some (negative && m != 0, Fraction.scale 2 ⟨m, 1⟩ e)
  | _ => none

/-- Whether two numbers are equal in value: zeros are equal, and a number that is not a number
equals nothing. -/
def same (x y : Binary64) : Bool :=
  match x, y with
  | .infinite a, .infinite b => a == b
  | x, y =>
    match x.toFraction?, y.toFraction? with
    | some (a, x), some (b, y) => a == b && x.num * y.den == y.num * x.den
    | _, _ => false

/-- Whether a number has the value of an integer. -/
def sameInt (x : Binary64) (n : Int) : Bool :=
  match x.toFraction? with
  | some (negative, x) =>
    (negative == decide (n < 0)) && x.num == n.natAbs * x.den
  | none => false

/-- The order of values; nothing is below or above a number that is not a number. -/
def lt (x y : Binary64) : Bool :=
  match x, y with
  | .nan, _ => false
  | _, .nan => false
  | .infinite a, .infinite b => a && !b
  | .infinite a, _ => a
  | _, .infinite b => !b
  | x, y =>
    match x.toFraction?, y.toFraction? with
    | some (false, x), some (false, y) => x.lt y
    | some (true, x), some (true, y) => y.lt x
    | some (a, _), some (b, _) => a && !b
    | _, _ => false

end Binary64
end Decimal
end FlowDecl
