import FlowDecl.Text.Utf8

/-!
# Encodings of received text

A received text may be in UTF-8, UTF-16 or UTF-32.  The encoding is found by the mark at its
beginning, and without a mark by the pattern of zero octets that two ASCII characters leave.

Lone surrogates are let pass.  They are no characters, so private characters at the very end of
Unicode stand for them, one for each.
-/

namespace FlowDecl
namespace Text

/-! ## Surrogates -/

/-- Whether a code unit begins a surrogate pair. -/
def isHighSurrogate (n : Nat) : Bool :=
  0xd800 ≤ n && n < 0xdc00

/-- Whether a code unit ends a surrogate pair. -/
def isLowSurrogate (n : Nat) : Bool :=
  0xdc00 ≤ n && n < 0xe000

def pairChar (high low : Nat) : Char :=
  Char.ofNat (0x10000 + (high - 0xd800) * 0x400 + (low - 0xdc00))

/-- The character of a code unit, or the one that stands for a lone surrogate. -/
def unitChar (n : Nat) : Char :=
  if n.isValidChar then Char.ofNat n else Char.ofNat (0x10f800 + (n - 0xd800))

/-! ## Encodings -/

/-- The encodings that a received text may be in; `marked` says that a mark comes first. -/
inductive Encoding where
  | utf8 (marked : Bool)
  | utf16 (bigEndian marked : Bool)
  | utf32 (bigEndian marked : Bool)
  deriving DecidableEq, Repr

namespace Encoding

/-- The encoding of a text by its first four octets. -/
def detect : List UInt8 → Encoding
  | 0x00 :: 0x00 :: 0xfe :: 0xff :: _ => .utf32 true true
  | 0xff :: 0xfe :: 0x00 :: 0x00 :: _ => .utf32 false true
  | 0xfe :: 0xff :: _ => .utf16 true true
  | 0xff :: 0xfe :: _ => .utf16 false true
  | 0xef :: 0xbb :: 0xbf :: _ => .utf8 true
  | b0 :: b1 :: b2 :: b3 :: _ =>
    if b0 = 0 then
      if b1 = 0 then .utf32 true false else .utf16 true false
    else if b1 = 0 then
      if b2 = 0 ∧ b3 = 0 then .utf32 false false else .utf16 false false
    else .utf8 false
  | [b0, b1] =>
    if b0 = 0 then .utf16 true false
    else if b1 = 0 then .utf16 false false
    else .utf8 false
  | _ => .utf8 false

/-- The octets as units of two, or nothing if one is left over. -/
def pairUnits (bigEndian : Bool) : List UInt8 → Option (List Nat)
  | [] => some []
  | [_] => none
  | a :: b :: rest => do
    let units ← pairUnits bigEndian rest
    return (if bigEndian then a.toNat * 256 + b.toNat else b.toNat * 256 + a.toNat) :: units

/-- The octets as units of four, or nothing if some are left over. -/
def quadUnits (bigEndian : Bool) : List UInt8 → Option (List Nat)
  | [] => some []
  | a :: b :: c :: d :: rest => do
    let units ← quadUnits bigEndian rest
    let n :=
      if bigEndian then ((a.toNat * 256 + b.toNat) * 256 + c.toNat) * 256 + d.toNat
      else ((d.toNat * 256 + c.toNat) * 256 + b.toNat) * 256 + a.toNat
    return n :: units
  | _ => none

/-- A code point as a character, unless it is out of range. -/
def charOf? (n : Nat) : Option Char :=
  if n ≤ 0x10ffff then some (unitChar n) else none

def joinSurrogates : List Nat → List Char
  | u :: v :: rest =>
    if isHighSurrogate u && isLowSurrogate v then pairChar u v :: joinSurrogates rest
    else unitChar u :: joinSurrogates (v :: rest)
  | [u] => [unitChar u]
  | [] => []

/-- Octets in UTF-8 with lone surrogates spelled as the characters that stand for them. -/
def spellSurrogates : List UInt8 → List UInt8
  | 0xed :: b1 :: b2 :: rest =>
    if 0xa0 ≤ b1 && Utf8.isContinuation b1 && Utf8.isContinuation b2 then
      Utf8.encodeChar (unitChar (0xd000 + Utf8.payload b1 * 64 + Utf8.payload b2)) ++
        spellSurrogates rest
    else 0xed :: spellSurrogates (b1 :: b2 :: rest)
  | b :: rest => b :: spellSurrogates rest
  | [] => []

/-- The text that octets stand for in an encoding, without its mark. -/
def decode (octets : List UInt8) : Encoding → Option String
  | .utf8 marked =>
    (Utf8.decode (spellSurrogates (if marked then octets.drop 3 else octets))).toOption
  | .utf16 bigEndian marked => do
    let units ← pairUnits bigEndian (if marked then octets.drop 2 else octets)
    return String.ofList (joinSurrogates units)
  | .utf32 bigEndian marked => do
    let units ← quadUnits bigEndian (if marked then octets.drop 4 else octets)
    return String.ofList (← units.mapM charOf?)

end Encoding

/-- The text of received octets, or nothing if they are not well formed. -/
def decodeReceived (octets : List UInt8) : Option String :=
  (Encoding.detect octets).decode octets

end Text
end FlowDecl
