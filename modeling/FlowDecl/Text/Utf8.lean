import FlowDecl.Text.Hex

/-!
# UTF-8

Texts are written to and read from octets.  A text that is not well formed is refused at the first
octet sequence that cannot be continued; the refusal holds the cause, the range of the offending
octets and the first of them.
-/

namespace FlowDecl
namespace Text
namespace Utf8

/-- Why an octet sequence is not a character. -/
inductive Cause where
  | invalidStart
  | invalidContinuation
  | unexpectedEnd
  deriving DecidableEq, Repr

def Cause.message : Cause → String
  | .invalidStart => "invalid start byte"
  | .invalidContinuation => "invalid continuation byte"
  | .unexpectedEnd => "unexpected end of data"

/-- A refused octet sequence: the octets from `start` up to `stop`, the first of which is
`octet`. -/
structure Refusal where
  cause : Cause
  start : Nat
  stop : Nat
  octet : UInt8
  deriving DecidableEq, Repr

def Refusal.message (r : Refusal) : String :=
  let place :=
    if r.stop = r.start + 1 then
      s!"byte 0x" ++ String.ofList (hexDigits 2 r.octet.toNat) ++ s!" in position {r.start}"
    else s!"bytes in position {r.start}-{r.stop - 1}"
  "'utf-8' codec can't decode " ++ place ++ ": " ++ r.cause.message

/-- Whether an octet continues a character. -/
def isContinuation (b : UInt8) : Bool :=
  0x80 ≤ b && b < 0xc0

def payload (b : UInt8) : Nat :=
  b.toNat % 64

/-- Whether the second octet of a three-octet character is right for its first: no overlong form
and no surrogate. -/
def secondOfThree (lead b : UInt8) : Bool :=
  isContinuation b && (lead != 0xe0 || 0xa0 ≤ b) && (lead != 0xed || b < 0xa0)

/-- Whether the second octet of a four-octet character is right for its first: no overlong form
and nothing above `U+10FFFF`. -/
def secondOfFour (lead b : UInt8) : Bool :=
  isContinuation b && (lead != 0xf0 || 0x90 ≤ b) && (lead != 0xf4 || b < 0x90)

/-- Reads characters from octets; `pos` is the position of the first octet and `done` holds the
characters so far, last first. -/
def decodeFrom (pos : Nat) (done : List Char) : List UInt8 → Except Refusal (List Char)
  | [] => .ok done.reverse
  | b0 :: rest =>
    if b0 < 0x80 then decodeFrom (pos + 1) (Char.ofNat b0.toNat :: done) rest
    else if b0 < 0xc2 ∨ 0xf5 ≤ b0 then .error ⟨.invalidStart, pos, pos + 1, b0⟩
    else if b0 < 0xe0 then
      match rest with
      | [] => .error ⟨.unexpectedEnd, pos, pos + 1, b0⟩
      | b1 :: rest =>
        if isContinuation b1 then
          let n := (b0.toNat - 0xc0) * 64 + payload b1
          decodeFrom (pos + 2) (Char.ofNat n :: done) rest
        else .error ⟨.invalidContinuation, pos, pos + 1, b0⟩
    else if b0 < 0xf0 then
      match rest with
      | [] => .error ⟨.unexpectedEnd, pos, pos + 1, b0⟩
      | b1 :: rest =>
        if secondOfThree b0 b1 then
          match rest with
          | [] => .error ⟨.unexpectedEnd, pos, pos + 2, b0⟩
          | b2 :: rest =>
            if isContinuation b2 then
              let n := ((b0.toNat - 0xe0) * 64 + payload b1) * 64 + payload b2
              decodeFrom (pos + 3) (Char.ofNat n :: done) rest
            else .error ⟨.invalidContinuation, pos, pos + 2, b0⟩
        else .error ⟨.invalidContinuation, pos, pos + 1, b0⟩
    else
      match rest with
      | [] => .error ⟨.unexpectedEnd, pos, pos + 1, b0⟩
      | b1 :: rest =>
        if secondOfFour b0 b1 then
          match rest with
          | [] => .error ⟨.unexpectedEnd, pos, pos + 2, b0⟩
          | b2 :: rest =>
            if isContinuation b2 then
              match rest with
              | [] => .error ⟨.unexpectedEnd, pos, pos + 3, b0⟩
              | b3 :: rest =>
                if isContinuation b3 then
                  let n := (((b0.toNat - 0xf0) * 64 + payload b1) * 64 + payload b2) * 64
                    + payload b3
                  decodeFrom (pos + 4) (Char.ofNat n :: done) rest
                else .error ⟨.invalidContinuation, pos, pos + 3, b0⟩
            else .error ⟨.invalidContinuation, pos, pos + 2, b0⟩
        else .error ⟨.invalidContinuation, pos, pos + 1, b0⟩

/-- The text that octets stand for. -/
def decode (octets : List UInt8) : Except Refusal String :=
  (decodeFrom 0 [] octets).map String.ofList

def encodeChar (c : Char) : List UInt8 :=
  let n := c.toNat
  if n < 0x80 then [n.toUInt8]
  else if n < 0x800 then [(0xc0 + n / 64).toUInt8, (0x80 + n % 64).toUInt8]
  else if n < 0x10000 then
    [(0xe0 + n / 4096).toUInt8, (0x80 + n / 64 % 64).toUInt8, (0x80 + n % 64).toUInt8]
  else
    [(0xf0 + n / 262144).toUInt8, (0x80 + n / 4096 % 64).toUInt8, (0x80 + n / 64 % 64).toUInt8,
      (0x80 + n % 64).toUInt8]

def encode (s : String) : List UInt8 :=
  s.toList.flatMap encodeChar

end Utf8
end Text
end FlowDecl
