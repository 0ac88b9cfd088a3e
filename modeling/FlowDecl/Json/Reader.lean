import FlowDecl.Json.Value
import FlowDecl.Text.Hex
import FlowDecl.Text.Unicode

/-!
# Reading JSON

A text is read as one JSON value.  Beyond the standard, `NaN`, `Infinity` and `-Infinity` are
numbers, and the end of a surrogate pair may be missing.  A number with a fraction or an exponent
is a floating-point number, any other number is an integer of any size.

A text that is refused is refused at one place for one cause; the place is given by the characters
from there on, from which the line, the column and the offset are computed.
-/

namespace FlowDecl
namespace Json
namespace Reader

open Decimal (Binary64)
open Text (isHighSurrogate isLowSurrogate pairChar unitChar)

/-- Why a text is refused. -/
inductive Cause where
  | byteOrderMark
  | expectingValue
  | expectingName
  | expectingColon
  | expectingComma
  | extraData
  | unterminatedText
  | controlCharacter
  | badEscape
  | badUnicodeEscape
  deriving DecidableEq, Repr

def Cause.message : Cause → String
  | .byteOrderMark => "Unexpected UTF-8 BOM (decode using utf-8-sig)"
  | .expectingValue => "Expecting value"
  | .expectingName => "Expecting property name enclosed in double quotes"
  | .expectingColon => "Expecting ':' delimiter"
  | .expectingComma => "Expecting ',' delimiter"
  | .extraData => "Extra data"
  | .unterminatedText => "Unterminated string starting at"
  | .controlCharacter => "Invalid control character at"
  | .badEscape => "Invalid \\escape"
  | .badUnicodeEscape => "Invalid \\uXXXX escape"

/-- A refusal: the cause and the characters from the refused place on. -/
structure Refusal where
  cause : Cause
  rest : List Char
  deriving DecidableEq, Repr

/-- The white space between tokens. -/
def isSpace (c : Char) : Bool :=
  c = ' ' || c = '\t' || c = '\n' || c = '\r'

/-- The characters after white space. -/
def skipSpace (cs : List Char) : List Char :=
  cs.dropWhile isSpace

/-- The number of four hexadecimal digits. -/
def hexNumber? (a b c d : Char) : Option Nat := do
  let a ← Text.hexValue? a
  let b ← Text.hexValue? b
  let c ← Text.hexValue? c
  let d ← Text.hexValue? d
  return ((a * 16 + b) * 16 + c) * 16 + d

/-- The character after a backslash stands for a character of its own. -/
def simpleEscape? : Char → Option Char
  | '"' => some '"'
  | '\\' => some '\\'
  | '/' => some '/'
  | 'b' => some (Char.ofNat 8)
  | 'f' => some (Char.ofNat 12)
  | 'n' => some '\n'
  | 'r' => some '\r'
  | 't' => some '\t'
  | _ => none

/-- Reads a text after its opening quote; `start` are the characters from that quote on, and
`done` are the characters read so far, last first. -/
def readText (start done : List Char) : List Char → Except Refusal (String × List Char)
  | [] => .error ⟨.unterminatedText, start⟩
  | c :: rest =>
    if c = '"' then .ok (String.ofList done.reverse, rest)
    else if c = '\\' then
      match rest with
      | [] => .error ⟨.unterminatedText, start⟩
      | e :: rest =>
        if e = 'u' then
          match rest with
          | h1 :: h2 :: h3 :: h4 :: next :: more =>
            match hexNumber? h1 h2 h3 h4 with
            | none => .error ⟨.badUnicodeEscape, e :: rest⟩
            | some n =>
              if isHighSurrogate n && next = '\\' then
                match more with
                | u :: l1 :: l2 :: l3 :: l4 :: last :: beyond =>
                  if u = 'u' then
                    match hexNumber? l1 l2 l3 l4 with
                    | none => .error ⟨.badUnicodeEscape, more⟩
                    | some m =>
                      if isLowSurrogate m then
                        readText start (pairChar n m :: done) (last :: beyond)
                      else
                        readText start (unitChar n :: done)
                          (next :: u :: l1 :: l2 :: l3 :: l4 :: last :: beyond)
                  else
                    readText start (unitChar n :: done)
                      (next :: u :: l1 :: l2 :: l3 :: l4 :: last :: beyond)
                | more => readText start (unitChar n :: done) (next :: more)
              else readText start (unitChar n :: done) (next :: more)
          | _ => .error ⟨.badUnicodeEscape, e :: rest⟩
        else
          match simpleEscape? e with
          | some c => readText start (c :: done) rest
          | none => .error ⟨.badEscape, c :: e :: rest⟩
    else if c.toNat < 0x20 then .error ⟨.controlCharacter, c :: rest⟩
    else readText start (c :: done) rest

/-- The natural number that decimal digits stand for. -/
def digitsValue (cs : List Char) : Nat :=
  cs.foldl (fun n c => 10 * n + (c.toNat - 48)) 0

/-- Splits off the leading decimal digits. -/
def takeDigits (cs : List Char) : List Char × List Char :=
  (cs.takeWhile Char.isDigit, cs.dropWhile Char.isDigit)

/-- The digits of a whole number: a zero alone, or digits that begin with none. -/
def readWhole : List Char → Option (List Char × List Char)
  | [] => none
  | c :: rest =>
    if c = '0' then some ([c], rest)
    else if c.isDigit then some (takeDigits (c :: rest))
    else none

/-- The digits after a point; a point without a digit is left alone. -/
def readFraction : List Char → List Char × List Char
  | '.' :: c :: rest => if c.isDigit then takeDigits (c :: rest) else ([], '.' :: c :: rest)
  | cs => ([], cs)

/-- The sign of an exponent and the characters after it. -/
def readSign : List Char → Bool × List Char
  | '-' :: rest => (true, rest)
  | '+' :: rest => (false, rest)
  | cs => (false, cs)

/-- An exponent; one without a digit is left alone. -/
def readExponent : List Char → Option Int × List Char
  | [] => (none, [])
  | c :: rest =>
    if c = 'e' || c = 'E' then
      let (negative, afterSign) := readSign rest
      let (digits, after) := takeDigits afterSign
      if digits.isEmpty then (none, c :: rest)
      else
        let n : Int := digitsValue digits
        (some (if negative then -n else n), after)
    else (none, c :: rest)

/-- Reads the digits of a number after its sign. -/
def readUnsigned (negative : Bool) (cs : List Char) : Option (Value × List Char) := do
  let (whole, afterWhole) ← readWhole cs
  let (part, afterPart) := readFraction afterWhole
  let (exponent, after) := readExponent afterPart
  if part.isEmpty && exponent.isNone then
    let n : Int := digitsValue whole
    return (.int (if negative then -n else n), after)
  else
    let scale : Int := exponent.getD 0 - part.length
    return (.float (Binary64.ofDecimal negative (digitsValue (whole ++ part)) scale), after)

/-- The words that stand for values. -/
def keywords : List (List Char × Value) :=
  [("null".toList, .null), ("true".toList, .bool true), ("false".toList, .bool false),
    ("NaN".toList, .float .nan), ("Infinity".toList, .float (.infinite false)),
    ("-Infinity".toList, .float (.infinite true))]

def readKeyword (cs : List Char) : Option (Value × List Char) :=
  keywords.findSome? fun (word, value) =>
    if word.isPrefixOf cs then some (value, cs.drop word.length) else none

/-- Reads a value that is neither a text nor a container. -/
def readPlain (cs : List Char) : Except Refusal (Value × List Char) :=
  let found :=
    match readKeyword cs with
    | some answer => some answer
    | none =>
      match cs with
      | '-' :: rest => readUnsigned true rest
      | cs => readUnsigned false cs
  match found with
  | some answer => .ok answer
  | none => .error ⟨.expectingValue, cs⟩

mutual

/-- Reads a value.  Of any two steps in a row one takes a character, so twice the number of
characters is fuel enough. -/
def readValue : Nat → List Char → Except Refusal (Value × List Char)
  | 0, cs => .error ⟨.expectingValue, cs⟩
  | fuel + 1, cs =>
    match cs with
    | '"' :: rest => do
      let (s, after) ← readText cs [] rest
      return (.str s, after)
    | '{' :: rest =>
      match skipSpace rest with
      | '}' :: after => .ok (.obj [], after)
      | rest => readMembers fuel [] rest
    | '[' :: rest =>
      match skipSpace rest with
      | ']' :: after => .ok (.arr [], after)
      | rest => readItems fuel [] rest
    | cs => readPlain cs

/-- Reads members up to the closing brace; `done` are the members so far. -/
def readMembers : Nat → List (String × Value) → List Char → Except Refusal (Value × List Char)
  | 0, _, cs => .error ⟨.expectingName, cs⟩
  | fuel + 1, done, cs =>
    match cs with
    | '"' :: rest => do
      let (name, afterName) ← readText cs [] rest
      match skipSpace afterName with
      | ':' :: rest =>
        let (value, afterValue) ← readValue fuel (skipSpace rest)
        let done := Value.put done name value
        match skipSpace afterValue with
        | '}' :: after => return (.obj done, after)
        | ',' :: rest => readMembers fuel done (skipSpace rest)
        | cs => .error ⟨.expectingComma, cs⟩
      | cs => .error ⟨.expectingColon, cs⟩
    | cs => .error ⟨.expectingName, cs⟩

/-- Reads items up to the closing bracket; `done` are the items so far, last first. -/
def readItems : Nat → List Value → List Char → Except Refusal (Value × List Char)
  | 0, _, cs => .error ⟨.expectingValue, cs⟩
  | fuel + 1, done, cs => do
    let (item, afterItem) ← readValue fuel cs
    let done := item :: done
    match skipSpace afterItem with
    | ']' :: after => return (.arr done.reverse, after)
    | ',' :: rest => readItems fuel done (skipSpace rest)
    | cs => .error ⟨.expectingComma, cs⟩

end

def read (cs : List Char) : Except Refusal Value :=
  match cs with
  | '\ufeff' :: _ => .error ⟨.byteOrderMark, cs⟩
  | cs => do
    let (value, after) ← readValue (2 * cs.length + 1) (skipSpace cs)
    match skipSpace after with
    | [] => return value
    | rest => .error ⟨.extraData, rest⟩

/-- The offset of a refused place in the whole text. -/
def Refusal.offset (whole : List Char) (r : Refusal) : Nat :=
  whole.length - r.rest.length

/-- The cause of a refusal and its place: the line, the column and the offset. -/
def Refusal.message (whole : List Char) (r : Refusal) : String :=
  let offset := r.offset whole
  let before := whole.take offset
  let line := before.count '\n' + 1
  let column := (before.reverse.takeWhile (· != '\n')).length + 1
  r.cause.message ++ s!": line {line} column {column} (char {offset})"

end Reader

/-- Reads a text as one JSON value. -/
def parse (s : String) : Except Reader.Refusal Value :=
  Reader.read s.toList

end Json
end FlowDecl
