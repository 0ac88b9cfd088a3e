import FlowDecl.Json.Reader
import FlowDecl.Sdl.BlockText

/-!
# Tokens of schema definition text

A text is cut into punctuators, names, numbers and texts.  White space, commas, comments and byte
order marks stand between tokens and are left out.  Numbers must not run into a name or a further
number.
-/

namespace FlowDecl
namespace Sdl

inductive Token where
  | punctuator (c : Char)
  | spread
  | name (s : String)
  | int (digits : String)
  | float (digits : String)
  | text (s : String)
  deriving DecidableEq, Repr, Inhabited

def punctuators : List Char :=
  ['!', '$', '&', '(', ')', ':', '=', '@', '[', ']', '{', '|', '}']

/-- Whether a character stands between tokens. -/
def isIgnored (c : Char) : Bool :=
  c = ' ' || c = '\t' || c = '\n' || c = '\r' || c = ',' || c = '\ufeff'

def isNameStart (c : Char) : Bool :=
  c.isAlpha || c = '_'

def isNamePart (c : Char) : Bool :=
  c.isAlphanum || c = '_'

def isName (s : String) : Bool :=
  match s.toList with
  | [] => false
  | c :: rest => isNameStart c && rest.all isNamePart

/-- Reads one to eight hexadecimal digits and the closing brace after them. -/
def readBracedNumber (cs : List Char) : Option (Nat × List Char) :=
  let digits := cs.takeWhile fun c => (Text.hexValue? c).isSome
  match cs.drop digits.length with
  | '}' :: after =>
    if digits.isEmpty || 8 < digits.length then none
    else some (digits.foldl (fun n c => n * 16 + (Text.hexValue? c).getD 0) 0, after)
  | _ => none

/-- Reads the characters after a backslash and the letter `u`: four hexadecimal digits, a pair of
such escapes for one character, or up to eight digits in braces. -/
def readUnicodeEscape : List Char → Option (Char × List Char)
  | '{' :: rest => do
    let (n, after) ← readBracedNumber rest
    if n.isValidChar then some (Char.ofNat n, after) else none
  | a :: b :: c :: d :: rest => do
    let n ← Json.Reader.hexNumber? a b c d
    if n.isValidChar then some (Char.ofNat n, rest)
    else if Text.isHighSurrogate n then
      match rest with
      | '\\' :: 'u' :: a :: b :: c :: d :: after => do
        let m ← Json.Reader.hexNumber? a b c d
        if Text.isLowSurrogate m then some (Text.pairChar n m, after) else none
      | _ => none
    else none
  | _ => none

/-- Reads a text of one line after its opening quote; `done` holds what was read, last first. -/
def readLineText : Nat → List Char → List Char → Option (String × List Char)
  | 0, _, _ => none
  | fuel + 1, done, cs =>
    match cs with
    | [] => none
    | '"' :: rest => some (String.ofList done.reverse, rest)
    | '\\' :: 'u' :: rest => do
      let (c, after) ← readUnicodeEscape rest
      readLineText fuel (c :: done) after
    | '\\' :: e :: rest => do
      let c ← Json.Reader.simpleEscape? e
      readLineText fuel (c :: done) rest
    | c :: rest =>
      if c = '\n' ∨ c = '\r' ∨ c = '\\' then none else readLineText fuel (c :: done) rest

/-- Reads a block after its opening quotes; `done` holds what was read, last first. -/
def readBlock (done : List Char) : List Char → Option (String × List Char)
  | [] => none
  | '"' :: '"' :: '"' :: rest => some (blockText done.reverse, rest)
  | '\\' :: '"' :: '"' :: '"' :: rest => readBlock ('"' :: '"' :: '"' :: done) rest
  | c :: rest => readBlock (c :: done) rest

/-- Whether a number may stand before the given characters. -/
def endsNumber : List Char → Bool
  | [] => true
  | c :: _ => !(c = '.' || isNameStart c || c.isDigit)

/-- Reads the point and the digits of a fraction, if there is one; a point without a digit is no
number. -/
def readPart : List Char → Option (List Char × List Char)
  | '.' :: rest =>
    let (digits, after) := Json.Reader.takeDigits rest
    if digits.isEmpty then none else some ('.' :: digits, after)
  | cs => some ([], cs)

/-- Reads an exponent, if there is one; a mark without a digit is no number. -/
def readPower : List Char → Option (List Char × List Char)
  | [] => some ([], [])
  | c :: rest =>
    if c = 'e' ∨ c = 'E' then
      let (sign, afterSign) :=
        match rest with
        | '-' :: r => (['-'], r)
        | '+' :: r => (['+'], r)
        | r => ([], r)
      let (digits, after) := Json.Reader.takeDigits afterSign
      if digits.isEmpty then none else some (c :: sign ++ digits, after)
    else some ([], c :: rest)

def readNumber (cs : List Char) : Option (Token × List Char) := do
  let (sign, unsigned) :=
    match cs with
    | '-' :: rest => (['-'], rest)
    | cs => ([], cs)
  let (whole, afterWhole) ← Json.Reader.readWhole unsigned
  let (part, afterPart) ← readPart afterWhole
  let (power, after) ← readPower afterPart
  if endsNumber after then
    let token :=
      if part.isEmpty && power.isEmpty then .int (String.ofList (sign ++ whole))
      else .float (String.ofList (sign ++ whole ++ part ++ power))
    return (token, after)
  else none

/-- Reads one token from characters that do not begin with something ignored. -/
def readToken (cs : List Char) : Option (Token × List Char) :=
  match cs with
  | [] => none
  | '.' :: '.' :: '.' :: rest => some (.spread, rest)
  | '"' :: '"' :: '"' :: rest => do
    let (s, after) ← readBlock [] rest
    return (.text s, after)
  | '"' :: rest => do
    let (s, after) ← readLineText (rest.length + 1) [] rest
    return (.text s, after)
  | c :: rest =>
    if punctuators.contains c then some (.punctuator c, rest)
    else if isNameStart c then
      some (.name (String.ofList (cs.takeWhile isNamePart)), cs.dropWhile isNamePart)
    else if c = '-' || c.isDigit then readNumber cs
    else none

/-- Cuts a text into tokens; every step takes a character. -/
def cut : Nat → List Char → Option (List Token)
  | 0, _ => none
  | fuel + 1, cs =>
    match cs with
    | [] => some []
    | c :: rest =>
      if isIgnored c then cut fuel rest
      else if c = '#' then cut fuel (rest.dropWhile fun c => c != '\n' && c != '\r')
      else do
        let (token, after) ← readToken cs
        let tokens ← cut fuel after
        return token :: tokens

def tokens (s : String) : Option (List Token) :=
  cut (s.length + 1) s.toList

end Sdl
end FlowDecl
