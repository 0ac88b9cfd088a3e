import FlowDecl.Formatter.Edit.Fault
import FlowDecl.Formatter.Edit.Instruction
import FlowDecl.Text.Hex
import FlowDecl.Text.Octets

/-!
# Escapes in edit scripts

A backslash with a letter or a number stands for an octet.  What such an octet means depends on
where it stands: in a pattern it counts as if it were written there, in a replacement it stands for
itself.

Scripts are read octet by octet, so a character of these texts is an octet.
-/

namespace FlowDecl
namespace Formatter
namespace Edit

/-- The control characters of the letters of escapes. -/
def controls : List (Char × Char) :=
  [('a', '\x07'), ('f', '\x0c'), ('n', '\n'), ('r', '\x0d'), ('t', '\t'), ('v', '\x0b')]

/-- The octet of a number of at most some digits in a base, and what follows; without digits it is
the letter itself. -/
def numbered (letter : Char) (base most : Nat) (cs : List Char) : Char × List Char :=
  let digits := (cs.take most).takeWhile fun c => (Text.hexValue? c).any (· < base)
  if digits.isEmpty then (letter, cs)
  else
    let n := digits.foldl (fun n c => n * base + (Text.hexValue? c).getD 0) 0
    (Char.ofNat (n % 256), cs.drop digits.length)

/-- The octet of a letter that is held together with the control key. -/
def controlled (c : Char) : Char :=
  Char.ofNat (c.toUpper.toNat ^^^ 0x40)

/-- The octet of an escape after its backslash, and what follows; nothing if it is no escape. -/
def readEscape? : List Char → Except Fault (Option (Char × List Char))
  | [] => .ok none
  | c :: rest =>
    match controls.lookup c with
    | some octet => .ok (some (octet, rest))
    | none =>
      match c, rest with
      | 'd', rest => .ok (some (numbered 'd' 10 3 rest))
      | 'o', rest => .ok (some (numbered 'o' 8 3 rest))
      | 'x', rest => .ok (some (numbered 'x' 16 2 rest))
      | 'c', '\\' :: '\\' :: rest => .ok (some ('\x1c', rest))
      | 'c', '\\' :: _ => .error .nestedEscape
      | 'c', d :: rest => .ok (some (controlled d, rest))
      | _, _ => .ok none

/-- What is read of a text with escapes. -/
inductive Piece where
  /-- An octet that stands there or that an escape stands for. -/
  | octet (c : Char)
  /-- A backslash that is no escape, and the octet after it.  Escapes for a backslash and for an
  ampersand count as this. -/
  | marked (c : Char)
  /-- A backslash after which nothing comes. -/
  | backslash
  deriving DecidableEq, Repr

/-- The pieces of at most `fuel` octets. -/
def piecesOf : Nat → List Char → Except Fault (List Piece)
  | 0, _ => .ok []
  | _, [] => .ok []
  | fuel + 1, '\\' :: rest => do
    match ← readEscape? rest, rest with
    | some (c, rest), _ =>
      let piece : Piece := if c = '\\' || c = '&' then .marked c else .octet c
      return piece :: (← piecesOf fuel rest)
    | none, ['c'] => return [.backslash]
    | none, c :: rest => return .marked c :: (← piecesOf fuel rest)
    | none, [] => return [.backslash]
  | fuel + 1, c :: rest => do
    return .octet c :: (← piecesOf fuel rest)

/-- Where the reading of a pattern stands: in a bracket expression, or in a name in one, which a
mark ends. -/
inductive Bracket where
  | outside
  | inside
  | inName (mark : Char)
  deriving DecidableEq, Repr

/-- Where reading stands after an octet that comes after two others. -/
def Bracket.after (b : Bracket) (before previous c : Char) : Bracket :=
  match b with
  | .outside => if c = '[' then .inside else .outside
  | .inside =>
    if c = ']' then .outside
    else if (c = ':' || c = '.' || c = '=') && previous = '[' then .inName c
    else .inside
  | .inName mark =>
    if c = ']' && previous = mark && before != mark then .inside else .inName mark

/-- A pattern in which octets stand for escapes.  If `plainBrackets` is set, there are no escapes in
bracket expressions.  Two octets come before the pattern. -/
def resolvePattern (plainBrackets : Bool) (b : Bracket) (before previous : Char) :
    Nat → List Char → Except Fault (List Char)
  | 0, _ => .ok []
  | _, [] => .ok []
  | fuel + 1, c :: rest => do
    let goOn (b : Bracket) (before previous : Char) (rest : List Char) : Except Fault (List Char) :=
      resolvePattern plainBrackets b before previous fuel rest
    if c = '\\' && (b = .outside || !plainBrackets) then
      match ← readEscape? rest, rest with
      | some (octet, rest), _ => return octet :: (← goOn b c octet rest)
      | none, ['c'] => return [c]
      | none, d :: rest => return c :: d :: (← goOn b c d rest)
      | none, [] => return [c]
    else
      let b := if plainBrackets then b.after before previous c else b
      return c :: (← goOn b previous c rest)

/-- A text in which octets stand for escapes; other backslashes are dropped. -/
def resolveText (cs : List Char) : Except Fault (List Char) := do
  let pieces ← piecesOf cs.length cs
  return pieces.map fun
    | .octet c => c
    | .marked c => c
    | .backslash => '\\'

/-- One side of an exchange: a backslash and a line feed can be written with a backslash, and other
backslashes are dropped.  A backslash at the end has nothing to stand before. -/
def resolveSide (cs : List Char) : Except Fault (List Char) := do
  let pieces ← piecesOf cs.length cs
  if pieces.getLast? = some .backslash then throw .differentLengths
  return pieces.filterMap fun
    | .octet c => some c
    | .marked c => some c
    | .backslash => none

/-! ## Replacements -/

/-- How the letters of a part of a replacement are changed. -/
structure Change where
  letters : LetterCase := .kept
  first : LetterCase := .kept

/-- The parts of a replacement.  `text` is the text of the part that is read, last octet first, and
`now` the change for it; `kept` holds for the parts after it unless they have one of their own. -/
def partsFrom (now kept : Change) (text : List Char) : List Piece → List ReplacementPart
  | [] =>
    if text.isEmpty then []
    else [{ text := Text.charOctets text.reverse, letters := now.letters, first := now.first }]
  | piece :: rest =>
    let ended (text : List Char) (group : Option Nat) : ReplacementPart :=
      { text := Text.charOctets text.reverse, group, letters := now.letters, first := now.first }
    let lasting (letters : LetterCase) : List ReplacementPart :=
      ended text none :: partsFrom { letters } { letters } [] rest
    let once (first : LetterCase) : List ReplacementPart :=
      ended text none :: partsFrom { kept with first } kept [] rest
    match piece with
    | .octet '&' => ended text (some 0) :: partsFrom kept kept [] rest
    | .octet c => partsFrom now kept (c :: text) rest
    | .backslash => partsFrom now kept ('\\' :: text) rest
    | .marked 'L' => lasting .small
    | .marked 'U' => lasting .capital
    | .marked 'E' => lasting .kept
    | .marked 'l' => once .small
    | .marked 'u' => once .capital
    | .marked c =>
      if c.isDigit then ended text (some (c.toNat - 48)) :: partsFrom kept kept [] rest
      else ended (c :: text) none :: partsFrom kept kept [] rest

/-- The parts of a replacement; `plain` tells that letters are not changed. -/
def readReplacement (plain : Bool) (cs : List Char) : Except Fault (List ReplacementPart) := do
  let pieces ← piecesOf cs.length cs
  let pieces := if !plain then pieces else pieces.map fun
    | .marked c => if "LUElu".toList.contains c then .octet c else .marked c
    | piece => piece
  return partsFrom {} {} [] pieces

end Edit
end Formatter
end FlowDecl
