import FlowDecl.Formatter.Edit.Instruction

/-!
# Replacing

What comes in the place of the matches of a pattern in a line.
-/

namespace FlowDecl
namespace Formatter
namespace Edit

def LetterCase.apply : LetterCase → Char → Char
  | .kept, c => c
  | .capital, c => Text.capital c
  | .small, c => Text.small c

def LetterCase.applySymbol (l : LetterCase) : Symbol → Symbol
  | .char c => .char (l.apply c)
  | s => s

/-- A text with its letters in a case, and its first one in one of its own.  Letters are changed up
to the first null character. -/
def changeLetters (letters first : LetterCase) (octets : List UInt8) : List UInt8 :=
  if letters = .kept && first = .kept then octets
  else
    let text := octets.takeWhile (· != 0)
    match Symbol.ofOctets text with
    | [] => octets
    | s :: rest =>
      let ofFirst := if first = .kept then letters else first
      Symbol.allOctets (ofFirst.applySymbol s :: rest.map letters.applySymbol) ++
        octets.drop text.length

/-- What is put in the place of a match.  A change of the first letter waits for a part that is not
empty. -/
def expand (whole : List UInt8) (way : Way) (waiting : LetterCase) :
    List ReplacementPart → List UInt8
  | [] => []
  | part :: rest =>
    let first := if part.first = .kept then waiting else part.first
    let text := changeLetters part.letters first part.text
    let first := if part.text.isEmpty then first else .kept
    match part.group with
    | none => text ++ expand whole way .kept rest
    | some n =>
      let taken := if n = 0 then whole else ((way.group? n).map (·.text)).getD []
      let waiting := if taken.isEmpty && part.first != .kept then first else .kept
      text ++ changeLetters part.letters first taken ++ expand whole way waiting rest

/-- Puts replacements in the place of matches; answers with the text and whether it was changed.
`after` tells that a match ended here, where an empty match does not count, and `count` is the
number of the next match.  After an empty match one octet is passed.  What is done is held last
octet first; the text has fewer than `fuel` octets. -/
def replaceFrom (s : Substitution) (r : MatchRules) (p : Pattern) :
    Nat → Nat → Bool → Bool → List UInt8 → Place → List UInt8 × Bool
  | 0, _, _, changed, done, place => (done.reverse ++ place.after, changed)
  | fuel + 1, count, after, changed, done, place =>
    match p.findFrom r (place.after.length + 1) place with
    | none => (done.reverse ++ place.after, changed)
    | some (start, way) =>
      let skipped := Place.since place start
      let whole := Place.since start way.place
      let counts := !(whole.isEmpty && after && skipped.isEmpty)
      let replaces := counts && s.first.getD 1 ≤ count
      let count := if counts then count + 1 else count
      let inserted := if replaces then expand whole way .kept s.parts else whole
      let done := inserted.reverse ++ (skipped.reverse ++ done)
      let changed := changed || replaces
      if replaces && !s.everywhere then (done.reverse ++ way.place.after, true)
      else if !whole.isEmpty then replaceFrom s r p fuel count true changed done way.place
      else
        match way.place.after with
        | [] => (done.reverse, changed)
        | b :: _ => replaceFrom s r p fuel count false changed (b :: done) (way.place.advance 1)

/-- A text with replacements in the place of matches, and whether it was changed. -/
def Substitution.replace (s : Substitution) (r : MatchRules) (p : Pattern) (text : List UInt8) :
    List UInt8 × Bool :=
  replaceFrom s r p (text.length + 2) 1 false false [] { after := text }

end Edit
end Formatter
end FlowDecl
