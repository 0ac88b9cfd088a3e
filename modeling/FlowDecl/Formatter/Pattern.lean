import FlowDecl.Text.Hex
import FlowDecl.Text.Letters
import FlowDecl.Text.Octets

/-!
# Line patterns

The patterns by which lines are searched and edited.  A pattern is matched at the first place where
it can be matched, and there it takes as much as it can.  Where several matches are equally long,
repetitions that come first take as much as they can, and alternatives that come first are
preferred; this decides what the groups of the pattern have taken.

A match is looked for by following all ways through the pattern at once.  Ways that have come to the
same place are one way from there on, unless the pattern refers to what its groups have taken.
-/

namespace FlowDecl
namespace Formatter

/-- The kinds of characters that have a name. -/
inductive CharKind where
  | letter
  | capital
  | small
  | digit
  | letterOrDigit
  | space
  | blank
  | printed
  | visible
  | punctuation
  | control
  | hexDigit
  /-- What words are made of: letters, digits and underscores. -/
  | word
  deriving DecidableEq, Repr

namespace CharKind

/-- The kinds by name. -/
def named : List (String × CharKind) :=
  [("alpha", .letter), ("upper", .capital), ("lower", .small), ("digit", .digit),
    ("alnum", .letterOrDigit), ("space", .space), ("blank", .blank), ("print", .printed),
    ("graph", .visible), ("punct", .punctuation), ("cntrl", .control), ("xdigit", .hexDigit)]

def accepts : CharKind → Char → Bool
  | .letter, c => Text.isLetter c && !c.isDigit
  | .capital, c => Text.isCapital c
  | .small, c => Text.isSmall c
  | .digit, c => c.isDigit
  | .letterOrDigit, c => Text.isLetter c
  | .space, c => Text.isSpace c
  | .blank, c => c = '\t' || (Text.isSpace c && Text.hasGlyph c)
  | .printed, c => Text.hasGlyph c
  | .visible, c => Text.hasGlyph c && !Text.isSpace c
  | .punctuation, c => Text.hasGlyph c && !Text.isSpace c && !Text.isLetter c
  | .control, c => c.toNat < 0x20 || (0x7f ≤ c.toNat && c.toNat < 0xa0) ||
    c.toNat = 0x2028 || c.toNat = 0x2029
  | .hexDigit, c => (Text.hexValue? c).isSome
  | .word, c => c = '_' || Text.isLetter c

end CharKind

inductive CharClass where
  | any
  /-- All characters but the line feed. -/
  | anyInLine
  | exactly (c : Char)
  | within (negated : Bool) (ranges : List (Char × Char)) (kinds : List CharKind)
  deriving DecidableEq, Repr

/-- Whether a character is in a class. -/
def CharClass.accepts : CharClass → Char → Bool
  | .any, _ => true
  | .anyInLine, c => c != '\n'
  | .exactly d, c => c = d
  | .within negated ranges kinds, c =>
    negated != (ranges.any (fun r => r.1 ≤ c && c ≤ r.2) || kinds.any fun kind => kind.accepts c)

/-- Whether a class is of single characters of one octet each, or of all characters. -/
def CharClass.isPlain : CharClass → Bool
  | .any => true
  | .anyInLine => true
  | .exactly _ => true
  | .within negated ranges kinds =>
    !negated && kinds.isEmpty && ranges.all fun r => r.1 = r.2 && r.1.toNat < 0x80

inductive Pattern where
  | empty
  | symbol (cls : CharClass)
  /-- An octet that is no character. -/
  | octet (b : UInt8)
  | lineStart
  | lineEnd
  | textStart
  | textEnd
  /-- The edge of a word, or a place that is none. -/
  | wordEdge (negated : Bool)
  | wordStart
  | wordEnd
  | sequence (first second : Pattern)
  | either (first second : Pattern)
  | group (number : Nat) (body : Pattern)
  /-- What a group has taken. -/
  | reference (number : Nat)
  | repeated (least : Nat) (most : Option Nat) (body : Pattern)
  deriving DecidableEq, Repr, Inhabited

/-- How a pattern is matched. -/
structure Manner where
  /-- Letters count as their capital forms. -/
  foldCase : Bool := false
  /-- The beginning and the end of a line are found at line ends too. -/
  multiline : Bool := false
  deriving DecidableEq, Repr

/-- A place in a text. -/
structure Place where
  index : Nat := 0
  /-- What comes before the place, last first. -/
  before : List UInt8 := []
  after : List UInt8

namespace Place

/-- The place after some octets. -/
def advance (p : Place) : Nat → Place
  | 0 => p
  | n + 1 =>
    match p.after with
    | [] => p
    | b :: rest => advance { index := p.index + 1, before := b :: p.before, after := rest } n

/-- The character after the place, and the place after it. -/
def next? (p : Place) : Option (Char × Place) :=
  match Text.firstChar? p.after with
  | some (c, rest) => some (c, p.advance (p.after.length - rest.length))
  | none => none

/-- What stands between an earlier place and a place. -/
def since (start p : Place) : List UInt8 :=
  start.after.take (p.index - start.index)

/-- The number of octets of the character that the place is inside of, before the place. -/
def inside? (p : Place) : Option Nat :=
  [1, 2, 3].find? fun n =>
    n ≤ p.before.length &&
      match Text.firstChar? ((p.before.take n).reverse ++ p.after.take 3) with
      | some (_, rest) => rest.length < (p.after.take 3).length
      | none => false

/-- The character before the place; an octet that is part of none counts as the one of its
number. -/
def charBefore? (p : Place) : Option Char :=
  match p.before with
  | [] => none
  | b :: _ =>
    let whole := [1, 2, 3, 4].findSome? fun n =>
      match Text.firstChar? (p.before.take n).reverse with
      | some (c, []) => if n ≤ p.before.length then some c else none
      | _ => none
    some (whole.getD (Char.ofNat b.toNat))

/-- The character after the place; an octet that is part of none counts as the one of its number. -/
def charAfter? (p : Place) : Option Char :=
  match p.after, Text.firstChar? p.after with
  | [], _ => none
  | _, some (c, _) => some c
  | b :: _, none => some (Char.ofNat b.toNat)

/-- Whether the character before the place belongs to a word. -/
def wordBefore (p : Place) : Bool :=
  p.charBefore?.any CharKind.word.accepts

/-- Whether the character after the place belongs to a word. -/
def wordAfter (p : Place) : Bool :=
  p.charAfter?.any CharKind.word.accepts

/-- Whether a line begins at a place; `lineEnd` is what lines end with. -/
def atLineStart (m : Manner) (lineEnd : UInt8) (p : Place) : Bool :=
  p.before.isEmpty || (m.multiline && p.before.head? = some lineEnd)

def atLineEnd (m : Manner) (lineEnd : UInt8) (p : Place) : Bool :=
  p.after.isEmpty || (m.multiline && p.after.head? = some lineEnd)

end Place

/-- What a group has taken, and where it begins. -/
structure Taken where
  number : Nat
  start : Nat
  text : List UInt8

/-- A way that has come to a place, and what the groups have taken on it. -/
structure Way where
  place : Place
  groups : List Taken := []

/-- What a group has taken on a way. -/
def Way.group? (w : Way) (number : Nat) : Option Taken :=
  w.groups.find? fun g => g.number = number

/-- How a search is made: the manner, what lines end with, and whether ways that have come to the
same place are one. -/
structure MatchRules where
  manner : Manner := {}
  lineEnd : UInt8 := 10
  merged : Bool := true

namespace Pattern

/-- Whether a character is in a class; the class of a pattern that counts letters as capitals is
made of capitals. -/
def accepts (r : MatchRules) (cls : CharClass) (c : Char) : Bool :=
  cls.accepts (if r.manner.foldCase then Text.capital c else c)

/-- The octets of a text with its letters made capitals. -/
def folded (octets : List UInt8) : List Char :=
  (Text.gather (Text.octetChars octets)).toList.map Text.capital

/-- Whether two texts count as the same. -/
def same (r : MatchRules) (a b : List UInt8) : Bool :=
  a == b || (r.manner.foldCase && folded a == folded b)

/-- Whether a pattern refers to its groups. -/
def hasReference : Pattern → Bool
  | .reference _ => true
  | .sequence a b => hasReference a || hasReference b
  | .either a b => hasReference a || hasReference b
  | .group _ body => hasReference body
  | .repeated _ _ body => hasReference body
  | _ => false

/-- Whether a pattern can be matched octet by octet: it asks for no words and no sets of
characters. -/
def isOctetwise : Pattern → Bool
  | .symbol cls => cls.isPlain
  | .wordEdge _ => false
  | .wordStart => false
  | .wordEnd => false
  | .sequence a b => isOctetwise a && isOctetwise b
  | .either a b => isOctetwise a && isOctetwise b
  | .group _ body => isOctetwise body
  | .repeated _ _ body => isOctetwise body
  | _ => true

/-- The ways without those that come to a place where an earlier one has come; `seen` has a bit for
each of these places. -/
def distinct (seen : Nat) : List Way → List Way
  | [] => []
  | w :: rest =>
    if seen.testBit w.place.index then distinct seen rest
    else w :: distinct (seen ||| (1 <<< w.place.index)) rest

/-- A repetition to go on with, or a way to answer with. -/
inductive Task where
  /-- A way on which the pattern has been matched a number of times. -/
  | visit (count : Nat) (way : Way)
  | answer (way : Way)

/-- Follows the repetitions of a step in at most `fuel` tasks.  A way is followed only once from
each place with each number of repetitions, and not at all if a repetition has taken nothing. -/
def follow (step : Way → List Way) (least : Nat) (most : Option Nat) (merged : Bool) :
    Nat → List (Nat × Nat) → List Task → List Way
  | 0, _, _ => []
  | _, _, [] => []
  | fuel + 1, seen, .answer w :: rest => w :: follow step least most merged fuel seen rest
  | fuel + 1, seen, .visit count w :: rest =>
    let mark := (count, w.place.index)
    if merged && seen.contains mark then follow step least most merged fuel seen rest
    else
      let count' := if most.isNone then min (count + 1) (max least 1) else count + 1
      let mayGoOn := most.all fun n => count < n
      let further := if mayGoOn then step w else []
      let further :=
        if count < least then further
        else further.filter fun v => v.place.index != w.place.index
      let tasks := further.map (Task.visit count')
      let own := if least ≤ count then [Task.answer w] else []
      follow step least most merged fuel (if merged then mark :: seen else seen)
        (tasks ++ own ++ rest)

/-- The places after each of the characters of a class, of which there are at most `most`; the first
one is the place itself. -/
def classPlaces (r : MatchRules) (cls : CharClass) : Nat → Place → List Place
  | 0, p => [p]
  | most + 1, p =>
    match p.next? with
    | some (c, q) => if accepts r cls c then p :: classPlaces r cls most q else [p]
    | none => [p]

/-- The ways through a repeated class, the longest first. -/
def followClass (r : MatchRules) (cls : CharClass) (least : Nat) (most : Option Nat) (w : Way) :
    List Way :=
  let places := classPlaces r cls (most.getD w.place.after.length) w.place
  (places.drop least).reverse.map fun place => { w with place }

/-- The ways on which a pattern leads on, in the order in which they are preferred. -/
def ways (r : MatchRules) : Pattern → Way → List Way
  | .empty, w => [w]
  | .symbol cls, w =>
    match w.place.next? with
    | some (c, place) => if accepts r cls c then [{ w with place }] else []
    | none => []
  | .octet b, w => if w.place.after.head? = some b then [{ w with place := w.place.advance 1 }] else []
  | .lineStart, w => if w.place.atLineStart r.manner r.lineEnd then [w] else []
  | .lineEnd, w => if w.place.atLineEnd r.manner r.lineEnd then [w] else []
  | .textStart, w => if w.place.before.isEmpty then [w] else []
  | .textEnd, w => if w.place.after.isEmpty then [w] else []
  | .wordEdge negated, w =>
    if negated != (w.place.wordBefore != w.place.wordAfter) then [w] else []
  | .wordStart, w => if !w.place.wordBefore && w.place.wordAfter then [w] else []
  | .wordEnd, w => if w.place.wordBefore && !w.place.wordAfter then [w] else []
  | .sequence a b, w =>
    let all := (ways r a w).flatMap (ways r b)
    if r.merged then distinct 0 all else all
  | .either a b, w =>
    let all := ways r a w ++ ways r b w
    if r.merged then distinct 0 all else all
  | .group n body, w =>
    (ways r body w).map fun v =>
      let taken : Taken := ⟨n, w.place.index, Place.since w.place v.place⟩
      { v with groups := taken :: v.groups.filter fun g => g.number != n }
  | .reference n, w =>
    match w.group? n with
    | none => []
    | some ⟨_, _, text⟩ =>
      let ahead := w.place.after.take text.length
      if ahead.length = text.length && same r ahead text then
        [{ w with place := w.place.advance text.length }]
      else []
  | .repeated least most (.symbol cls), w => followClass r cls least most w
  | .repeated least most body, w =>
    let n := w.place.after.length + most.getD least + 2
    follow (ways r body) least most r.merged (n * n * n) [] [.visit 0 w]

/-- The match of a pattern at a place: where it ends and what the groups have taken. -/
def matchAt (r : MatchRules) (p : Pattern) (place : Place) : Option Way :=
  (ways { r with merged := !p.hasReference } p { place }).foldl (fun best w =>
    match best with
    | none => some w
    | some b => if b.place.index < w.place.index then some w else best) none

/-- The first match of a pattern from a place on: where it begins, where it ends and what the groups
have taken.  There are at most `fuel` places to look at; a place inside of a character counts only
if the pattern is matched octet by octet. -/
def findFrom (r : MatchRules) (p : Pattern) : Nat → Place → Option (Place × Way)
  | 0, _ => none
  | fuel + 1, place =>
    let counts := (!r.manner.foldCase && p.isOctetwise) || place.inside?.isNone
    match (if counts then p.matchAt r place else none) with
    | some w => some (place, w)
    | none => if place.after.isEmpty then none else findFrom r p fuel (place.advance 1)

/-- Whether a pattern matches somewhere in a text. -/
def occursIn (r : MatchRules) (p : Pattern) (text : List UInt8) : Bool :=
  (p.findFrom r (text.length + 1) { after := text }).isSome

end Pattern
end Formatter
end FlowDecl
