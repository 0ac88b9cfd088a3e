import FlowDecl.Formatter.Pattern
import FlowDecl.Formatter.Symbol

/-!
# Texts of patterns

A pattern is written in one of two ways.  In the basic way brackets and braces are marked by a
backslash, and so are the signs for alternatives and for one or more repetitions; in the extended
way they stand for themselves.

In a pattern that counts letters as capitals, all letters are made capitals but those after a
backslash and in the names of classes.
-/

namespace FlowDecl
namespace Formatter

/-- Why a text is no pattern. -/
inductive PatternFault where
  | badRepetition
  | badBounds
  | openBounds
  | openGroup
  | strayGroupEnd
  | badReference
  | badClassName
  | badCollation
  | badRange
  | openBracket
  | tooBig
  | trailingBackslash
  /-- Nothing follows an opening bracket. -/
  | bareBracket
  /-- The name of a class stands in one pair of brackets instead of two. -/
  | bareClassName
  deriving DecidableEq, Repr

/-- The words for a fault. -/
def PatternFault.words : PatternFault → String
  | .badRepetition => "Invalid preceding regular expression"
  | .badBounds => "Invalid content of \\\x7b\\\x7d"
  | .openBounds => "Unmatched \\\x7b"
  | .openGroup => "Unmatched ( or \\("
  | .strayGroupEnd => "Unmatched ) or \\)"
  | .badReference => "Invalid back reference"
  | .badClassName => "Invalid character class name"
  | .badCollation => "Invalid collation character"
  | .badRange => "Invalid range end"
  | .openBracket => "Unmatched [, [^, [:, [., or [="
  | .tooBig => "Regular expression too big"
  | .trailingBackslash => "Trailing backslash"
  | .bareBracket => "Invalid regular expression"
  | .bareClassName => "character class syntax is [[:space:]], not [:space:]"

namespace PatternText

/-- The rules by which a pattern is written. -/
structure Style where
  extended : Bool := false
  /-- Letters count as their capital forms. -/
  foldCase : Bool := false
  /-- Only what all writers of patterns agree on has a meaning; a closing bracket that closes
  nothing has none. -/
  plain : Bool := false
  /-- Line feeds are matched only by characters that are named. -/
  linewise : Bool := false

/-- A token of a pattern. -/
inductive Token where
  | char (c : Char)
  | octet (b : UInt8)
  | any
  | bracket
  | kind (negated : Bool) (k : CharKind)
  | star
  | plus
  | question
  | boundsStart
  | boundsEnd
  | groupStart
  | groupEnd
  | bar
  | caret
  | dollar
  /-- A place that is written with a backslash. -/
  | place (p : Pattern)
  | reference (n : Nat)
  | backslash
  | finish
  deriving DecidableEq, Repr

/-- The token of a character after a backslash. -/
def escapedToken (y : Style) (c : Char) : Token :=
  let special (t : Token) := if y.extended then .char c else t
  if y.plain && "|+?<>bBwWsS'\x60".toList.contains c then .char c else
  match c with
  | '|' => special .bar
  | '(' => special .groupStart
  | ')' => special .groupEnd
  | '\x7b' => special .boundsStart
  | '\x7d' => special .boundsEnd
  | '+' => special .plus
  | '?' => special .question
  | '<' => .place .wordStart
  | '>' => .place .wordEnd
  | 'b' => .place (.wordEdge false)
  | 'B' => .place (.wordEdge true)
  | '\x60' => .place .textStart
  | '\'' => .place .textEnd
  | 'w' => .kind false .word
  | 'W' => .kind true .word
  | 's' => .kind false .space
  | 'S' => .kind true .space
  | c => if '1' ≤ c && c ≤ '9' then .reference (c.toNat - 48) else .char c

def Style.counted (y : Style) (c : Char) : Char :=
  if y.foldCase then Text.capital c else c

/-- The first token of a text, and what follows it. -/
def nextToken (y : Style) : List Symbol → Token × List Symbol
  | [] => (.finish, [])
  | [.char '\\'] => (.backslash, [])
  | .char '\\' :: .char c :: rest => (escapedToken y c, rest)
  | .char '\\' :: .octet b :: rest => (.octet b, rest)
  | .octet b :: rest => (.octet b, rest)
  | .char c :: rest =>
    let special (t : Token) := if y.extended then t else .char c
    let token :=
      match c with
      | '.' => .any
      | '[' => .bracket
      | '*' => .star
      | '^' => .caret
      | '$' => .dollar
      | '|' => special .bar
      | '(' => special .groupStart
      | ')' => special .groupEnd
      | '\x7b' => special .boundsStart
      | '\x7d' => special .boundsEnd
      | '+' => special .plus
      | '?' => special .question
      | c => .char (y.counted c)
    (token, rest)

abbrev Reading := Except PatternFault

/-! ## Bracket expressions -/

/-- A member of a bracket expression: a character, an octet that is none, a character that counts
for others of its sort, or a kind. -/
inductive Member where
  | char (c : Char)
  | octet (b : UInt8)
  | sort (c : Char)
  | kind (k : CharKind)

/-- The most octets of a name in a bracket expression. -/
def longestName : Nat := 31

/-- The name up to a mark and a closing bracket, and what follows. -/
def readName (mark : Char) : List Symbol → Reading (List Symbol × List Symbol)
  | [] => .error .openBracket
  | s :: rest =>
    if s = .char mark && rest.head? = some (.char ']') then .ok ([], rest.drop 1)
    else (fun r => (s :: r.1, r.2)) <$> readName mark rest

/-- The kind of a name; capital and small letters are no kinds of their own where they count as the
same. -/
def kindOf (y : Style) (name : String) : Reading CharKind :=
  if y.foldCase && (name = "upper" || name = "lower") then .ok .letter
  else
    match CharKind.named.lookup name with
    | some k => .ok k
    | none => .error .badClassName

def nameChar (y : Style) : List Symbol → Reading Char
  | [.char c] => if c.toNat < 0x80 then .ok (y.counted c) else .error .badCollation
  | _ => .error .badCollation

/-- The first member of a bracket expression, and what follows. -/
def readMember (y : Style) : List Symbol → Reading (Member × List Symbol)
  | [] => .error .openBracket
  | .octet b :: rest => .ok (.octet b, rest)
  | .char '[' :: .char mark :: rest =>
    if mark != ':' && mark != '.' && mark != '=' then .ok (.char '[', .char mark :: rest)
    else do
      let (name, rest) ← readName mark rest
      if longestName < (Symbol.allOctets name).length then throw .openBracket
      if mark = ':' then
        let k ← kindOf y (Text.gather (Text.octetChars (Symbol.allOctets name)))
        return (.kind k, rest)
      else
        let c ← nameChar y name
        return (if mark = '.' then .char c else .sort c, rest)
  | .char c :: rest => .ok (.char (y.counted c), rest)

/-- The ranges that a single member stands for.  An octet that is no character matches nothing. -/
def Member.alone : Member → List (Char × Char)
  | .char c => [(c, c)]
  | .sort c => [(c, c)]
  | _ => []

/-- The number of a member by which ranges go: only characters of one octet have one. -/
def Member.edge : Member → Reading Char
  | .char c => if c.toNat < 0x80 then .ok c else .error .badCollation
  | .octet b => .ok (Char.ofNat b.toNat)
  | .sort _ => .error .badRange
  | .kind _ => .error .badRange

/-- What is read of a bracket expression. -/
structure Members where
  ranges : List (Char × Char) := []
  kinds : List CharKind := []
  /-- All members are single characters. -/
  single : Bool := true

/-- The members of a bracket expression up to its end, and what follows.  A hyphen that stands for
itself comes first or last. -/
def readMembers (y : Style) : Nat → Bool → List Symbol → Reading (Members × List Symbol)
  | 0, _, _ => .error .openBracket
  | _, _, [] => .error .openBracket
  | fuel + 1, isFirst, s :: rest => do
    if s = .char ']' && !isFirst then return ({}, rest)
    if s = .char '-' && !isFirst && rest.head? != some (.char ']') && !rest.isEmpty then
      throw .badRange
    let (member, rest) ← readMember y (s :: rest)
    let goOn (rest : List Symbol) : Reading (Members × List Symbol) := do
      let (m, rest) ← readMembers y fuel false rest
      return ({ m with ranges := member.alone ++ m.ranges }, rest)
    match member, rest with
    | .kind k, rest =>
      let (m, rest) ← readMembers y fuel false rest
      return ({ m with kinds := k :: m.kinds, single := false }, rest)
    | .sort _, rest =>
      let (m, rest) ← goOn rest
      return ({ m with single := false }, rest)
    | _, .char '-' :: .char ']' :: _ => goOn rest
    | _, .char '-' :: rest => do
      let (final, rest) ← readMember y rest
      if final matches .kind _ | .sort _ then throw .badRange
      let a ← member.edge
      let b ← final.edge
      if b < a then throw .badRange
      let (m, rest) ← readMembers y fuel false rest
      return ({ m with ranges := (a, b) :: m.ranges, single := false }, rest)
    | _, rest => goOn rest

/-- Whether the text of a bracket expression looks like the name of a class. -/
def looksLikeName (m : Members) (text : List Symbol) : Bool :=
  m.single && 2 < text.length && text.head? = some (.char ':') &&
    text.getLast? = some (.char ':') && text.any (· != .char ':')

/-- A bracket expression after its opening bracket, and what follows; `true` tells that it looks
like the name of a class. -/
def readBracket (y : Style) (text : List Symbol) : Reading (CharClass × List Symbol × Bool) := do
  let (negated, text) :=
    match text with
    | .char '^' :: rest => (true, rest)
    | text => (false, text)
  if text.isEmpty then throw .bareBracket
  let (m, rest) ← readMembers y (text.length + 1) true text
  let inside := text.take (text.length - rest.length - 1)
  let ranges := if negated && y.linewise then ('\n', '\n') :: m.ranges else m.ranges
  return (.within negated ranges m.kinds, rest, looksLikeName m inside)

/-! ## Repetitions -/

def mostRepetitions : Nat := 32767

/-- What a bound turned out to be, and the token that ended it. -/
inductive Bound where
  | missing
  | number (n : Nat)
  | malformed

/-- Reads a bound up to a comma or the end of the bounds, and answers with the token there. -/
def readBound (y : Style) : Nat → Bound → List Symbol → Bound × Token × List Symbol
  | 0, b, cs => (b, .finish, cs)
  | fuel + 1, b, cs =>
    match nextToken y cs with
    | (.finish, rest) => (.malformed, .finish, rest)
    | (.boundsEnd, rest) => (b, .boundsEnd, rest)
    | (.char ',', rest) => (b, .char ',', rest)
    | (.char c, rest) =>
      let b :=
        if !c.isDigit then .malformed
        else
          match b with
          | .missing => .number (c.toNat - 48)
          | .number n => .number (min (mostRepetitions + 1) (n * 10 + (c.toNat - 48)))
          | .malformed => .malformed
      readBound y fuel b rest
    | (_, rest) => readBound y fuel .malformed rest

/-- Reads bounds after their opening brace. -/
def readBounds (y : Style) (cs : List Symbol) :
    Reading ((Nat × Option Nat) × List Symbol) := do
  let refuse (t : Token) : Reading ((Nat × Option Nat) × List Symbol) :=
    throw (if t = .finish then .openBounds else .badBounds)
  let finish (least : Nat) (most : Option Nat) (t : Token) (rest : List Symbol) :
      Reading ((Nat × Option Nat) × List Symbol) := do
    if t != .boundsEnd || most.any (· < least) then throw .badBounds
    if mostRepetitions < most.getD least then throw .tooBig
    return ((least, most), rest)
  match readBound y (cs.length + 1) .missing cs with
  | (.malformed, t, _) => refuse t
  | (.missing, .char ',', rest) =>
    match readBound y (rest.length + 1) .missing rest with
    | (.number n, t, rest) => finish 0 (some n) t rest
    | (.missing, t, rest) => finish 0 none t rest
    | (.malformed, t, _) => refuse t
  | (.missing, _, _) => throw .badBounds
  | (.number n, .char ',', rest) =>
    match readBound y (rest.length + 1) .missing rest with
    | (.number k, t, rest) => finish n (some k) t rest
    | (.missing, t, rest) => finish n none t rest
    | (.malformed, t, _) => refuse t
  | (.number n, t, rest) => finish n (some n) t rest

/-- Where reading stands: what is left, how many groups were opened, which were closed, and whether
a bracket expression looked like the name of a class. -/
structure Cursor where
  rest : List Symbol
  opened : Nat := 0
  closed : List Nat := []
  bareName : Bool := false

/-- The first token at a place, and the place after it. -/
def Cursor.next (y : Style) (c : Cursor) : Token × Cursor :=
  let (t, rest) := nextToken y c.rest
  (t, { c with rest })

/-- Whether a dollar before some text is meant as the end of a line. -/
def endsHere (y : Style) (rest : List Symbol) : Bool :=
  y.extended || (nextToken y rest).1 matches .finish | .bar | .groupEnd

/-- Reads the repetitions after a part of a pattern.  In the basic way only some of them may follow
one another. -/
def readRepetitions (y : Style) : Nat → Pattern → Cursor → Reading (Pattern × Cursor)
  | 0, p, c => .ok (p, c)
  | fuel + 1, p, c =>
    let goOn (least : Nat) (most : Option Nat) (c : Cursor) : Reading (Pattern × Cursor) :=
      let (following, _) := c.next y
      if !y.extended && (following matches .star | .boundsStart) then .error .badRepetition
      else readRepetitions y fuel (if most = some 0 then .empty else .repeated least most p) c
    match c.next y with
    | (.star, c) => goOn 0 none c
    | (.plus, c) => goOn 1 none c
    | (.question, c) => goOn 0 (some 1) c
    | (.boundsStart, after) => do
      let ((least, most), rest) ← readBounds y after.rest
      goOn least most { c with rest }
    | _ => .ok (p, c)

/-! ## Patterns -/

mutual

/-- Reads alternatives; `inGroup` tells that a closing bracket ends them.  An alternative cannot
refer to the groups of another. -/
def readEither (y : Style) (inGroup : Bool) : Nat → Cursor → Reading (Pattern × Cursor)
  | 0, c => .ok (.empty, c)
  | fuel + 1, start => do
    let (first, c) ← readSequence y inGroup fuel true .empty start
    match c.next y with
    | (.bar, after) => do
      let (second, d) ← readEither y inGroup fuel { after with closed := start.closed }
      return (.either first second, { d with closed := c.closed ++ d.closed })
    | _ => return (first, c)

/-- Reads parts one after the other, after those that were read. -/
def readSequence (y : Style) (inGroup : Bool) :
    Nat → Bool → Pattern → Cursor → Reading (Pattern × Cursor)
  | 0, _, p, c => .ok (p, c)
  | fuel + 1, begins, p, c => do
    let (t, _) := c.next y
    if t = .finish || t = .bar || (t = .groupEnd && inGroup) then return (p, c)
    let (part, c) ← readPart y fuel begins c
    readSequence y inGroup fuel false (if p = .empty then part else .sequence p part) c

/-- Reads one part with its repetitions; a place is not repeated.  `begins` tells that a caret is
meant as the beginning of a line. -/
def readPart (y : Style) : Nat → Bool → Cursor → Reading (Pattern × Cursor)
  | 0, _, c => .ok (.empty, c)
  | fuel + 1, begins, c => do
    let repeatable (p : Pattern) (c : Cursor) : Reading (Pattern × Cursor) :=
      readRepetitions y (c.rest.length + 1) p c
    let literal (d : Char) := repeatable (.symbol (.exactly d))
    match c.next y with
    | (.char d, c) => literal d c
    | (.octet b, c) => repeatable (.octet b) c
    | (.any, c) => repeatable (.symbol (if y.linewise then .anyInLine else .any)) c
    | (.kind negated k, c) => repeatable (.symbol (.within negated [] [k])) c
    | (.bracket, after) => do
      let (cls, rest, bare) ← readBracket y after.rest
      repeatable (.symbol cls) { c with rest, bareName := c.bareName || bare }
    | (.reference n, c) =>
      if c.closed.contains n then repeatable (.reference n) c else throw .badReference
    | (.place p, c) => return (p, c)
    | (.caret, c) => if y.extended || begins then return (.lineStart, c) else literal '^' c
    | (.dollar, c) => if endsHere y c.rest then return (.lineEnd, c) else literal '$' c
    | (.groupStart, c) => do
      let number := c.opened + 1
      let (body, c) ← readEither y true fuel { c with opened := number }
      match c.next y with
      | (.groupEnd, c) => repeatable (.group number body) { c with closed := number :: c.closed }
      | _ => throw .openGroup
    | (.groupEnd, c) => if y.plain then literal ')' c else throw .strayGroupEnd
    | (.boundsStart, _) => throw .badRepetition
    | (.boundsEnd, c) => literal '\x7d' c
    | (.star, c) => if y.extended then throw .badRepetition else literal '*' c
    | (.plus, c) => if y.extended then throw .badRepetition else literal '+' c
    | (.question, c) => if y.extended then throw .badRepetition else literal '?' c
    | (.bar, c) => return (.empty, c)
    | (.backslash, _) => throw .trailingBackslash
    | (.finish, c) => return (.empty, c)

end

end PatternText

structure ReadPattern where
  pattern : Pattern
  /-- The number of its groups. -/
  groups : Nat
  /-- A bracket expression looks like the name of a class. -/
  bareName : Bool

/-- Reads a pattern. -/
def Pattern.ofSymbols (y : PatternText.Style) (text : List Symbol) :
    Except PatternFault ReadPattern := do
  let (pattern, c) ← PatternText.readEither y false (3 * text.length + 3) { rest := text }
  return { pattern, groups := c.opened, bareName := c.bareName }

end Formatter
end FlowDecl
