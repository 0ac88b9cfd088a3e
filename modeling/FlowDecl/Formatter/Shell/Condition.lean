import FlowDecl.Formatter.Shell.Arithmetic

/-!
# Conditions

Conditions compare texts and numbers and ask about files.  They are read from words; how a word is
read depends on the words after it.
-/

namespace FlowDecl
namespace Formatter
namespace Shell
namespace Condition

inductive Kind where
  | finish
  | operand
  | unary (letter : Char)
  | binary (text : String)
  | not
  | both
  | either
  | opening
  | closing
  deriving DecidableEq, Repr

/-- The letters of the operators before an operand. -/
def unaryLetters : List Char :=
  ['r', 'w', 'x', 'e', 'f', 'd', 'c', 'b', 'p', 'u', 'g', 'k', 's', 't', 'z', 'n', 'h', 'L', 'S',
    'O', 'G']

/-- The operators between two operands. -/
def binaryTexts : List String :=
  ["=", "!=", "<", ">", "-eq", "-ne", "-ge", "-gt", "-le", "-lt", "-nt", "-ot", "-ef"]

def operator? (word : List Char) : Option Kind :=
  match word with
  | ['!'] => some .not
  | ['('] => some .opening
  | [')'] => some .closing
  | ['-', 'a'] => some .both
  | ['-', 'o'] => some .either
  | ['-', c] => if unaryLetters.contains c then some (.unary c) else none
  | word =>
    let text := String.ofList word
    if binaryTexts.contains text then some (.binary text) else none

/-- Whether a word is an operator between two operands. -/
def isBinary (word : List Char) : Bool :=
  match operator? word with
  | some (.binary _) => true
  | _ => false

/-- What the first of some words is: the last word is an operand, and so is a word that stands
before an operator between two operands. -/
def kind : List (List Char) → Kind
  | [] => .finish
  | word :: rest =>
    match operator? word, rest with
    | some (.unary _), [] => .operand
    | some (.unary c), [_] => .unary c
    | some (.unary c), next :: _ => if isBinary next then .operand else .unary c
    | some .opening, [] => .operand
    | some k, _ => k
    | none, _ => .operand

/-- What becomes of a condition: its value, and the words from its last one on; or the words for a
fault. -/
abbrev Reading := Except (List Char) (Bool × List (List Char))

def wrong {α : Type} (operator : List Char) (words : String) : Except (List Char) α :=
  .error (if operator.isEmpty then words.toList else operator ++ [':', ' '] ++ words.toList)

def number (word : List Char) : Except (List Char) Int :=
  let cs := word.dropWhile Arithmetic.isSpace
  let (sign, digits) : Int × List Char :=
    match cs with
    | '-' :: rest => (-1, rest)
    | '+' :: rest => (1, rest)
    | cs => (1, cs)
  let rest := digits.dropWhile Char.isDigit
  if digits.head?.any Char.isDigit && rest.all Arithmetic.isSpace then
    .ok (Arithmetic.clamp (sign * Arithmetic.valueOf 10 (digits.takeWhile Char.isDigit)))
  else .error ("Illegal number: ".toList ++ word)

def compare (operator : String) (a b : List Char) : Except (List Char) Bool := do
  let numbers (f : Int → Int → Bool) : Except (List Char) Bool := do
    return f (← number a) (← number b)
  match operator with
  | "=" => return a == b
  | "!=" => return a != b
  | "<" => return decide (a < b)
  | ">" => return decide (b < a)
  | "-eq" => numbers fun x y => x == y
  | "-ne" => numbers fun x y => x != y
  | "-ge" => numbers fun x y => decide (y ≤ x)
  | "-gt" => numbers fun x y => decide (y < x)
  | "-le" => numbers fun x y => decide (x ≤ y)
  | "-lt" => numbers fun x y => decide (x < y)
  | _ => return false

/-- The value of an operator before an operand; `about` answers questions about files. -/
def ask (about : Char → List Char → Bool) (letter : Char) (word : List Char) :
    Except (List Char) Bool := do
  if letter = 'z' then return word.isEmpty
  else if letter = 'n' then return !word.isEmpty
  else if letter = 't' then
    let _ ← number word
    return false
  else return about letter word

mutual

/-- Reads conditions one of which has to hold. -/
def readEither (about : Char → List Char → Bool) : Nat → List (List Char) → Reading
  | 0, ws => .ok (false, ws)
  | fuel + 1, ws => do
    let (a, ws) ← readBoth about fuel ws
    if kind (ws.drop 1) = .either then
      let (b, ws) ← readEither about fuel (ws.drop 2)
      return (a || b, ws)
    else return (a, ws)

/-- Reads conditions that all have to hold. -/
def readBoth (about : Char → List Char → Bool) : Nat → List (List Char) → Reading
  | 0, ws => .ok (false, ws)
  | fuel + 1, ws => do
    let (a, ws) ← readNegated about fuel ws
    if kind (ws.drop 1) = .both then
      let (b, ws) ← readBoth about fuel (ws.drop 2)
      return (a && b, ws)
    else return (a, ws)

def readNegated (about : Char → List Char → Bool) : Nat → List (List Char) → Reading
  | 0, ws => .ok (false, ws)
  | fuel + 1, ws =>
    if kind ws = .not then
      if (ws.drop 1).isEmpty then .ok (true, ws)
      else (fun r => (!r.1, r.2)) <$> readNegated about fuel (ws.drop 1)
    else readPrimary about fuel ws

/-- Reads a condition without operators between conditions. -/
def readPrimary (about : Char → List Char → Bool) : Nat → List (List Char) → Reading
  | 0, ws => .ok (false, ws)
  | fuel + 1, ws =>
    match kind ws, ws with
    | .opening, _ :: rest =>
      if kind rest = .closing then .ok (false, rest)
      else do
        let (a, ws) ← readEither about fuel rest
        if kind (ws.drop 1) = .closing then return (a, ws.drop 1)
        else wrong [] "closing paren expected"
    | .unary c, word :: rest =>
      match rest with
      | [] => wrong word "argument expected"
      | operand :: _ => (fun b => (b, rest)) <$> ask about c operand
    | _, word :: rest =>
      match kind rest, rest with
      | .binary operator, _ :: after =>
        match after with
        | [] => wrong operator.toList "argument expected"
        | operand :: _ => (fun b => (b, after)) <$> compare operator word operand
      | _, _ => .ok (!word.isEmpty, ws)
    | _, [] => .ok (false, ws)

end

/-- The value of a condition of some words that is negated if `negated` is set. -/
def valueOf (about : Char → List Char → Bool) (negated : Bool) (ws : List (List Char)) :
    Except (List Char) Bool := do
  let (a, rest) ← readEither about (4 * ws.length + 4) ws
  match rest with
  | word :: _ :: _ => wrong word "unexpected operator"
  | _ => return a != negated

/-- The value of a condition: brackets around few words are dropped, and so is a negation before
them, in at most `fuel` steps. -/
def evaluateFrom (about : Char → List Char → Bool) :
    Nat → Bool → List (List Char) → Except (List Char) Bool
  | 0, negated, ws => valueOf about negated ws
  | fuel + 1, negated, ws =>
    let isShort := ws.length = 3 || ws.length = 4
    if ws.isEmpty then .ok false
    else if ws.length = 3 && isBinary (ws.getD 1 []) then
      (· != negated) <$> compare (String.ofList (ws.getD 1 [])) (ws.getD 0 []) (ws.getD 2 [])
    else if isShort && ws.head? = some ['('] && ws.getLast? = some [')'] then
      valueOf about negated (ws.drop 1).dropLast
    else if isShort && ws.head? = some ['!'] then evaluateFrom about fuel true (ws.drop 1)
    else valueOf about negated ws

def evaluate (about : Char → List Char → Bool) (ws : List (List Char)) :
    Except (List Char) Bool :=
  evaluateFrom about ws.length false ws

end Condition
end Shell
end Formatter
end FlowDecl
