import FlowDecl.Text.Hex

/-!
# Arithmetic

Arithmetic expressions have the operators of integers of 64 bits, conditions and assignments.  A
text is read into an expression, which is then evaluated; the values of variables are texts.
-/

namespace FlowDecl
namespace Formatter
namespace Shell
namespace Arithmetic

/-- The operators between two operands. -/
inductive Operator where
  | times
  | divided
  | remainder
  | plus
  | minus
  | leftShift
  | rightShift
  | less
  | lessOrEqual
  | greater
  | greaterOrEqual
  | equal
  | different
  | bitAnd
  | bitXor
  | bitOr
  deriving DecidableEq, Repr

/-- How tightly an operator binds; smaller numbers bind tighter. -/
def Operator.level : Operator → Nat
  | .times | .divided | .remainder => 0
  | .plus | .minus => 1
  | .leftShift | .rightShift => 2
  | .less | .lessOrEqual | .greater | .greaterOrEqual => 3
  | .equal | .different => 4
  | .bitAnd => 5
  | .bitXor => 6
  | .bitOr => 7

/-- Why arithmetic fails. -/
inductive Fault where
  | noPrimary
  | noEnd
  | noBracket
  | noColon
  | zeroDivision
  /-- The value of a variable is no number. -/
  | badNumber (text : List Char)
  deriving DecidableEq, Repr

/-- An arithmetic expression, which may be faulty from some place on. -/
inductive Expression where
  | number (n : Int)
  | name (name : List Char)
  | negative (e : Expression)
  | negated (e : Expression)
  | inverted (e : Expression)
  | binary (op : Operator) (a b : Expression)
  | both (a b : Expression)
  | either (a b : Expression)
  | choice (test a b : Expression)
  /-- An assignment, which may put an operator between the old value and the new one. -/
  | assign (name : List Char) (op : Option Operator) (e : Expression)
  /-- What is read is no expression. -/
  | broken (fault : Fault)
  /-- An expression after which something is missing. -/
  | unfinished (e : Expression) (fault : Fault)
  deriving Repr, Inhabited

/-- The words for a fault in an expression. -/
def Fault.words : Fault → String
  | .noPrimary => "expecting primary"
  | .noEnd => "expecting EOF"
  | .noBracket => "expecting ')'"
  | .noColon => "expecting ':'"
  | .zeroDivision => "division by zero"
  | .badNumber _ => "Illegal number"

/-- The number of 64 bits that a number is taken for. -/
def wrap (n : Int) : Int :=
  Int.bmod n 18446744073709551616

/-- The nearest number of 64 bits. -/
def clamp (n : Int) : Int :=
  max (-9223372036854775808) (min 9223372036854775807 n)

def valueOf (base : Nat) (digits : List Char) : Nat :=
  digits.foldl (fun n c => n * base + (Text.hexValue? c).getD 0) 0

/-- The number that a text begins with, and what follows: with `0x` it is hexadecimal and with `0`
octal. -/
def readNumber : List Char → Nat × List Char
  | '0' :: x :: d :: rest =>
    let isHex (c : Char) := (Text.hexValue? c).isSome
    let isOctal (c : Char) := '0' ≤ c && c ≤ '7'
    if (x = 'x' || x = 'X') && isHex d then
      (valueOf 16 ((d :: rest).takeWhile isHex), (d :: rest).dropWhile isHex)
    else (valueOf 8 ((x :: d :: rest).takeWhile isOctal), (x :: d :: rest).dropWhile isOctal)
  | '0' :: d :: rest =>
    if '0' ≤ d && d ≤ '7' then (valueOf 8 [d], rest) else (0, d :: rest)
  | cs => (valueOf 10 (cs.takeWhile Char.isDigit), cs.dropWhile Char.isDigit)

def isSpace (c : Char) : Bool :=
  c = ' ' || (9 ≤ c.toNat && c.toNat ≤ 13)

def number? (text : List Char) : Option Int :=
  let cs := text.dropWhile isSpace
  let (sign, digits) : Int × List Char :=
    match cs with
    | '-' :: rest => (-1, rest)
    | '+' :: rest => (1, rest)
    | cs => (1, cs)
  if digits.head?.any Char.isDigit then
    let (n, rest) := readNumber digits
    if rest.all isSpace then some (clamp (sign * n)) else none
  else if cs.isEmpty then some 0
  else none

inductive Token where
  | number (n : Int)
  | name (name : List Char)
  | binary (op : Operator)
  | assign (op : Option Operator)
  | not
  | invert
  | both
  | either
  | question
  | colon
  | opening
  | closing
  /-- What is no token. -/
  | strange
  deriving DecidableEq, Repr

/-- The tokens that are signs, the longer ones first. -/
def signs : List (String × Token) :=
  [("<<=", .assign (some .leftShift)), (">>=", .assign (some .rightShift)),
    ("==", .binary .equal), ("!=", .binary .different), ("<=", .binary .lessOrEqual),
    (">=", .binary .greaterOrEqual), ("<<", .binary .leftShift), (">>", .binary .rightShift),
    ("&&", .both), ("||", .either), ("*=", .assign (some .times)),
    ("/=", .assign (some .divided)), ("%=", .assign (some .remainder)),
    ("+=", .assign (some .plus)), ("-=", .assign (some .minus)), ("&=", .assign (some .bitAnd)),
    ("^=", .assign (some .bitXor)), ("|=", .assign (some .bitOr)), ("=", .assign none),
    ("*", .binary .times), ("/", .binary .divided), ("%", .binary .remainder),
    ("+", .binary .plus), ("-", .binary .minus), ("<", .binary .less), (">", .binary .greater),
    ("&", .binary .bitAnd), ("^", .binary .bitXor), ("|", .binary .bitOr), ("!", .not),
    ("~", .invert), ("?", .question), (":", .colon), ("(", .opening), (")", .closing)]

/-- The tokens of at most `fuel` characters; nothing is read after what is no token. -/
def tokens : Nat → List Char → List Token
  | 0, _ => []
  | _, [] => []
  | fuel + 1, c :: rest =>
    if c = ' ' || c = '\t' || c = '\n' then tokens fuel rest
    else if c.isDigit then
      let (n, rest) := readNumber (c :: rest)
      .number (clamp n) :: tokens fuel rest
    else if c.isAlpha || c = '_' then
      let inName (c : Char) := c.isAlphanum || c = '_'
      .name ((c :: rest).takeWhile inName) :: tokens fuel (rest.dropWhile inName)
    else
      match signs.find? fun s => s.1.toList.isPrefixOf (c :: rest) with
      | some (text, token) => token :: tokens fuel ((c :: rest).drop text.length)
      | none => [.strange]

/-- An expression that was read, and what follows it; nothing is left after a fault. -/
abbrev Reading := Expression × List Token

/-- An expression that is made of another one. -/
def Reading.map (f : Expression → Expression) (r : Reading) : Reading :=
  (f r.1, r.2)

mutual

def readPrimary : Nat → List Token → Reading
  | 0, _ => (.broken .noPrimary, [])
  | fuel + 1, ts =>
    match ts with
    | .number n :: rest => (.number n, rest)
    | .name name :: rest => (.name name, rest)
    | .binary .plus :: rest => readPrimary fuel rest
    | .binary .minus :: rest => (readPrimary fuel rest).map .negative
    | .not :: rest => (readPrimary fuel rest).map .negated
    | .invert :: rest => (readPrimary fuel rest).map .inverted
    | .opening :: rest =>
      match readAssignment fuel rest with
      | (e, .closing :: rest) => (e, rest)
      | (e, _) => (.unfinished e .noBracket, [])
    | _ => (.broken .noPrimary, [])

/-- Reads operators that bind at least as tightly as a level, after an operand. -/
def readBinary : Nat → Nat → Expression → List Token → Reading
  | 0, _, a, ts => (a, ts)
  | fuel + 1, level, a, ts =>
    match ts with
    | .binary op :: rest =>
      if op.level ≤ level then
        let (b, rest) := readPrimary fuel rest
        let (b, rest) := if op.level = 0 then (b, rest) else readBinary fuel (op.level - 1) b rest
        readBinary fuel level (.binary op a b) rest
      else (a, ts)
    | _ => (a, ts)

/-- Reads operands that both have to be true. -/
def readBoth : Nat → List Token → Reading
  | 0, _ => (.broken .noPrimary, [])
  | fuel + 1, ts =>
    let (a, rest) := readPrimary fuel ts
    let (a, rest) := readBinary fuel 7 a rest
    match rest with
    | .both :: rest => (readBoth fuel rest).map (.both a)
    | rest => (a, rest)

/-- Reads operands one of which has to be true. -/
def readEither : Nat → List Token → Reading
  | 0, _ => (.broken .noPrimary, [])
  | fuel + 1, ts =>
    let (a, rest) := readBoth fuel ts
    match rest with
    | .either :: rest => (readEither fuel rest).map (.either a)
    | rest => (a, rest)

def readChoice : Nat → List Token → Reading
  | 0, _ => (.broken .noPrimary, [])
  | fuel + 1, ts =>
    let (test, rest) := readEither fuel ts
    match rest with
    | .question :: rest =>
      match readAssignment fuel rest with
      | (a, .colon :: rest) => (readChoice fuel rest).map (.choice test a)
      | (a, _) => (.choice test (.unfinished a .noColon) (.broken .noColon), [])
    | rest => (test, rest)

def readAssignment : Nat → List Token → Reading
  | 0, _ => (.broken .noPrimary, [])
  | fuel + 1, ts =>
    match ts with
    | .name name :: .assign op :: rest => (readAssignment fuel rest).map (.assign name op)
    | ts => readChoice fuel ts

end

def Expression.ofChars (cs : List Char) : Expression :=
  let ts := tokens cs.length cs
  match readAssignment (6 * ts.length + 6) ts with
  | (e, []) => e
  | (e, _) => .unfinished e .noEnd

/-- The first fault of an expression that is not evaluated. -/
def Expression.fault? : Expression → Option Fault
  | .number _ | .name _ => none
  | .negative e | .negated e | .inverted e | .assign _ _ e => e.fault?
  | .binary _ a b | .both a b | .either a b => a.fault? <|> b.fault?
  | .choice test a b => test.fault? <|> a.fault? <|> b.fault?
  | .broken fault => some fault
  | .unfinished e fault => e.fault? <|> some fault

/-- Passes over an expression that is not evaluated. -/
def Expression.skip (e : Expression) : Except Fault Unit :=
  match e.fault? with
  | some fault => .error fault
  | none => .ok ()

/-- The number for a truth value. -/
def ofBool (b : Bool) : Int :=
  if b then 1 else 0

def bits (n : Int) : BitVec 64 :=
  BitVec.ofInt 64 n

def Operator.apply (op : Operator) (a b : Int) : Except Fault Int :=
  match op with
  | .times => .ok (wrap (a * b))
  | .divided => if b = 0 then .error .zeroDivision else .ok (wrap (Int.tdiv a b))
  | .remainder => if b = 0 then .error .zeroDivision else .ok (Int.tmod a b)
  | .plus => .ok (wrap (a + b))
  | .minus => .ok (wrap (a - b))
  | .leftShift => .ok ((bits a).shiftLeft ((bits b).toNat % 64)).toInt
  | .rightShift => .ok ((bits a).sshiftRight ((bits b).toNat % 64)).toInt
  | .less => .ok (ofBool (a < b))
  | .lessOrEqual => .ok (ofBool (a ≤ b))
  | .greater => .ok (ofBool (b < a))
  | .greaterOrEqual => .ok (ofBool (b ≤ a))
  | .equal => .ok (ofBool (a = b))
  | .different => .ok (ofBool (a != b))
  | .bitAnd => .ok (bits a &&& bits b).toInt
  | .bitXor => .ok (bits a ^^^ bits b).toInt
  | .bitOr => .ok (bits a ||| bits b).toInt

/-- The values of variables: those that were given, and those that were assigned since. -/
structure Values where
  given : List Char → Option (List Char)
  assigned : List (List Char × Int) := []

/-- The number that a variable stands for; one that is not set is zero. -/
def Values.number (v : Values) (name : List Char) : Except Fault Int :=
  match v.assigned.lookup name with
  | some n => .ok n
  | none =>
    let text := (v.given name).getD []
    match number? text with
    | some n => .ok n
    | none => .error (.badNumber text)

def Expression.evaluate : Expression → Values → Except Fault (Int × Values)
  | .number n, v => .ok (n, v)
  | .name text, v => (fun n => (n, v)) <$> v.number text
  | .negative e, v => (fun r => (wrap (-r.1), r.2)) <$> e.evaluate v
  | .negated e, v => (fun r => (ofBool (r.1 = 0), r.2)) <$> e.evaluate v
  | .inverted e, v => (fun r => (-r.1 - 1, r.2)) <$> e.evaluate v
  | .binary op a b, v => do
    let (x, v) ← a.evaluate v
    let (y, v) ← b.evaluate v
    return (← op.apply x y, v)
  | .both a b, v => do
    let (x, v) ← a.evaluate v
    if x = 0 then
      b.skip
      return (0, v)
    else
      let (y, v) ← b.evaluate v
      return (ofBool (y != 0), v)
  | .either a b, v => do
    let (x, v) ← a.evaluate v
    if x != 0 then
      b.skip
      return (1, v)
    else
      let (y, v) ← b.evaluate v
      return (ofBool (y != 0), v)
  | .choice test a b, v => do
    let (x, v) ← test.evaluate v
    if x != 0 then
      let r ← a.evaluate v
      b.skip
      return r
    else
      a.skip
      b.evaluate v
  | .broken fault, _ => .error fault
  | .unfinished e fault, v => do
    let _ ← e.evaluate v
    throw fault
  | .assign target op e, v => do
    let (y, v) ← e.evaluate v
    let z ←
      match op with
      | none => pure y
      | some op => do op.apply (← v.number target) y
    return (z, { v with assigned := (target, z) :: v.assigned })

end Arithmetic
end Shell
end Formatter
end FlowDecl
