import FlowDecl.Formatter.Shell.Syntax

/-!
# Tokens of scripts

The text of a script is read token by token.  How a word is read depends on where it stands: between
quotes, between braces, in an arithmetic expression or in a text of its own.
-/

namespace FlowDecl
namespace Formatter
namespace Shell

/-- The words that are no names of commands. -/
inductive Keyword where
  | negation
  | caseOf
  | doWord
  | doneWord
  | elifWord
  | elseWord
  | esacWord
  | fiWord
  | forWord
  | ifWord
  | inWord
  | thenWord
  | untilWord
  | whileWord
  | openBrace
  | closeBrace
  deriving DecidableEq, Repr

def Keyword.all : List (String × Keyword) :=
  [("!", .negation), ("case", .caseOf), ("do", .doWord), ("done", .doneWord), ("elif", .elifWord),
    ("else", .elseWord), ("esac", .esacWord), ("fi", .fiWord), ("for", .forWord), ("if", .ifWord),
    ("in", .inWord), ("then", .thenWord), ("until", .untilWord), ("while", .whileWord),
    ("\x7b", .openBrace), ("\x7d", .closeBrace)]

def Keyword.text (k : Keyword) : String :=
  ((all.find? fun e => e.2 = k).map (·.1)).getD ""

inductive Token where
  | finish
  | newline
  | semicolon
  | background
  | both
  | either
  | pipe
  | opening
  | closing
  | caseEnd
  | redirection (descriptor : Nat) (opening : Opening) (stripped : Bool)
  | word (word : Word)
  | keyword (k : Keyword)

namespace Token

/-- How messages show a token. -/
def shown : Token → String
  | .finish => "end of file"
  | .newline => "newline"
  | .semicolon => "\";\""
  | .background => "\"&\""
  | .both => "\"&&\""
  | .either => "\"||\""
  | .pipe => "\"|\""
  | .opening => "\"(\""
  | .closing => "\")\""
  | .caseEnd => "\";;\""
  | .redirection .. => "redirection"
  | .word _ => "word"
  | .keyword k => "\"" ++ k.text ++ "\""

def isKeyword (t : Token) (k : Keyword) : Bool :=
  match t with
  | .keyword l => l = k
  | _ => false

/-- Whether a list of commands ends before a token. -/
def endsList : Token → Bool
  | .finish => true
  | .closing => true
  | .caseEnd => true
  | .keyword k =>
    [Keyword.doWord, .doneWord, .elifWord, .elseWord, .esacWord, .fiWord, .thenWord,
      .closeBrace].contains k
  | _ => false

end Token

/-- Why a text is no script. -/
inductive SyntaxFault where
  | unexpected (token : String)
  | expected (token wanted : String)
  | openQuote
  | openBraces
  | openSum
  | openBackquote
  | loopName
  | functionName
  | descriptor
  deriving DecidableEq, Repr

def SyntaxFault.words : SyntaxFault → String
  | .unexpected token => token ++ " unexpected"
  | .expected token wanted => token ++ " unexpected (expecting " ++ wanted ++ ")"
  | .openQuote => "Unterminated quoted string"
  | .openBraces => "Missing '\x7d'"
  | .openSum => "Missing '))'"
  | .openBackquote => "EOF in backquote substitution"
  | .loopName => "Bad for loop variable"
  | .functionName => "Bad function name"
  | .descriptor => "Bad fd number"

/-- A text that a command waits for: its number, its last line, whether it is taken as it is, and
whether tabs before its lines are dropped. -/
structure Waiting where
  number : Nat
  mark : List Char
  exact : Bool
  stripped : Bool

/-- A name whose meaning stands in its place until the script is read beyond it. -/
structure Replaced where
  name : List Char
  /-- How much of the script is left beyond the meaning. -/
  left : Nat
  /-- The meaning ends with a blank, so that the word beyond it may have a meaning too. -/
  goesOn : Bool

/-- What is left of a script, and what is known from reading it so far. -/
structure Source where
  rest : List Char
  line : Nat := 1
  /-- The last token. -/
  last : Token := .newline
  /-- Whether the last token is to be read again. -/
  again : Bool := false
  /-- The last word. -/
  word : Word := []
  /-- Whether dollars and backquotes stand for themselves. -/
  literal : Bool := false
  /-- The last line of the text that is being read, and whether tabs are dropped. -/
  ending : Option (List Char × Bool) := none
  waiting : List Waiting := []
  /-- The texts that are read, by number. -/
  texts : List (Nat × Word) := []
  nextNumber : Nat := 0
  /-- The meanings of names. -/
  aliases : List (List Char × List Char) := []
  replaced : List Replaced := []

/-- Reads a part of a script.  A fault comes with its line. -/
abbrev Reading := StateT Source (Except (Nat × SyntaxFault))

namespace Reading

def fail {α : Type} (fault : SyntaxFault) : Reading α := do
  throw ((← get).line, fault)

/-- Fails because of the last token. -/
def refuse {α : Type} : Reading α := do
  fail (.unexpected (← get).last.shown)

/-- Fails because another token is wanted. -/
def want {α : Type} (wanted : Token) : Reading α := do
  fail (.expected (← get).last.shown wanted.shown)

/-- Whether the rest of a text begins with a line that is continued, and what follows. -/
def dropContinued : Nat → List Char → Nat → Nat × List Char
  | fuel + 1, '\\' :: '\n' :: rest, line => dropContinued fuel rest (line + 1)
  | _, cs, line => (line, cs)

/-- The next character; a backslash at the end of a line continues the line. -/
def peek : Reading (Option Char) := do
  let s ← get
  let (line, rest) := dropContinued s.rest.length s.rest s.line
  set { s with line, rest }
  return rest.head?

/-- Passes the next character as it is. -/
def takeRaw : Reading (Option Char) := do
  let s ← get
  match s.rest with
  | [] => return none
  | c :: rest =>
    set { s with rest, line := if c = '\n' then s.line + 1 else s.line }
    return some c

/-- Passes the next character. -/
def take : Reading (Option Char) := do
  let _ ← peek
  takeRaw

/-- Passes the next character if it is a certain one. -/
def takeIf (c : Char) : Reading Bool := do
  if (← peek) = some c then
    let _ ← takeRaw
    return true
  else return false

/-- Passes the next characters as long as they satisfy a test, in at most `fuel` steps. -/
def takeWhile (p : Char → Bool) : Nat → Reading (List Char)
  | 0 => return []
  | fuel + 1 => do
    match ← peek with
    | some c =>
      if p c then
        let _ ← takeRaw
        return c :: (← takeWhile p fuel)
      else return []
    | none => return []

/-- Passes up to a closing quote, as it is. -/
def takeQuoted : List Char → Nat → Option (List Char × List Char × Nat)
  | [], _ => none
  | '\'' :: rest, line => some ([], rest, line)
  | c :: rest, line =>
    (fun r => (c :: r.1, r.2)) <$> takeQuoted rest (if c = '\n' then line + 1 else line)

/-- Passes the last line of a text if it is next, and drops tabs before a line. -/
def atLineStart : Reading Bool := do
  let s ← get
  match s.ending with
  | none => return false
  | some (mark, stripped) =>
    let rest := if stripped then s.rest.dropWhile (· = '\t') else s.rest
    let line := rest.takeWhile (· != '\n')
    let after := rest.dropWhile (· != '\n')
    if line = mark then
      set { s with rest := after.drop 1, line := s.line + if after.isEmpty then 0 else 1 }
      return true
    else
      set { s with rest }
      return false

/-- The lines of a text up to its last line, in at most `fuel` lines. -/
def takeLines : Nat → Reading Word
  | 0 => return []
  | fuel + 1 => do
    if ← atLineStart then return []
    let s ← get
    match s.rest with
    | [] => return []
    | rest =>
      let line := rest.takeWhile (· != '\n')
      let after := rest.dropWhile (· != '\n')
      set { s with rest := after.drop 1, line := s.line + if after.isEmpty then 0 else 1 }
      return (line ++ after.take 1).map .quoted ++ (← takeLines fuel)

/-- The characters up to a closing backquote, in at most `fuel` steps; `inQuotes` tells that a
backslash also escapes a double quote. -/
def takeBackquoted (inQuotes : Bool) : Nat → Reading (List Char)
  | 0 => fail .openBackquote
  | fuel + 1 => do
    match ← peek with
    | none => fail .openBackquote
    | some c =>
      let _ ← takeRaw
      if c.toNat = 96 then return []
      else if c = '\\' then
        match ← takeRaw with
        | none => fail .openBackquote
        | some d =>
          let kept := d != '\\' && d.toNat != 96 && d != '$' && !(inQuotes && d = '"')
          return (if kept then ['\\', d] else [d]) ++ (← takeBackquoted inQuotes fuel)
      else return c :: (← takeBackquoted inQuotes fuel)

end Reading

/-- Where pieces of a word stand. -/
inductive Place where
  | word
  /-- Between the braces of a parameter, outside of quotes. -/
  | braces
  | quotes
  /-- Between the braces of a parameter in quotes. -/
  | quotedBraces
  /-- Between quotes in the braces of a parameter in quotes. -/
  | innerQuotes
  | sum
  | text
  /-- Between the braces of a parameter in a text. -/
  | textBraces
  deriving DecidableEq, Repr

namespace Place

/-- Whether characters stand for themselves at a place. -/
def isQuoted : Place → Bool
  | .word => false
  | .braces => false
  | .sum => false
  | _ => true

/-- Whether a backslash keeps its meaning only before some characters. -/
def isDouble (p : Place) : Bool :=
  p.isQuoted || p = .sum

/-- The place between the braces of a parameter. -/
def inBraces : Place → Place
  | .word => .braces
  | .braces => .braces
  | .text => .textBraces
  | .textBraces => .textBraces
  | _ => .quotedBraces

/-- The fault if a script ends at a place. -/
def openFault? : Place → Option SyntaxFault
  | .word => none
  | .text => none
  | .braces => some .openBraces
  | .textBraces => some .openBraces
  | .sum => some .openSum
  | _ => some .openQuote

/-- Whether a backslash escapes a character at a place. -/
def escapes (p : Place) (c : Char) : Bool :=
  if !p.isDouble then true
  else if c = '\\' || c.toNat = 96 || c = '$' then true
  else if c = '"' then p != .text
  else c = '\x7d' && (p = .quotedBraces || p = .textBraces)

end Place

def endsWord (c : Char) : Bool :=
  ['\n', ' ', '\t', ';', '&', '|', '(', ')', '<', '>'].contains c

/-- The parameters that are no names. -/
def isSpecial (c : Char) : Bool :=
  ['!', '#', '$', '*', '-', '?', '@'].contains c || c.isDigit

end Shell
end Formatter
end FlowDecl
