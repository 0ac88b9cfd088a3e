import FlowDecl.Text.Pieces

/-!
# Words of a command

A command text is cut into words at blanks.  Single quotes keep everything up to the next single
quote; double quotes keep everything but a backslash before a double quote or a backslash; outside
of quotes a backslash keeps the next character.  A word may be empty if it is quoted.
-/

namespace FlowDecl
namespace CommandLine

/-- Why a command text has no words. -/
inductive WordFault where
  | openQuote
  | openEscape
  | empty
  deriving DecidableEq, Repr

def WordFault.message : WordFault → String
  | .openQuote => "No closing quotation"
  | .openEscape => "No escaped character"
  | .empty => "command is empty"

/-- Where the reading of words stands. -/
inductive WordMode where
  /-- Between two words. -/
  | between
  /-- In a word, outside of quotes. -/
  | bare
  | single
  | double
  /-- After a backslash, inside of double quotes or outside of quotes. -/
  | escape (inDouble : Bool)
  deriving DecidableEq, Repr

/-- Whether a character ends a word. -/
def isWordBlank (c : Char) : Bool :=
  c = ' ' || c = '\t' || c = '\r' || c = '\n'

/-- The mode after a character outside of quotes that opens something, if it does. -/
def WordMode.opened? (c : Char) : Option WordMode :=
  if c = '\'' then some .single
  else if c = '"' then some .double
  else if c = '\\' then some (.escape false)
  else none

/-- Reads words; `word` holds the characters of the current word, last first. -/
def readWords (mode : WordMode) (word : List Char) : List Char → Except WordFault (List String)
  | [] =>
    match mode with
    | .between => .ok []
    | .bare => .ok [String.ofList word.reverse]
    | .single => .error .openQuote
    | .double => .error .openQuote
    | .escape _ => .error .openEscape
  | c :: rest =>
    match mode with
    | .between =>
      if isWordBlank c then readWords .between [] rest
      else
        match WordMode.opened? c with
        | some mode => readWords mode [] rest
        | none => readWords .bare [c] rest
    | .bare =>
      if isWordBlank c then
        (String.ofList word.reverse :: ·) <$> readWords .between [] rest
      else
        match WordMode.opened? c with
        | some mode => readWords mode word rest
        | none => readWords .bare (c :: word) rest
    | .single => if c = '\'' then readWords .bare word rest else readWords .single (c :: word) rest
    | .double =>
      if c = '"' then readWords .bare word rest
      else if c = '\\' then readWords (.escape true) word rest
      else readWords .double (c :: word) rest
    | .escape false => readWords .bare (c :: word) rest
    | .escape true =>
      if c = '"' || c = '\\' then readWords .double (c :: word) rest
      else readWords .double (c :: '\\' :: word) rest

/-- The words of a command; there is at least one. -/
def splitCommand (text : String) : Except WordFault (List String) := do
  let words ← readWords .between [] text.toList
  if words.isEmpty then throw .empty else return words

end CommandLine
end FlowDecl
