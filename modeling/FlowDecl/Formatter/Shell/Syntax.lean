/-!
# Scripts

A script is a list of commands.  The words of a command are lists of pieces: characters, and what is
put in their place when the command runs.  All texts are worked on octet by octet, so that each
character stands for one octet.
-/

namespace FlowDecl
namespace Formatter
namespace Shell

inductive Opening where
  | read
  | write
  /-- Writes even over a file that is protected. -/
  | overwrite
  | append
  | readWrite
  /-- The target is another descriptor, or a hyphen for none; whether it is one for reading. -/
  | copy (reading : Bool)
  /-- The target is a text of the script, by number. -/
  | text (number : Nat)
  deriving DecidableEq, Repr

/-- What a test of a parameter finds wanting: only that it is not set, or also that it is empty. -/
inductive Wanting where
  | unset
  | unsetOrEmpty
  deriving DecidableEq, Repr

mutual

inductive Piece where
  | plain (c : Char)
  /-- A character that stands for itself. -/
  | quoted (c : Char)
  /-- A quotation mark: a word with one counts even if it is empty. -/
  | mark
  | parameter (name : List Char) (use : Use) (inQuotes : Bool)
  /-- What a script writes. -/
  | output (script : List Command) (inQuotes : Bool)
  /-- The value of an arithmetic expression. -/
  | value (expression : List Piece) (inQuotes : Bool)

/-- What is made of the value of a parameter. -/
inductive Use where
  | value
  | length
  /-- A word in place of a wanting value. -/
  | default (w : Wanting) (word : List Piece)
  /-- As `default`, and the parameter is set to the word. -/
  | assign (w : Wanting) (word : List Piece)
  /-- The script ends with a message if the value is wanting. -/
  | require (w : Wanting) (word : List Piece)
  /-- A word unless the value is wanting. -/
  | alternative (w : Wanting) (word : List Piece)
  /-- The value without what a pattern matches at one of its ends. -/
  | trim (atEnd longest : Bool) (pattern : List Piece)
  /-- No use at all. -/
  | wrong

/-- A change of the descriptors of a command. -/
inductive Redirection where
  | mk (descriptor : Nat) (opening : Opening) (target : List Piece)

/-- A command.  A line is the number of the line where the command begins. -/
inductive Command where
  | simple (line : Nat) (assignments : List (List Char × List Piece)) (words : List (List Piece))
      (redirections : List Redirection)
  | redirected (line : Nat) (command : Command) (redirections : List Redirection)
  /-- Commands that read what the ones before them write. -/
  | pipe (commands : List Command)
  /-- Ends by itself without ending the script around it. -/
  | inner (line : Nat) (script : List Command) (redirections : List Redirection)
  /-- Runs beside the script. -/
  | beside (command : Command)
  | negated (command : Command)
  /-- The second only if the first succeeds. -/
  | both (first second : Command)
  /-- The second only if the first fails. -/
  | either (first second : Command)
  | group (script : List Command)
  | choice (test script otherwise : List Command)
  /-- A script as long as the status of a test is zero, or as long as it is not. -/
  | loop (succeeds : Bool) (test script : List Command)
  | each (line : Nat) (name : List Char) (words : List (List Piece)) (script : List Command)
  | select (line : Nat) (word : List Piece) (cases : List (List (List Piece) × List Command))
  | define (name : List Char) (body : Command)

end

instance : Inhabited Piece := ⟨.mark⟩
instance : Inhabited Command := ⟨.group []⟩

/-- A word. -/
abbrev Word := List Piece

abbrev Script := List Command

def wordOf (text : String) : Word :=
  text.toList.map .plain

/-- Whether a piece shows that a word is quoted. -/
def Piece.isQuoting : Piece → Bool
  | .quoted _ => true
  | .mark => true
  | _ => false

/-- A command as the last one of a process: what ends by itself may then end the process. -/
def Command.last : Command → Command
  | .inner _ script [] => .group script
  | .inner line script redirections => .redirected line (.group script) redirections
  | c => c

def beginsName (c : Char) : Bool :=
  c.isAlpha || c = '_'

def isInName (c : Char) : Bool :=
  beginsName c || c.isDigit

def isName (cs : List Char) : Bool :=
  cs.head?.any beginsName && cs.all isInName

/-- Splits a word after a name that is followed by an equals sign; `name` is read already, last
character first. -/
def splitAssignment (name : List Char) : Word → Option (List Char × Word)
  | .plain c :: rest =>
    if c = '=' then if isName name.reverse then some (name.reverse, rest) else none
    else if isInName c then splitAssignment (c :: name) rest
    else none
  | _ => none

def assignment? (word : Word) : Option (List Char × Word) :=
  splitAssignment [] word

end Shell
end Formatter
end FlowDecl
