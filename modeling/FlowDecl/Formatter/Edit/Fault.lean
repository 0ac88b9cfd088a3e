import FlowDecl.Text.Utf8

/-!
# Faults of edit scripts

Why a script for line editing cannot be read or cannot go on, and where that shows.  The words are
octets, because a script may have octets that are no text.
-/

namespace FlowDecl
namespace Formatter
namespace Edit

/-- Why a script cannot be read or cannot go on. -/
inductive Fault where
  | unknownCommand (octet : UInt8)
  | missingCommand
  | missingText
  | incomplete
  | openSubstitution
  | openExchange
  | openAddress
  | wideDelimiter
  | strayComma
  | strayBrace
  | addressedBrace
  | openBrace
  | addressedComment
  | addressedLabel
  | missingLabel
  | unknownSwitch
  | repeatedSwitch (c : Char)
  | repeatedNumber
  | zeroNumber
  | zeroAddress
  | oneAddress
  | badStep
  | repeatedNegation
  | differentLengths
  | extraCharacters
  | missingFile
  | nestedEscape
  | emptyPatternSwitches
  | newerVersion
  | badReference (n : Nat)
  | noPattern
  /-- An instruction that is not allowed. -/
  | forbidden
  | pattern (words : String)
  /-- A label that is nowhere. -/
  | unknownLabel (name : List UInt8)
  /-- A file that cannot be opened. -/
  | closedFile (name : String) (cause : String)
  deriving DecidableEq, Repr

/-- The words for a fault. -/
def Fault.text : Fault → String
  | .missingCommand => "missing command"
  | .missingText => "expected \\ after \x60a', \x60c' or \x60i'"
  | .incomplete => "incomplete command"
  | .openSubstitution => "unterminated \x60s' command"
  | .openExchange => "unterminated \x60y' command"
  | .openAddress => "unterminated address regex"
  | .wideDelimiter => "delimiter character is not a single-byte character"
  | .strayComma => "unexpected \x60,'"
  | .strayBrace => "unexpected \x60\x7d'"
  | .addressedBrace => "\x60\x7d' doesn't want any addresses"
  | .openBrace => "unmatched \x60\x7b'"
  | .addressedComment => "comments don't accept any addresses"
  | .addressedLabel => ": doesn't want any addresses"
  | .missingLabel => "\":\" lacks a label"
  | .unknownSwitch => "unknown option to \x60s'"
  | .repeatedSwitch c => "multiple \x60" ++ c.toString ++ "' options to \x60s' command"
  | .repeatedNumber => "multiple number options to \x60s' command"
  | .zeroNumber => "number option to \x60s' command may not be zero"
  | .zeroAddress => "invalid usage of line address 0"
  | .oneAddress => "command only uses one address"
  | .badStep => "invalid usage of +N or ~N as first address"
  | .repeatedNegation => "multiple \x60!'s"
  | .differentLengths => "strings for \x60y' command are different lengths"
  | .extraCharacters => "extra characters after command"
  | .missingFile => "missing filename in r/R/w/W commands"
  | .nestedEscape => "recursive escaping after \\c not allowed"
  | .emptyPatternSwitches => "cannot specify modifiers on empty regexp"
  | .newerVersion => "expected newer version of sed"
  | .badReference n => s!"invalid reference \\{n} on \x60s' command's RHS"
  | .noPattern => "no previous regular expression"
  | .forbidden => "e/r/w commands disabled in sandbox mode"
  | .pattern words => words
  | .closedFile name cause => "couldn't open file " ++ name ++ ": " ++ cause
  | .unknownCommand _ => "unknown command: "
  | .unknownLabel _ => "can't find label for jump to "

def Fault.words (f : Fault) : List UInt8 :=
  let quoted (octets : List UInt8) : List UInt8 := 0x60 :: octets ++ [39]
  Text.Utf8.encode f.text ++
    match f with
    | .unknownCommand octet => quoted [octet]
    | .unknownLabel name => quoted name
    | _ => []

/-- Where a script is read. -/
inductive Position where
  /-- After some octets of the piece with a number. -/
  | inArgument (piece octets : Nat)
  | inFile (name : String) (line : Nat)
  deriving DecidableEq, Repr

/-- The words for a position. -/
def Position.words : Position → String
  | .inArgument piece octets => s!"-e expression #{piece}, char {octets}: "
  | .inFile name line => "file " ++ name ++ s!" line {line}: "

/-- What is said about a fault at a position; where it is told if it is one of the script. -/
def Fault.said (f : Fault) (p : Position) : List UInt8 :=
  match f with
  | .unknownLabel _ => f.words
  | .closedFile _ _ => f.words
  | _ => Text.Utf8.encode p.words ++ f.words

def Fault.status : Fault → Nat
  | .unknownLabel _ => 4
  | .closedFile _ _ => 4
  | _ => 1

end Edit
end Formatter
end FlowDecl
