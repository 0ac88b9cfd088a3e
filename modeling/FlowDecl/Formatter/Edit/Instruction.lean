import FlowDecl.Formatter.Pattern
import FlowDecl.Formatter.Symbol

/-!
# Instructions for line editing

Lines are edited one after the other.  A script is a list of instructions; each is done on the
lines that its address selects.  While a line is edited further lines may be read, and a second
text may be kept from line to line.
-/

namespace FlowDecl
namespace Formatter
namespace Edit

structure Search where
  pattern : Pattern
  manner : Manner := {}
  /-- The number of groups of the pattern. -/
  groups : Nat := 0
  /-- The pattern as it is written. -/
  text : List UInt8 := []
  /-- The place among the addresses of a script if the search is one. -/
  address : Option Nat := none
  deriving DecidableEq, Repr

/-- What becomes of letters. -/
inductive LetterCase where
  | kept
  | capital
  | small
  deriving DecidableEq, Repr

/-- A part of what is put in the place of a match: a text, and then what a group has taken.  The
group zero is the whole match. -/
structure ReplacementPart where
  text : List UInt8 := []
  group : Option Nat := none
  /-- What becomes of all letters of the part. -/
  letters : LetterCase := .kept
  /-- What becomes of the first letter. -/
  first : LetterCase := .kept
  deriving DecidableEq, Repr

/-- What lines are written to. -/
inductive Sink where
  | output
  /-- The output, but with a last line of its own. -/
  | plainOutput
  | errors
  | file (name : String)
  deriving DecidableEq, Repr

/-- How matches are replaced. -/
structure Substitution where
  /-- What is replaced; without it what was looked for last. -/
  search : Option Search
  parts : List ReplacementPart
  /-- The number of the first match that is replaced, if it is told. -/
  first : Option Nat := none
  everywhere : Bool := false
  /-- The changed line is run as a script, whose output comes in its place. -/
  executed : Bool := false
  /-- The changed line is written before it is run. -/
  printedBefore : Bool := false
  /-- The changed line is written. -/
  printed : Bool := false
  /-- What the changed line is written to as well. -/
  written : Option Sink := none
  deriving DecidableEq, Repr

/-- The greatest number of a group that a substitution asks for. -/
def Substitution.greatestGroup (s : Substitution) : Nat :=
  s.parts.foldl (fun n part => max n (part.group.getD 0)) 0

inductive JumpCondition where
  | always
  | replaced
  | notReplaced
  deriving DecidableEq, Repr

inductive Action where
  | label (name : List UInt8)
  /-- Goes to its end on lines that are not selected. -/
  | block (blockEnd : Nat)
  | blockEnd
  /-- Goes to the instruction with a number. -/
  | jump (condition : JumpCondition) (target : Nat)
  | substitute (s : Substitution)
  /-- Replaces characters one by one. -/
  | exchange (pairs : List (Symbol × Symbol))
  | delete
  | deleteFirst
  | print
  | printFirst
  /-- Writes the line so that each octet can be told, in lines of a width. -/
  | list (width : Option Nat)
  | next
  | appendNext
  | hold (appended : Bool)
  | get (appended : Bool)
  | swap
  | clear
  | number
  | fileName
  | insert (text : List UInt8)
  | append (text : List UInt8)
  | change (text : List UInt8)
  /-- Runs a script, or the line if there is none. -/
  | execute (script : List UInt8)
  | readFile (name : String)
  /-- Writes a file at once. -/
  | readFirst (name : String)
  /-- Takes a line of a file; `found` tells that there was one before editing. -/
  | readLine (name : String) (found : Bool)
  | writeFile (sink : Sink)
  | writeFirst (sink : Sink)
  | quit (printed : Bool) (status : Option Nat)
  /-- An instruction that is known by its letter only. -/
  | reformat (width : Option Nat)
  deriving DecidableEq, Repr

/-- A line by its place or by what is in it. -/
inductive LinePoint where
  | number (n : Nat)
  | last
  | every (first step : Nat)
  /-- A line in which something is found; without a search what was looked for last. -/
  | matching (s : Option Search)
  deriving DecidableEq, Repr

/-- Where a range of lines ends. -/
inductive RangeEnd where
  | point (p : LinePoint)
  /-- A number of lines further on. -/
  | further (n : Nat)
  /-- At the next line whose number is a multiple. -/
  | multiple (n : Nat)
  deriving DecidableEq, Repr

/-- The lines that an instruction is done on. -/
inductive Address where
  | every
  | one (p : LinePoint)
  | range (first : LinePoint) (final : RangeEnd)
  deriving DecidableEq, Repr

/-- An instruction, for the lines of its address or for the other ones. -/
structure Instruction where
  address : Address := .every
  others : Bool := false
  action : Action
  deriving DecidableEq, Repr

end Edit
end Formatter
end FlowDecl
