import FlowDecl.Decimal.Shortest
import FlowDecl.Json.Value
import FlowDecl.Text.Hex

/-!
# Written JSON

Values are written in ASCII: a character outside of the printable ASCII range is escaped, one
outside of the basic plane as a surrogate pair.  There are two layouts, one line with a blank after
each comma and colon, and one item per line with an indentation of two blanks for each level.
-/

namespace FlowDecl
namespace Json
namespace Value

open Decimal (NumberWords)

/-- The words of written numbers without digits. -/
def writtenWords : NumberWords := ⟨"Infinity", "NaN"⟩

/-- The escape of a code unit of sixteen bits. -/
def unitEscape (n : Nat) : List Char :=
  '\\' :: 'u' :: Text.hexDigits 4 n

/-- One character of a written text. -/
def writeChar (c : Char) : List Char :=
  let n := c.toNat
  if c = '"' ∨ c = '\\' then ['\\', c]
  else if c = '\n' then ['\\', 'n']
  else if c = '\r' then ['\\', 'r']
  else if c = '\t' then ['\\', 't']
  else if n = 8 then ['\\', 'b']
  else if n = 12 then ['\\', 'f']
  else if 0x20 ≤ n ∧ n < 0x7f then [c]
  else if n < 0x10000 then unitEscape n
  else unitEscape (0xd800 + (n - 0x10000) / 0x400) ++ unitEscape (0xdc00 + (n - 0x10000) % 0x400)

/-- A written text between double quotes. -/
def writeText (s : String) : List Char :=
  '"' :: s.toList.flatMap writeChar ++ ['"']

/-- A value that is no container. -/
def writeScalar : Value → List Char
  | .bool b => (if b then "true" else "false").toList
  | .int n => (toString n).toList
  | .float x => (x.text writtenWords).toList
  | .str s => writeText s
  | _ => "null".toList

/-- How the items of containers are laid out. -/
inductive Layout where
  | oneLine
  | indented
  deriving DecidableEq, Repr

/-- What stands before the first item at a depth. -/
def Layout.opening (layout : Layout) (depth : Nat) : List Char :=
  match layout with
  | .oneLine => []
  | .indented => '\n' :: List.replicate (2 * depth) ' '

/-- What stands between two items at a depth. -/
def Layout.between (layout : Layout) (depth : Nat) : List Char :=
  match layout with
  | .oneLine => [',', ' ']
  | .indented => ',' :: '\n' :: List.replicate (2 * depth) ' '

mutual

def write (layout : Layout) (depth : Nat) : Value → List Char
  | .arr [] => ['[', ']']
  | .arr (item :: rest) =>
    '[' :: layout.opening (depth + 1) ++ write layout (depth + 1) item ++
      writeItems layout (depth + 1) rest ++ layout.opening depth ++ [']']
  | .obj [] => ['{', '}']
  | .obj ((key, value) :: rest) =>
    '{' :: layout.opening (depth + 1) ++ writeText key ++ [':', ' '] ++
      write layout (depth + 1) value ++ writeMembers layout (depth + 1) rest ++
      layout.opening depth ++ ['}']
  | v => writeScalar v

def writeItems (layout : Layout) (depth : Nat) : List Value → List Char
  | [] => []
  | item :: rest => layout.between depth ++ write layout depth item ++ writeItems layout depth rest

def writeMembers (layout : Layout) (depth : Nat) : List (String × Value) → List Char
  | [] => []
  | (key, value) :: rest =>
    layout.between depth ++ writeText key ++ [':', ' '] ++ write layout depth value ++
      writeMembers layout depth rest

end

def compact (v : Value) : String :=
  String.ofList (write .oneLine 0 v)

/-- A value with one item per line. -/
def indented (v : Value) : String :=
  String.ofList (write .indented 0 v)

end Value
end Json
end FlowDecl
