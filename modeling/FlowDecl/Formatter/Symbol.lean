import FlowDecl.Text.Octets

/-!
# Lines of symbols

Octets are read as UTF-8 as far as they are well formed.  An octet that is no part of a character
stands for itself.  Nothing is lost by this, so the octets can be written again as they were.
-/

namespace FlowDecl
namespace Formatter

/-- A character, or an octet that is no part of one. -/
inductive Symbol where
  | char (c : Char)
  | octet (b : UInt8)
  deriving DecidableEq, Repr, Inhabited

namespace Symbol

def octets : Symbol → List UInt8
  | .char c => Text.Utf8.encodeChar c
  | .octet b => [b]

/-- The symbols of at most `fuel` octets. -/
def readSome : Nat → List UInt8 → List Symbol
  | 0, _ => []
  | _, [] => []
  | fuel + 1, b :: rest =>
    match Text.firstChar? (b :: rest) with
    | some (c, rest) => .char c :: readSome fuel rest
    | none => .octet b :: readSome fuel rest

def ofOctets (octets : List UInt8) : List Symbol :=
  readSome octets.length octets

def ofChars (cs : List Char) : List Symbol :=
  cs.map .char

def allOctets (symbols : List Symbol) : List UInt8 :=
  symbols.flatMap octets

end Symbol
end Formatter
end FlowDecl
