import FlowDecl.Text.Utf8

/-!
# Octets as characters

Where a text is worked on octet by octet, each octet counts as the character of its number.  Such a
text is a list of characters below `U+0100`.
-/

namespace FlowDecl
namespace Text

def octetChars (octets : List UInt8) : List Char :=
  octets.map fun b => Char.ofNat b.toNat

def charOctets (cs : List Char) : List UInt8 :=
  cs.map fun c => c.toNat.toUInt8

/-- The octets of a text as characters. -/
def spread (s : String) : List Char :=
  octetChars (Utf8.encode s)

/-- The character at the beginning of some octets, and what follows it. -/
def firstChar? (octets : List UInt8) : Option (Char × List UInt8) :=
  [1, 2, 3, 4].findSome? fun n =>
    match Utf8.decodeFrom 0 [] (octets.take n) with
    | .ok [c] => some (c, octets.drop n)
    | _ => none

/-- The characters of at most `fuel` octets; an octet that is no part of a character is replaced. -/
def gatherSome : Nat → List UInt8 → List Char
  | 0, _ => []
  | _, [] => []
  | fuel + 1, b :: rest =>
    match firstChar? (b :: rest) with
    | some (c, rest) => c :: gatherSome fuel rest
    | none => Char.ofNat 0xfffd :: gatherSome fuel rest

/-- The text that octets as characters stand for. -/
def gather (cs : List Char) : String :=
  String.ofList (gatherSome cs.length (charOctets cs))

end Text
end FlowDecl
