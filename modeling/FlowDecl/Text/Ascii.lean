import FlowDecl.Text.Quoted

/-!
# ASCII texts

A text that has to be in ASCII is refused at its first run of other characters.  Only the capital
letters of ASCII are made small.
-/

namespace FlowDecl
namespace Text

/-- A text with the capital letters of ASCII made small. -/
def lowerCase (s : String) : String :=
  String.ofList (s.toList.map Char.toLower)

namespace Ascii

def isAscii (c : Char) : Bool :=
  c.toNat < 0x80

/-- The first run of characters outside of ASCII: where it begins, where it ends, and its first
character. -/
structure Refusal where
  start : Nat
  stop : Nat
  first : Char
  deriving DecidableEq, Repr

def Refusal.message (r : Refusal) : String :=
  let place :=
    if r.stop = r.start + 1 then
      "character '" ++ String.ofList (numericEscape r.first) ++ s!"' in position {r.start}"
    else s!"characters in position {r.start}-{r.stop - 1}"
  "'ascii' codec can't encode " ++ place ++ ": ordinal not in range(128)"

/-- The first run of characters outside of ASCII. -/
def refusal? (s : String) : Option Refusal :=
  let start := (s.toList.takeWhile isAscii).length
  match s.toList.dropWhile isAscii with
  | [] => none
  | c :: rest => some ⟨start, start + 1 + (rest.takeWhile fun d => !isAscii d).length, c⟩

end Ascii
end Text
end FlowDecl
