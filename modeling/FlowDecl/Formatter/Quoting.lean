import FlowDecl.Text.Glyphs
import FlowDecl.Text.Utf8

/-!
# Quoted names

How messages show names and arguments: between curled quotes with escapes, or in a way that a shell
reads as the name, with quotes always or only where they are needed.
-/

namespace FlowDecl
namespace Formatter
namespace Quoting

/-- The letters of the control characters that have one. -/
def letters : List (Nat × Char) :=
  [(7, 'a'), (8, 'b'), (9, 't'), (10, 'n'), (11, 'v'), (12, 'f'), (13, 'r')]

/-- The three octal digits of an octet. -/
def octal (b : UInt8) : List Char :=
  [b.toNat / 64, b.toNat / 8 % 8, b.toNat % 8].map fun d => Char.ofNat (48 + d)

/-- The escapes of a character that has no glyph. -/
def escape (c : Char) : List Char :=
  match letters.lookup c.toNat with
  | some l => ['\\', l]
  | none => (Text.Utf8.encodeChar c).flatMap fun b => '\\' :: octal b

/-- A text between curled quotes. -/
def curled (text : String) : String :=
  let shown := text.toList.flatMap fun c =>
    if c = '\\' || c = '’' then ['\\', c] else if Text.hasGlyph c then [c] else escape c
  "‘" ++ String.ofList shown ++ "’"

/-- A text between plain quotes, in which all is escaped but what ASCII can show. -/
def plain (text : String) : String :=
  let shown := text.toList.flatMap fun c =>
    if c = '\\' || c = '\'' then ['\\', c]
    else if 32 ≤ c.toNat && c.toNat < 127 then [c]
    else escape c
  "'" ++ String.ofList shown ++ "'"

/-- Whether a character has a meaning in a shell at a place of a text. -/
def isSpecial (length place : Nat) (c : Char) : Bool :=
  " !\"$&()*;<=>?[\\^|'\x60".toList.contains c ||
    ((c = '#' || c = '~') && place = 0) || ((c = '\x7b' || c = '\x7d') && length = 1)

/-- Whether a text needs no escapes between double quotes either. -/
def isPlain (length place : Nat) (c : Char) : Bool :=
  c = ' ' || c = '\'' || ((c = '#' || c = '~') && place = 0) ||
    ((c = '\x7b' || c = '\x7d') && length = 1) ||
    (!"#~\x7b\x7d!\"$&()*;<=>?[\\^|\x60".toList.contains c && Text.hasGlyph c)

/-- The inside of single quotes; `escaped` tells that an escape stands before it. -/
def single (escaped : Bool) : List Char → List Char
  | [] => []
  | c :: rest =>
    if c = '\'' then '\'' :: '\\' :: '\'' :: '\'' :: single false rest
    else if Text.hasGlyph c then
      (if escaped then ['\'', '\''] else []) ++ c :: single false rest
    else (if escaped then [] else ['\'', '$', '\'']) ++ escape c ++ single true rest

/-- A text as a shell reads it, between quotes. -/
def always (text : String) : String :=
  let cs := text.toList
  let places := (List.range cs.length).zip cs
  if cs.contains '\'' && places.all fun p => isPlain cs.length p.1 p.2 then
    "\"" ++ text ++ "\""
  else "'" ++ String.ofList (single false cs) ++ "'"

/-- A text as a shell reads it, between quotes where they are needed or where it has a colon. -/
def asNeeded (text : String) : String :=
  let cs := text.toList
  let places := (List.range cs.length).zip cs
  let odd := places.any fun p =>
    isSpecial cs.length p.1 p.2 || p.2 = ':' || !Text.hasGlyph p.2
  if cs.isEmpty || odd then always text else text

end Quoting
end Formatter
end FlowDecl
