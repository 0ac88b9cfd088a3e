import FlowDecl.Formatter.Symbol
import FlowDecl.Formatter.Quoting

/-!
# Listed lines

How a line is listed so that each of its octets can be told, on lines of a width.
-/

namespace FlowDecl
namespace Formatter
namespace Edit

def plainOctets (cs : List Char) : List UInt8 :=
  cs.map fun c => c.toNat.toUInt8

def listed (b : UInt8) : List UInt8 :=
  if b = 92 then [92, 92]
  else if 32 ≤ b && b < 127 then [b]
  else
    match Quoting.letters.lookup b.toNat with
    | some l => plainOctets ['\\', l]
    | none => plainOctets ('\\' :: Quoting.octal b)

/-- Puts pieces on lines of a width; all lines but the last end with a backslash. -/
def wrap (lineEnd : UInt8) (width column : Nat) : List (List UInt8) → List UInt8
  | [] => [36, lineEnd]
  | piece :: rest =>
    if 0 < width && width - 1 < column + piece.length then
      92 :: lineEnd :: piece ++ wrap lineEnd width piece.length rest
    else piece ++ wrap lineEnd width (column + piece.length) rest

def list (lineEnd : UInt8) (width : Nat) (text : List UInt8) : List UInt8 :=
  wrap lineEnd width 0 (text.map listed)

end Edit
end Formatter
end FlowDecl
