import FlowDecl.Text.Blank
import FlowDecl.Text.Pieces

/-!
# Lists of names

Names are given in texts with commas between them.  They stand for a set of names: blanks around a
name, empty names, repetitions and the order do not count.
-/

namespace FlowDecl
namespace CommandLine

def namesIn (text : String) : List String :=
  ((Text.splitOn ',' text.toList).map fun piece => String.ofList (Text.trimChars piece)).filter
    (· != "")

/-- Names in order, each once. -/
def sortNames (names : List String) : List String :=
  (names.mergeSort fun a b => decide (a ≤ b)).eraseDups

/-- The set of names in some texts, in order. -/
def splitNames (texts : List String) : List String :=
  sortNames (texts.flatMap namesIn)

end CommandLine
end FlowDecl
