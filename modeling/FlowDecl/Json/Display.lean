import FlowDecl.Decimal.Shortest
import FlowDecl.Json.Value
import FlowDecl.Text.Quoted

/-!
# Displayed values

The text that a value has inside generated text.  A text is displayed as itself at the top and
quoted inside of a container; null and the truth values are capitalised words.
-/

namespace FlowDecl
namespace Json
namespace Value

open Decimal (NumberWords)

/-- The words of displayed numbers without digits. -/
def displayWords : NumberWords := ⟨"inf", "nan"⟩

def Numeric.shown : Numeric → String
  | .int n => toString n
  | .float x => x.text displayWords

mutual

/-- A value as it is displayed inside of a container: texts are quoted. -/
def shown : Value → String
  | .null => "None"
  | .bool b => if b then "True" else "False"
  | .int n => (Numeric.int n).shown
  | .float x => (Numeric.float x).shown
  | .str s => Text.quoted s
  | .arr items => "[" ++ ", ".intercalate (shownItems items) ++ "]"
  | .obj members => "\x7b" ++ ", ".intercalate (shownMembers members) ++ "\x7d"

def shownItems : List Value → List String
  | [] => []
  | item :: rest => shown item :: shownItems rest

def shownMembers : List (String × Value) → List String
  | [] => []
  | (key, value) :: rest => (Text.quoted key ++ ": " ++ shown value) :: shownMembers rest

end

/-- A value as it is displayed on its own: a text is displayed as itself. -/
def display : Value → String
  | .str s => s
  | v => shown v

end Value
end Json
end FlowDecl
