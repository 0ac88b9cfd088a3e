import FlowDecl.Mishap
import FlowDecl.Text.Ascii
import FlowDecl.Text.Blank

/-!
# Template engines

A template is a source that is found under a name.  An engine fills it in with arguments, which the
source can name.  The engine has the other sources at hand too, because a template may refer to
them.
-/

namespace FlowDecl
namespace Template

/-- A value that a template is filled in with. -/
inductive Argument where
  | text (s : String)
  | texts (items : List String)
  deriving DecidableEq, Repr

abbrev Arguments := List (String × Argument)

structure Settings where
  /-- Texts are escaped in templates whose names end in one of these, in any case of letters. -/
  escapedEndings : List String
  /-- Whether a line end at the end of a source is kept. -/
  keepsLastNewline : Bool

/-- Whether texts are escaped in the template of a name. -/
def Settings.escapes (settings : Settings) (name : String) : Bool :=
  settings.escapedEndings.any fun ending => Text.endsWith ending (Text.lowerCase name)

/-- A source as the engine takes it. -/
def Settings.taken (settings : Settings) (source : List Char) : List Char :=
  if !settings.keepsLastNewline && source.getLast? = some '\n' then source.dropLast else source

/-- The sources by name; a source may be missing, and it may be unreadable. -/
abbrev Sources := String → Except Mishap (Option String)

/-- A way to fill in the template of a name. -/
abbrev Engine := Settings → Sources → String → Arguments → Except Mishap String

end Template
end FlowDecl
