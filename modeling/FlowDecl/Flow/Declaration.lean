/-!
# Flow declarations

The declarations of a Flow module as data, and their text.  A declaration names the union of some
literals, the union of some other declarations, or a structure of members.  A description is a
comment above the declaration.
-/

namespace FlowDecl
namespace Flow

/-- The types that Flow has by itself. -/
inductive Primitive where
  | any
  | boolean
  | number
  | string
  deriving DecidableEq, Repr, Inhabited

/-- The word for a type of Flow. -/
def Primitive.text : Primitive → String
  | .any => "any"
  | .boolean => "boolean"
  | .number => "number"
  | .string => "string"

inductive TypeExpr where
  | primitive (p : Primitive)
  | declared (name : String)
  | union (names : List String)
  | array (item : TypeExpr)
  deriving DecidableEq, Repr, Inhabited

def TypeExpr.text : TypeExpr → String
  | .primitive p => p.text
  | .declared name => name
  | .union names => " | ".intercalate names
  | .array item => "Array<" ++ item.text ++ ">"

inductive Member where
  | property (name : String) (optional : Bool) (type : TypeExpr)
  | indexer (key : String) (type : TypeExpr)
  deriving DecidableEq, Repr, Inhabited

def Member.text : Member → String
  | .property name optional type =>
    name ++ (if optional then "?: " else ": ") ++ type.text ++ ";"
  | .indexer key type => "[" ++ key ++ ": string]: " ++ type.text ++ ";"

/-- The right side of a declaration. -/
inductive Body where
  | literals (values : List String)
  | alias (names : List String)
  | members (list : List Member)
  deriving DecidableEq, Repr, Inhabited

/-- Members between braces, one to a line. -/
def structureText (members : List Member) : String :=
  if members.isEmpty then "\x7b\x7d"
  else "\x7b\n" ++ "\n".intercalate (members.map fun m => "  " ++ m.text) ++ "\n\x7d"

def Body.text : Body → String
  | .literals values => " | ".intercalate (values.map fun v => "\"" ++ v ++ "\"") ++ ";"
  | .alias names => " | ".intercalate names ++ ";"
  | .members ms => structureText ms

structure Declaration where
  description : Option String := none
  exported : Bool := false
  name : String
  body : Body
  deriving DecidableEq, Repr, Inhabited

def commentText : Option String → String
  | none => ""
  | some description => "/*\n  description: " ++ description ++ "\n*/\n"

def Declaration.text (d : Declaration) : String :=
  commentText d.description ++ (if d.exported then "export " else "") ++ "type " ++ d.name ++ " = "
    ++ d.body.text

/-- Declarations with an empty line between each two. -/
def joinTexts (texts : List String) : String :=
  "\n\n".intercalate texts

end Flow
end FlowDecl
