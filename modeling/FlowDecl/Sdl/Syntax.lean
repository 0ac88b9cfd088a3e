/-!
# Schema definition syntax

The definitions that a document holds.  Besides the definitions and extensions of a schema, a
document may hold operations and fragments; they define nothing, but the rules of a document look
at their directives, arguments and type names too.
-/

namespace FlowDecl
namespace Sdl

inductive Literal where
  | variable (name : String)
  | int (digits : String)
  | float (digits : String)
  | text (s : String)
  | boolean (b : Bool)
  | null
  | enum (name : String)
  | list (items : List Literal)
  | object (fields : List (String × Literal))
  deriving Inhabited

inductive TypeExpr where
  | named (name : String)
  | list (item : TypeExpr)
  | nonNull (type : TypeExpr)
  deriving DecidableEq, Repr, Inhabited

/-- The name inside all brackets. -/
def TypeExpr.base : TypeExpr → String
  | .named name => name
  | .list item => item.base
  | .nonNull type => type.base

def TypeExpr.isNonNull : TypeExpr → Bool
  | .nonNull _ => true
  | _ => false

structure DirectiveUse where
  name : String
  arguments : List (String × Literal) := []
  deriving Inhabited

/-- An argument of a field or a directive, or a field of an input object. -/
structure InputValue where
  name : String
  description : Option String := none
  type : TypeExpr
  initial : Option Literal := none
  directives : List DirectiveUse := []
  deriving Inhabited

/-- Whether a value must be given. -/
def InputValue.isRequired (v : InputValue) : Bool :=
  v.type.isNonNull && v.initial.isNone

structure FieldDef where
  name : String
  description : Option String := none
  arguments : List InputValue := []
  type : TypeExpr
  directives : List DirectiveUse := []
  deriving Inhabited

structure EnumValue where
  name : String
  description : Option String := none
  directives : List DirectiveUse := []
  deriving Inhabited

inductive Shape where
  | scalar
  | object (interfaces : List String) (fields : List FieldDef)
  | interface (interfaces : List String) (fields : List FieldDef)
  | union (members : List String)
  | enum (values : List EnumValue)
  | input (fields : List InputValue)
  deriving Inhabited

structure TypeDecl where
  name : String
  description : Option String := none
  directives : List DirectiveUse := []
  shape : Shape
  deriving Inhabited

inductive OperationKind where
  | query
  | mutation
  | subscription
  deriving DecidableEq, Repr, Inhabited

structure SchemaDecl where
  directives : List DirectiveUse := []
  roots : List (OperationKind × String) := []
  deriving Inhabited

/-- A directive that is defined; directives may stand at its definition too. -/
structure DirectiveDecl where
  name : String
  arguments : List InputValue := []
  directives : List DirectiveUse := []
  repeatable : Bool := false
  locations : List String
  deriving Inhabited

/-- What an operation or a fragment selects. -/
inductive Selection where
  | field (arguments : List (String × Literal)) (directives : List DirectiveUse)
      (selections : List Selection)
  | spread (directives : List DirectiveUse)
  | inline (onType : Option String) (directives : List DirectiveUse) (selections : List Selection)
  deriving Inhabited

structure Variable where
  type : TypeExpr
  initial : Option Literal := none
  directives : List DirectiveUse := []
  deriving Inhabited

inductive Definition where
  | schema (extension : Bool) (decl : SchemaDecl)
  | type (extension : Bool) (decl : TypeDecl)
  | directive (decl : DirectiveDecl)
  /-- Directives that are added to the definition of a directive. -/
  | directiveExtension (name : String) (directives : List DirectiveUse)
  | operation (kind : OperationKind) (parameters : List Variable) (directives : List DirectiveUse)
      (selections : List Selection)
  | fragment (onType : String) (directives : List DirectiveUse) (selections : List Selection)
  deriving Inhabited

end Sdl
end FlowDecl
