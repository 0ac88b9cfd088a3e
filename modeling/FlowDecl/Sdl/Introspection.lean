import FlowDecl.Schema.Writing
import FlowDecl.Sdl.Grammar
import FlowDecl.Sdl.Toolkit
import FlowDecl.Sdl.Validity

/-!
# Introspected type systems

What introspection tells of a type system: a schema.  The introspection query follows a type at most
nine steps inwards, so a type with more brackets and marks ends in a wrapper that wraps nothing.
-/

namespace FlowDecl
namespace Sdl

open Json (Value)

def Shape.kind : Shape → TypeKind
  | .scalar => .scalar
  | .object .. => .object
  | .interface .. => .interface
  | .union .. => .union
  | .enum .. => .enum
  | .input .. => .inputObject

/-- A text, or null if there is none or it is empty. -/
def givenText : Option String → Value
  | some s => if s = "" then .null else .str s
  | none => .null

namespace TypeSystem

/-- The reference to a type of a name. -/
def link (s : TypeSystem) (name : String) : Link :=
  { kind := ((s.shape? name).map Shape.kind).getD .unrecognized, name := .str name }

/-- The links of a type, the outermost first. -/
def links (s : TypeSystem) : TypeExpr → List Link
  | .named name => [s.link name]
  | .list item => { kind := .list } :: links s item
  | .nonNull type => { kind := .nonNull } :: links s type

/-- The reference that introspection gives for a type. -/
def typeRef (s : TypeSystem) (type : TypeExpr) : TypeRef :=
  match (s.links type).take (queriedSteps + 1) with
  | outer :: inner => ⟨outer, inner⟩
  | [] => ⟨s.link type.base, []⟩

def toField (s : TypeSystem) (f : FieldDef) : Field :=
  ⟨.str f.name, s.typeRef f.type⟩

def toInputField (s : TypeSystem) (f : InputValue) : Field :=
  ⟨.str f.name, s.typeRef f.type⟩

/-- The objects that implement an interface, in the order of the types. -/
def implementors (s : TypeSystem) (name : String) : List String :=
  s.types.filterMap fun t =>
    match t.shape with
    | .object interfaces _ => if interfaces.contains name then some t.name else none
    | _ => none

def toType (s : TypeSystem) (t : TypeDecl) : TypeDef :=
  let base : TypeDef :=
    { name := .str t.name, kind := t.shape.kind, description := givenText t.description }
  let refs (names : List String) := names.map fun name => (⟨s.link name, []⟩ : TypeRef)
  match t.shape with
  | .scalar => base
  | .object _ fields => { base with fields := fields.map s.toField }
  | .interface _ fields =>
    { base with fields := fields.map s.toField, possibleTypes := refs (s.implementors t.name) }
  | .union members => { base with possibleTypes := refs members }
  | .enum values => { base with enumValues := values.map fun v => .str v.name }
  | .input fields => { base with inputFields := fields.map s.toInputField }

def toSchema (s : TypeSystem) : Schema :=
  { queryType := (s.query.map .str).getD .null
    mutationType := (s.mutation.map .str).getD .null
    types := s.types.map s.toType }

end TypeSystem

/-- Why nothing is built from a text. -/
inductive Fault where
  | malformed
  deriving DecidableEq, Repr

/-- The type system of a text, if its definitions follow the rules. -/
def build (text : String) : Except Fault TypeSystem :=
  match parse text with
  | some doc =>
    if followsRules doc && directivesRead doc then .ok (.ofDocument doc) else .error .malformed
  | none => .error .malformed

/-- The introspection document of a type system.  There is none if a deprecation in it cannot be
read or if it is not valid. -/
def introspect (s : TypeSystem) : Except Mishap Value :=
  if s.isUnreadable then .error ⟨"GraphQLError", ""⟩
  else if s.isValid then .ok (Document.write s.toSchema)
  else .error ⟨"TypeError", ""⟩

/-- The standard toolkit.  It has no words for what is wrong. -/
def standardToolkit : Toolkit where
  build text := (build text).mapError fun _ => .invalid ""
  introspect := introspect

end Sdl
end FlowDecl
