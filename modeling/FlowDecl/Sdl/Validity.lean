import FlowDecl.Json.Reader
import FlowDecl.Sdl.TypeSystem
import FlowDecl.Text.Blank

/-!
# Valid type systems

A type system that a document defines may still be of no use: a root may be missing or no object, a
type may be empty, a name may be reserved, a type may be used where only others may stand, an
interface may not be fulfilled, and an input object may need itself.

`TypeSystem.isValid` is the conjunction of all conditions.
-/

namespace FlowDecl
namespace Sdl
namespace TypeSystem

def isFreeName (name : String) : Bool :=
  !Text.beginsWith "__" name

def isInputType (s : TypeSystem) (type : TypeExpr) : Bool :=
  match s.shape? type.base with
  | some .scalar => true
  | some (.enum _) => true
  | some (.input _) => true
  | _ => false

def isOutputType (s : TypeSystem) (type : TypeExpr) : Bool :=
  match s.shape? type.base with
  | some (.input _) => false
  | some _ => true
  | none => false

def isObject (s : TypeSystem) (name : String) : Bool :=
  s.shape? name matches some (.object ..)

/-- The interfaces that a type says it implements. -/
def interfacesOf (s : TypeSystem) (name : String) : List String :=
  match s.shape? name with
  | some (.object is _) => is
  | some (.interface is _) => is
  | _ => []

/-- Whether a type is one of the possible types of another. -/
def isPossible (s : TypeSystem) (general special : String) : Bool :=
  match s.shape? general with
  | some (.union members) => members.contains special
  | some (.interface ..) => (s.interfacesOf special).contains general
  | _ => false

/-- Whether a value of a type may stand where another type is asked for. -/
def isSubtype (s : TypeSystem) : TypeExpr → TypeExpr → Bool
  | .nonNull special, .nonNull general => isSubtype s special general
  | .nonNull special, general => isSubtype s special general
  | .list special, .list general => isSubtype s special general
  | .named special, .named general => special == general || s.isPossible general special
  | _, _ => false

/-! ## Default values -/

/-- The integer of decimal digits with a sign. -/
def digitsInt (digits : String) : Int :=
  match digits.toList with
  | '-' :: cs => -(Json.Reader.digitsValue cs : Int)
  | cs => Json.Reader.digitsValue cs

/-- Whether a literal is a value of a standard scalar; a further scalar takes every literal. -/
def scalarAccepts (scalar : String) (l : Literal) : Bool :=
  match scalar, l with
  | "Int", .int digits => -2147483648 ≤ digitsInt digits && digitsInt digits ≤ 2147483647
  | "Int", _ => false
  | "Float", .int _ => true
  | "Float", .float _ => true
  | "Float", _ => false
  | "String", .text _ => true
  | "String", _ => false
  | "Boolean", .boolean _ => true
  | "Boolean", _ => false
  | "ID", .text _ => true
  | "ID", .int _ => true
  | "ID", _ => false
  | _, _ => true

/-- Whether a literal that is neither null nor an object is a value of the type of a name. -/
def namedAccepts (s : TypeSystem) (name : String) (l : Literal) : Bool :=
  match s.shape? name, l with
  | some .scalar, l => scalarAccepts name l
  | some (.enum values), .enum v => (values.map (·.name)).contains v
  | some (.enum _), _ => false
  | some (.input _), _ => false
  | _, _ => true

/-- Whether a type is an input object of which exactly one field is given. -/
def isOneOf (s : TypeSystem) (name : String) : Bool :=
  match s.find? name with
  | some t => (findUse "oneOf" t.directives).isSome
  | none => false

/-- Whether an object literal names the right fields: only fields that there are, all fields that
must be given, and one field that is not null where one is asked for. -/
def namesFields (s : TypeSystem) (name : String) (fields : List InputValue)
    (given : List (String × Literal)) : Bool :=
  (given.all fun g => (fields.map (·.name)).contains g.1) &&
  (fields.all fun f => !f.isRequired || (given.map (·.1)).contains f.name) &&
  (!s.isOneOf name || (given.length == 1 && given.all fun g => !(g.2 matches .null)))

def itemType? : TypeExpr → Option TypeExpr
  | .nonNull type => itemType? type
  | .list item => some item
  | .named _ => none

mutual

/-- Whether a literal is a value of a type.  A literal that is no list stands for a list of one
item. -/
def accepts (s : TypeSystem) (type : TypeExpr) : Literal → Bool
  | .null => !type.isNonNull
  | .list items =>
    match itemType? type with
    | some item => acceptsItems s item items
    | none => s.namedAccepts type.base (.list items)
  | .object given =>
    match s.shape? type.base with
    | some (.input fields) => s.namesFields type.base fields given && acceptsFields s fields given
    | _ => s.namedAccepts type.base (.object given)
  | l => s.namedAccepts type.base l

/-- Whether literals are values of a type. -/
def acceptsItems (s : TypeSystem) (type : TypeExpr) : List Literal → Bool
  | [] => true
  | l :: rest => accepts s type l && acceptsItems s type rest

/-- Whether the literals given for fields are values of their types. -/
def acceptsFields (s : TypeSystem) (fields : List InputValue) : List (String × Literal) → Bool
  | [] => true
  | (name, l) :: rest =>
    (match fields.find? fun f => f.name = name with
      | some f => accepts s f.type l
      | none => false) && acceptsFields s fields rest

end

/-- Whether the default value of an argument or an input field is a value of its type. -/
def initialFits (s : TypeSystem) (v : InputValue) : Bool :=
  match v.initial with
  | some l => s.accepts v.type l
  | none => true

/-! ## Default values of no type

A literal cannot be compared with a type that has no literals at all: the search for faults ends
there.  It also ends at an enum whose deprecations cannot be read.  What is found first in the order
of the type system tells why it is of no use.
-/

mutual

/-- Whether some part of a literal is given for a type that is neither a scalar, an enum nor an
input object. -/
def strays (s : TypeSystem) (type : TypeExpr) : Literal → Bool
  | .null => false
  | .list items =>
    match itemType? type with
    | some item => anyStrays s item items
    | none => !s.isInputType type
  | .object given =>
    match s.shape? type.base with
    | some (.input fields) => fieldsStray s fields given
    | _ => !s.isInputType type
  | _ => !s.isInputType type

/-- Whether one of some literals strays from a type. -/
def anyStrays (s : TypeSystem) (type : TypeExpr) : List Literal → Bool
  | [] => false
  | l :: rest => strays s type l || anyStrays s type rest

/-- Whether one of the literals given for fields strays from the type of its field. -/
def fieldsStray (s : TypeSystem) (fields : List InputValue) : List (String × Literal) → Bool
  | [] => false
  | (name, l) :: rest =>
    (match fields.find? fun f => f.name = name with
      | some f => strays s f.type l
      | none => false) || fieldsStray s fields rest

end

/-- Whether the default value of an argument or an input field strays from its type. -/
def initialStrays (s : TypeSystem) (v : InputValue) : Bool :=
  v.initial.any (s.strays v.type)

/-- Whether a default value in a shape strays from its type. -/
def shapeStrays (s : TypeSystem) : Shape → Bool
  | .object _ fields => fields.any fun f => f.arguments.any s.initialStrays
  | .interface _ fields => fields.any fun f => f.arguments.any s.initialStrays
  | .input fields => fields.any s.initialStrays
  | _ => false

/-- Whether an enum whose deprecations cannot be read comes before every default value that strays
from its type.  The directives come before the types. -/
def isUnreadable (s : TypeSystem) : Bool :=
  let strays := s.directives.any fun d => d.arguments.any s.initialStrays
  let ends := s.types.find? fun t => !t.shape.valuesRead || s.shapeStrays t.shape
  !strays && ends.any fun t => !t.shape.valuesRead

/-! ## Conditions on types -/

/-- Whether an argument or an input field is well defined. -/
def inputValueFits (s : TypeSystem) (v : InputValue) : Bool :=
  isFreeName v.name && s.isInputType v.type && !(v.isRequired && isDeprecated v.directives) &&
    s.initialFits v

def fieldFits (s : TypeSystem) (f : FieldDef) : Bool :=
  isFreeName f.name && s.isOutputType f.type && f.arguments.all s.inputValueFits

/-- Whether a field fulfils the field of an interface: it has every argument of it with the same
type, requires no further one, has a type that may stand for its type, and is deprecated only if it
is. -/
def fieldFulfils (s : TypeSystem) (f general : FieldDef) : Bool :=
  s.isSubtype f.type general.type &&
  (general.arguments.all fun a =>
    match f.arguments.find? fun b => b.name = a.name with
    | some b => b.type = a.type
    | none => false) &&
  (f.arguments.all fun b =>
    (general.arguments.map (·.name)).contains b.name || !b.isRequired) &&
  (!isDeprecated f.directives || isDeprecated general.directives)

/-- Whether a type fulfils an interface that it implements, and implements all that the interface
implements. -/
def fulfils (s : TypeSystem) (t : TypeDecl) (general : String) : Bool :=
  match s.shape? general with
  | some (.interface above fields) =>
    general != t.name &&
    (above.all fun i => (s.interfacesOf t.name).contains i) &&
    fields.all fun g =>
      match t.shape.fields.find? fun f => f.name = g.name with
      | some f => s.fieldFulfils f g
      | none => false
  | _ => false

/-- Whether a field of an input object of which one field is given may be left out. -/
def oneOfFits (f : InputValue) : Bool :=
  !f.type.isNonNull && f.initial.isNone

/-- Whether a shape with fields is well defined. -/
def fieldsFit (s : TypeSystem) (t : TypeDecl) (interfaces : List String) (fields : List FieldDef) :
    Bool :=
  !fields.isEmpty && fields.all s.fieldFits && distinct interfaces && interfaces.all (s.fulfils t)

def typeFits (s : TypeSystem) (t : TypeDecl) : Bool :=
  isFreeName t.name &&
  match t.shape with
  | .scalar => true
  | .object interfaces fields => s.fieldsFit t interfaces fields
  | .interface interfaces fields => s.fieldsFit t interfaces fields
  | .union members => !members.isEmpty && distinct members && members.all s.isObject
  | .enum values => !values.isEmpty && values.all fun v => isFreeName v.name
  | .input fields =>
    !fields.isEmpty && fields.all s.inputValueFits && (!s.isOneOf t.name || fields.all oneOfFits)

/-! ## Input objects that need themselves -/

/-- Whether a type is an input object, with or without marks and brackets. -/
def isInputObject (s : TypeSystem) (type : TypeExpr) : Bool :=
  match s.shape? type.base with
  | some (.input _) => true
  | _ => false

/-- Whether there are finite values of a type besides null, if there are such values of the input
objects in `finite`. -/
def hasValues (s : TypeSystem) (finite : List String) : TypeExpr → Bool
  | .named name => !s.isInputObject (.named name) || finite.contains name
  | .list _ => true
  | .nonNull type => hasValues s finite type

/-- Whether there are finite values of an input object, if there are such values of the input
objects in `finite`. -/
def inputHasValues (s : TypeSystem) (finite : List String) (t : TypeDecl) : Bool :=
  match t.shape with
  | .input fields =>
    if s.isOneOf t.name then fields.any fun f => s.hasValues finite f.type
    else fields.all fun f => !f.type.isNonNull || s.hasValues finite f.type
  | _ => true

/-- The types with finite values that are found in a number of rounds. -/
def finiteTypes (s : TypeSystem) : Nat → List String
  | 0 => []
  | rounds + 1 => (s.types.filter (s.inputHasValues (finiteTypes s rounds))).map (·.name)

/-- The names that are reached from names in a number of steps. -/
def reach (step : String → List String) : Nat → List String → List String
  | 0, seen => seen
  | fuel + 1, seen =>
    let new := (seen.flatMap step).filter fun n => !seen.contains n
    if new.isEmpty then seen else reach step fuel (seen ++ new.eraseDups)

/-- Whether no name leads back to itself. -/
def acyclic (step : String → List String) (names : List String) : Bool :=
  names.all fun n => !(reach step names.length (step n)).contains n

/-- Whether every input object has finite values. -/
def inputsAreFinite (s : TypeSystem) : Bool :=
  let finite := s.finiteTypes s.types.length
  s.types.all fun t => finite.contains t.name

/-- The name of a field of an input object. -/
def fieldKey (name field : String) : String :=
  name ++ "." ++ field

mutual

/-- The fields whose default values are taken when a literal is given for an input object. -/
def takenBy (s : TypeSystem) (name : String) : Literal → List String
  | .list items => takenByItems s name items
  | .object given =>
    match s.shape? name with
    | some (.input fields) =>
      let missing := fields.filter fun f =>
        s.isInputObject f.type && f.initial.isSome && !(given.map (·.1)).contains f.name
      missing.map (fun f => fieldKey name f.name) ++ takenByFields s fields given
    | _ => []
  | _ => []

/-- The fields whose default values are taken by items. -/
def takenByItems (s : TypeSystem) (name : String) : List Literal → List String
  | [] => []
  | l :: rest => takenBy s name l ++ takenByItems s name rest

/-- The fields whose default values are taken by what is given for fields. -/
def takenByFields (s : TypeSystem) (fields : List InputValue) :
    List (String × Literal) → List String
  | [] => []
  | (name, l) :: rest =>
    (match fields.find? fun f => f.name = name with
      | some f => if s.isInputObject f.type then takenBy s f.type.base l else []
      | none => []) ++ takenByFields s fields rest

end

/-- All fields of input objects by their names. -/
def inputFields (s : TypeSystem) : List (String × InputValue) :=
  s.types.flatMap fun t =>
    match t.shape with
    | .input fields => fields.map fun f => (fieldKey t.name f.name, f)
    | _ => []

/-- The fields whose default values the default value of a field takes. -/
def takenByField (s : TypeSystem) (key : String) : List String :=
  match s.inputFields.lookup key with
  | some f =>
    match f.initial with
    | some l => s.takenBy f.type.base l
    | none => []
  | none => []

/-- Whether no default value takes itself. -/
def defaultsAreFinite (s : TypeSystem) : Bool :=
  acyclic s.takenByField (s.inputFields.map (·.1))

/-! ## Conditions on the whole -/

def roots (s : TypeSystem) : List String :=
  [s.query, s.mutation, s.subscription].filterMap id

/-- Whether there is a query root, and all roots are different objects. -/
def rootsFit (s : TypeSystem) : Bool :=
  s.query.isSome && s.roots.all s.isObject && distinct s.roots

def directiveFits (s : TypeSystem) (d : DirectiveDecl) : Bool :=
  isFreeName d.name && d.arguments.all s.inputValueFits

/-- Whether a type system can be used. -/
def isValid (s : TypeSystem) : Bool :=
  s.rootsFit && s.directives.all s.directiveFits &&
  (s.types.all fun t => (standardType? t.name).isSome || s.typeFits t) &&
  s.inputsAreFinite && s.defaultsAreFinite

end TypeSystem
end Sdl
end FlowDecl
