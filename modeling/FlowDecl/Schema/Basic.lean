import FlowDecl.Json.Value
import FlowDecl.Text.Blank

/-!
# Schemas

A schema is what declarations are generated from: the names of its two root types and its types in
order.  A type reference is a chain of links, the outermost first; list and non-null links wrap the
links after them.

Names come from documents that are not checked, so a name is any JSON value, and null is the
missing name.  The two uses of a name that not every value allows, looking it up in a set and
asking for its beginning, answer with a `NameFault`.
-/

namespace FlowDecl

open Json (Value)

inductive TypeKind where
  | scalar
  | object
  | inputObject
  | interface
  | union
  | enum
  | list
  | nonNull
  | unrecognized
  deriving DecidableEq, Repr, Inhabited

namespace TypeKind

def all : List TypeKind :=
  [.scalar, .object, .inputObject, .interface, .union, .enum, .list, .nonNull, .unrecognized]

/-- The word for a kind in documents. -/
def tag : TypeKind → String
  | .scalar => "SCALAR"
  | .object => "OBJECT"
  | .inputObject => "INPUT_OBJECT"
  | .interface => "INTERFACE"
  | .union => "UNION"
  | .enum => "ENUM"
  | .list => "LIST"
  | .nonNull => "NON_NULL"
  | .unrecognized => "UNRECOGNIZED"

/-- The kind of a word; every other word, and everything that is no word, is not recognized. -/
def ofValue : Value → TypeKind
  | .str s => (all.find? fun kind => kind.tag = s).getD .unrecognized
  | _ => .unrecognized

/-- Whether a link of this kind wraps the links after it. -/
def isWrapper : TypeKind → Bool
  | .list => true
  | .nonNull => true
  | _ => false

end TypeKind

/-- Why a value cannot be used as a name. -/
inductive NameFault where
  | unhashable (sort : String)
  | noMethod (sort method : String)
  deriving DecidableEq, Repr

def NameFault.message : NameFault → String
  | .unhashable sort => s!"unhashable type: '{sort}'"
  | .noMethod sort method => s!"'{sort}' object has no attribute '{method}'"

/-- A value that is looked up in a set of names. -/
def asKey (name : Value) : Except NameFault Value :=
  if name.hashable then .ok name else .error (.unhashable name.sort)

/-- A value that is asked for its beginning or end, as `method` tells. -/
def asText (method : String) : Value → Except NameFault String
  | .str s => .ok s
  | name => .error (.noMethod name.sort method)

structure Link where
  kind : TypeKind
  name : Value := .null
  deriving Inhabited

/-- A type reference: a link and the links that it leads to. -/
structure TypeRef where
  outer : Link
  inner : List Link := []
  deriving Inhabited

/-- All links of a reference, the outermost first. -/
def TypeRef.links (ref : TypeRef) : List Link :=
  ref.outer :: ref.inner

def TypeRef.isNonNull (ref : TypeRef) : Bool :=
  ref.outer.kind = .nonNull

/-- The greatest number of steps along a reference. -/
def maxDepth : Nat := 32

/-- The number of steps along a reference that an introspection query asks for. -/
def queriedSteps : Nat := 9

/-- The sentence for a reference that is longer than `maxDepth`. -/
def tooDeepMessage : String :=
  s!"Type reference nested deeper than {maxDepth} levels"

/-- Steps along links, one by one, to the last of them.  Nothing is found after more than `maxDepth`
steps, of which `steps` are taken before. -/
def stepInwards (steps : Nat) (link : Link) : List Link → Option Link
  | [] => some link
  | next :: rest => if maxDepth < steps + 1 then none else stepInwards (steps + 1) next rest

/-- The innermost link of a reference, unless it is more than `maxDepth` steps away. -/
def TypeRef.root? (ref : TypeRef) : Option Link :=
  stepInwards 0 ref.outer ref.inner

/-- A field of an object, an interface or an input object. -/
structure Field where
  name : Value
  type : TypeRef
  deriving Inhabited

structure TypeDef where
  name : Value
  kind : TypeKind
  description : Value := .null
  fields : List Field := []
  inputFields : List Field := []
  enumValues : List Value := []
  possibleTypes : List TypeRef := []
  deriving Inhabited

namespace TypeDef

def isInput (t : TypeDef) : Bool :=
  t.kind = .inputObject

def reservedName (name : String) : Bool :=
  Text.beginsWith "__" name

/-- Whether a type is one of the reserved types of introspection. -/
def isIntrospection (t : TypeDef) : Except NameFault Bool :=
  reservedName <$> asText "startswith" t.name

end TypeDef

/-- The types of a schema and the names of its root types. -/
structure Schema where
  queryType : Value := .null
  mutationType : Value := .null
  types : List TypeDef := []
  deriving Inhabited

namespace Schema

/-- The first type with a name. -/
def find? (s : Schema) (name : Value) : Option TypeDef :=
  s.types.find? fun t => t.name.same name

/-- Counts one more of a kind; a kind that is new goes to the end. -/
def tally (counts : List (TypeKind × Nat)) (kind : TypeKind) : List (TypeKind × Nat) :=
  match counts with
  | [] => [(kind, 1)]
  | (k, n) :: rest => if k = kind then (k, n + 1) :: rest else (k, n) :: tally rest kind

/-- The number of types of each kind, in the order in which the kinds appear. -/
def countByKind (s : Schema) : List (TypeKind × Nat) :=
  s.types.foldl (fun counts t => tally counts t.kind) []

end Schema

structure Options where
  /-- Names of types that are left out everywhere. -/
  ignored : List String := []
  /-- Whether every declaration is exported. -/
  exported : Bool := false
  /-- What is appended to every generated name. -/
  suffix : String := ""
  /-- The name that the module's heading shows. -/
  moduleName : String := "GQL"
  deriving Inhabited

/-- Whether a name is ignored; a missing name is not. -/
def Options.isIgnored (o : Options) (name : Value) : Except NameFault Bool :=
  match name with
  | .null => .ok false
  | .str s => .ok (o.ignored.contains s)
  | name => (fun _ => false) <$> asKey name

end FlowDecl
