import FlowDecl.Flow.Declaration
import FlowDecl.Json.Display
import FlowDecl.Schema.Basic

/-!
# Declarations of a schema

A schema is turned into three declarations for the response envelope and one declaration for each
eligible type that needs one.  A field is left out if the innermost type of its reference is
ignored.  The members of a structure are in the order of their texts.

Generation fails on a reference that is too long and on a name that cannot be looked up or asked
for its beginning.
-/

namespace FlowDecl
namespace Flow

open Json (Value)

/-- Why a schema has no declarations. -/
inductive Fault where
  | tooDeep
  | name (fault : NameFault)
  deriving DecidableEq, Repr

def Fault.message : Fault → String
  | .tooDeep => tooDeepMessage
  | .name fault => fault.message

/-- A use of a name inside of generation. -/
def ofName {α : Type} (x : Except NameFault α) : Except Fault α :=
  x.mapError .name

/-- The generated name of an object, an input object, an interface or a union. -/
def typeName (name : Value) (o : Options) : String :=
  name.display ++ o.suffix

def enumName (name : Value) (o : Options) : String :=
  name.display ++ "Enum" ++ o.suffix

/-- The scalars that have a type in Flow. -/
def builtinScalars : List (String × Primitive) :=
  [("ID", .string), ("String", .string), ("Boolean", .boolean), ("Float", .number),
    ("Int", .number)]

/-- The type of a scalar in Flow; any other scalar can be anything. -/
def scalarPrimitive (name : String) : Primitive :=
  (builtinScalars.lookup name).getD .any

def scalarExpression (name : Value) : Except NameFault TypeExpr :=
  match name with
  | .str s => .ok (.primitive (scalarPrimitive s))
  | name => (fun _ => .primitive .any) <$> asKey name

/-- The expression of a link that wraps nothing. -/
def namedExpression (o : Options) (l : Link) : Except Fault TypeExpr :=
  if l.name.isNull then .ok (.primitive .any)
  else
    match l.kind with
    | .scalar => ofName (scalarExpression l.name)
    | .enum => .ok (.declared (enumName l.name o))
    | _ => .ok (.declared (typeName l.name o))

/-- The expression of the links from a depth on.  A list wraps the expression of the links after
it, non-null leaves it as it is, and where a link is missing anything is allowed. -/
def linksExpression (o : Options) (depth : Nat) (links : List Link) : Except Fault TypeExpr :=
  if maxDepth < depth then .error .tooDeep
  else
    match links with
    | [] => .ok (.primitive .any)
    | l :: rest =>
      match l.kind with
      | .list => TypeExpr.array <$> linksExpression o (depth + 1) rest
      | .nonNull => linksExpression o (depth + 1) rest
      | _ => namedExpression o l

def refExpression (o : Options) (ref : TypeRef) : Except Fault TypeExpr :=
  linksExpression o 0 ref.links

def rootLink (ref : TypeRef) : Except Fault Link :=
  match ref.root? with
  | some l => .ok l
  | none => .error .tooDeep

/-- The member of a field, or nothing if its innermost type is ignored. -/
def fieldMember (o : Options) (f : Field) : Except Fault (Option Member) := do
  let root ← rootLink f.type
  if ← ofName (o.isIgnored root.name) then return none
  let type ← refExpression o f.type
  return some (.property f.name.display (!f.type.isNonNull) type)

/-- Members in the order of their texts. -/
def sortMembers (members : List Member) : List Member :=
  members.mergeSort fun a b => decide (a.text ≤ b.text)

def fieldMembers (o : Options) (fields : List Field) : Except Fault (List Member) := do
  let members ← fields.mapM (fieldMember o)
  return sortMembers (members.filterMap id)

/-- The generated names of the possible types that are not ignored, in schema order. -/
def possibleNames (o : Options) (t : TypeDef) : Except Fault (List String) := do
  let names ← t.possibleTypes.mapM fun ref => do
    if ref.outer.name.isNull then return none
    else if ← ofName (o.isIgnored ref.outer.name) then return none
    else return some (typeName ref.outer.name o)
  return names.filterMap id

/-- The text of a description, unless it is empty. -/
def descriptionOf (v : Value) : Option String :=
  if v.isTruthy then some v.display else none

/-- The member that every structure but an input object begins with. -/
def typenameMember : Member :=
  .property "__typename" false (.primitive .string)

def structuralBody (o : Options) (t : TypeDef) : Except Fault Body :=
  if t.isInput then Body.members <$> fieldMembers o t.inputFields
  else (fun members => Body.members (typenameMember :: members)) <$> fieldMembers o t.fields

def declare (o : Options) (t : TypeDef) (name : String) (body : Body) : Declaration :=
  { description := descriptionOf t.description, exported := o.exported, name, body }

/-- The declaration of a type.  Scalars need none, and wrapper kinds are no types.  An interface or
a union without possible types is declared as a structure. -/
def typeDeclaration (o : Options) (t : TypeDef) : Except Fault (Option Declaration) :=
  match t.kind with
  | .scalar => .ok none
  | .list => .ok none
  | .nonNull => .ok none
  | .enum =>
    let values := t.enumValues.map fun v => v.display ++ o.suffix
    .ok (some (declare o t (enumName t.name o) (.literals values)))
  | .interface | .union => do
    let names ← possibleNames o t
    if names.isEmpty then
      return some (declare o t (typeName t.name o) (← structuralBody o t))
    else return some (declare o t (typeName t.name o) (.alias names))
  | .object | .inputObject | .unrecognized => do
    return some (declare o t (typeName t.name o) (← structuralBody o t))

/-- The generated names of the root types that are given. -/
def rootNames (o : Options) (s : Schema) : List String :=
  [s.queryType, s.mutationType].filterMap fun root =>
    if root.isTruthy then some (typeName root o) else none

/-- The declarations of a response: its root, its errors and their locations. -/
def envelope (o : Options) (s : Schema) : List Declaration :=
  let error := "GraphQLResponseError" ++ o.suffix
  let location := "GraphQLResponseErrorLocation" ++ o.suffix
  [{ exported := o.exported
     name := "GraphQLResponseRoot" ++ o.suffix
     body := .members
      [.property "data" true (.union (rootNames o s)),
        .property "errors" true (.array (.declared error))] },
    { exported := o.exported
      name := error
      body := .members
        [.property "message" false (.primitive .string),
          .property "locations" true (.array (.declared location)),
          .indexer "propName" (.primitive .any)] },
    { exported := o.exported
      name := location
      body := .members
        [.property "line" false (.primitive .number),
          .property "column" false (.primitive .number)] }]

/-- Whether a type gets a declaration: it is neither reserved nor ignored. -/
def isEligible (o : Options) (t : TypeDef) : Except Fault Bool := do
  if ← ofName t.isIntrospection then return false
  return !(← ofName (o.isIgnored t.name))

def eligibleDeclaration (o : Options) (t : TypeDef) : Except Fault (Option Declaration) := do
  if ← isEligible o t then typeDeclaration o t else return none

/-- The declarations of a schema: the envelope and the types in order. -/
def declarations (o : Options) (s : Schema) : Except Fault (List Declaration) := do
  let types ← s.types.mapM (eligibleDeclaration o)
  return envelope o s ++ types.filterMap id

def declarationTexts (o : Options) (s : Schema) : Except Fault (List String) :=
  List.map Declaration.text <$> declarations o s

def source (o : Options) (s : Schema) : Except Fault String :=
  joinTexts <$> declarationTexts o s

end Flow
end FlowDecl
