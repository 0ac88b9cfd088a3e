import FlowDecl.Json.Display
import FlowDecl.Schema.Basic

/-!
# Introspection documents

A schema is read from a decoded introspection document, either `{"data": {"__schema": …}}` as
an endpoint answers it or the bare `{"__schema": …}`.  Only the members that declarations need are
read.  Missing descriptions, roots and lists count as empty; where a list is expected, a text stands
for the list of its characters and an object for the list of its names.

`Document.read` tells the first fault of a document that is not a schema.
-/

namespace FlowDecl
namespace Document

open Json (Value)

/-- Why a document is not a schema. -/
inductive Fault where
  | notAnObject
  | noSchema
  | schemaNotAnObject
  | missing (member : String)
  | notIterable (sort : String)
  | noMembers (value : Value)
  | noAttribute (sort : String)
  | tooDeep
  deriving Inhabited

/-- What is wrong with taking a member of a value that is no object. -/
def noMembersMessage : Value → String
  | .str _ => "string indices must be integers, not 'str'"
  | .arr _ => "list indices must be integers or slices, not str"
  | v => s!"'{v.sort}' object is not subscriptable"

def Fault.message : Fault → String
  | .notAnObject => "Introspection document must be a JSON object"
  | .noSchema => "Introspection document has no __schema"
  | .schemaNotAnObject => "Introspection __schema must be a JSON object"
  | .missing member => s!"Malformed introspection document: missing '{member}'"
  | .notIterable sort => s!"Malformed introspection document: '{sort}' object is not iterable"
  | .noMembers value => "Malformed introspection document: " ++ noMembersMessage value
  | .noAttribute sort =>
    s!"Malformed introspection document: '{sort}' object has no attribute 'get'"
  | .tooDeep => tooDeepMessage

def required (member : String) : Value → Except Fault Value
  | .obj members =>
    match Value.lookup? member members with
    | some value => .ok value
    | none => .error (.missing member)
  | v => .error (.noMembers v)

/-- An optional member of a value, null if it is missing. -/
def optional (member : String) : Value → Except Fault Value
  | .obj members => .ok ((Value.lookup? member members).getD .null)
  | v => .error (.noAttribute v.sort)

/-- The items of a value that is taken for a list. -/
def items (v : Value) : Except Fault (List Value) :=
  match v with
  | .arr items => .ok items
  | .str s => .ok (s.toList.map fun c => .str (String.singleton c))
  | .obj members => .ok (members.map fun m => .str m.1)
  | v => if v.isTruthy then .error (.notIterable v.sort) else .ok []

/-- The links of a reference.  `budget` is the number of links that may still be read. -/
def readLinks : Nat → Value → Except Fault (List Link)
  | 0, _ => .error .tooDeep
  | budget + 1, raw =>
    if raw.isTruthy then do
      let next ← optional "ofType" raw
      let kind ← optional "kind" raw
      let name ← optional "name" raw
      let inner ← if next.isTruthy then readLinks budget next else .ok []
      return ⟨TypeKind.ofValue kind, name⟩ :: inner
    else .ok [⟨.unrecognized, .null⟩]

/-- A type reference of at most `maxDepth` steps. -/
def readRef (raw : Value) : Except Fault TypeRef := do
  match ← readLinks (maxDepth + 1) raw with
  | outer :: inner => return ⟨outer, inner⟩
  | [] => return ⟨⟨.unrecognized, .null⟩, []⟩

def readField (raw : Value) : Except Fault Field := do
  let name ← required "name" raw
  let type ← readRef (← optional "type" raw)
  return ⟨name, type⟩

/-- The name of an enum value: the name of an object, the text of anything else. -/
def readEnumValue : Value → Except Fault Value
  | .obj members => required "name" (.obj members)
  | v => .ok (.str v.display)

/-- A description; one that is empty counts as none. -/
def readDescription (raw : Value) : Value :=
  if raw.isTruthy then raw else .null

def readType (raw : Value) : Except Fault TypeDef := do
  let name ← required "name" raw
  let kind ← optional "kind" raw
  let description ← optional "description" raw
  let fields ← (← items (← optional "fields" raw)).mapM readField
  let inputFields ← (← items (← optional "inputFields" raw)).mapM readField
  let enumValues ← (← items (← optional "enumValues" raw)).mapM readEnumValue
  let possibleTypes ← (← items (← optional "possibleTypes" raw)).mapM readRef
  return {
    name
    kind := TypeKind.ofValue kind
    description := readDescription description
    fields
    inputFields
    enumValues
    possibleTypes }

/-- The name of a root type; a root that is not given has none. -/
def readRoot (raw : Value) : Except Fault Value :=
  if raw.isTruthy then optional "name" raw else .ok .null

def readSchema (raw : Value) : Except Fault Schema := do
  let queryType ← readRoot (← optional "queryType" raw)
  let mutationType ← readRoot (← optional "mutationType" raw)
  let types ← (← items (← optional "types" raw)).mapM readType
  return ⟨queryType, mutationType, types⟩

/-- The schema of an introspection document. -/
def read : Value → Except Fault Schema
  | .obj document =>
    match (Value.lookup? "data" document).getD (.obj document) with
    | .obj data =>
      match Value.lookup? "__schema" data with
      | some (.obj schema) => readSchema (.obj schema)
      | some _ => .error .schemaNotAnObject
      | none => .error .noSchema
    | _ => .error .noSchema
  | _ => .error .notAnObject

end Document
end FlowDecl
