import FlowDecl.Schema.Basic

/-!
# Writing introspection documents

A schema is written as a document by putting every part of it under the name that a reader takes it
from.
-/

namespace FlowDecl
namespace Document

open Json (Value)

/-- An object that holds one link and what it wraps. -/
def writeLink (l : Link) (inner : Value) : Value :=
  .obj [("kind", .str l.kind.tag), ("name", l.name), ("ofType", inner)]

/-- The links of a chain, each inside of the one before it. -/
def writeLinks (l : Link) : List Link → Value
  | [] => writeLink l .null
  | next :: rest => writeLink l (writeLinks next rest)

def writeRef (ref : TypeRef) : Value :=
  writeLinks ref.outer ref.inner

def writeField (f : Field) : Value :=
  .obj [("name", f.name), ("type", writeRef f.type)]

/-- An object that holds nothing but a name. -/
def writeNamed (name : Value) : Value :=
  .obj [("name", name)]

def writeType (t : TypeDef) : Value :=
  .obj [
    ("name", t.name),
    ("kind", .str t.kind.tag),
    ("description", t.description),
    ("fields", .arr (t.fields.map writeField)),
    ("inputFields", .arr (t.inputFields.map writeField)),
    ("enumValues", .arr (t.enumValues.map writeNamed)),
    ("possibleTypes", .arr (t.possibleTypes.map writeRef))]

/-- The object of a root type, null if the root is missing. -/
def writeRoot (name : Value) : Value :=
  if name.isNull then .null else writeNamed name

def write (s : Schema) : Value :=
  .obj [("__schema", .obj [
    ("queryType", writeRoot s.queryType),
    ("mutationType", writeRoot s.mutationType),
    ("types", .arr (s.types.map writeType))])]

end Document
end FlowDecl
