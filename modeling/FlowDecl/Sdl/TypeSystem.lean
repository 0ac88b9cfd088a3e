import FlowDecl.Sdl.Rules

/-!
# Type systems

The type system that a document defines: its types with their extensions merged in and the standard
types that they need, its directives and its root types.

The types of the document keep their order.  A standard type that a type needs follows the first
type that needs it; the standard types that only roots, directives or introspection need come last.
-/

namespace FlowDecl
namespace Sdl

/-- A schema that a document defines. -/
structure TypeSystem where
  types : List TypeDecl
  directives : List DirectiveDecl
  query : Option String
  mutation : Option String
  subscription : Option String

/-- Two shapes of one kind put together. -/
def Shape.merge : Shape → Shape → Shape
  | .object is fs, .object js gs => .object (is ++ js) (fs ++ gs)
  | .interface is fs, .interface js gs => .interface (is ++ js) (fs ++ gs)
  | .union ms, .union ns => .union (ms ++ ns)
  | .enum vs, .enum ws => .enum (vs ++ ws)
  | .input fs, .input gs => .input (fs ++ gs)
  | s, _ => s

/-- The names that a shape leads to: interfaces and members first, then for each field its type and
the types of its arguments. -/
def Shape.references : Shape → List String
  | .scalar => []
  | .object interfaces fields => interfaces ++ fields.flatMap fieldReferences
  | .interface interfaces fields => interfaces ++ fields.flatMap fieldReferences
  | .union members => members
  | .enum _ => []
  | .input fields => fields.map fun f => f.type.base
where
  /-- The names that a field leads to. -/
  fieldReferences (f : FieldDef) : List String :=
    f.type.base :: f.arguments.map fun a => a.type.base

namespace TypeSystem

/-- A type with its extensions.  A type of a standard name is the standard one. -/
def resolve (doc : Document) (t : TypeDecl) : TypeDecl :=
  match standardType? t.name with
  | some standard => standard
  | none =>
    let extensions := doc.typeExtensions.filter fun e => e.name = t.name
    { t with shape := extensions.foldl (fun s e => s.merge e.shape) t.shape }

/-- Adds a standard type and those it leads to, unless it is there or its place is kept. -/
def visit (kept : List String) : Nat → List TypeDecl → String → List TypeDecl
  | 0, seen, _ => seen
  | fuel + 1, seen, name =>
    if kept.contains name || (seen.map (·.name)).contains name then seen
    else
      match standardType? name with
      | some t => t.shape.references.foldl (visit kept fuel) (seen ++ [t])
      | none => seen

/-- The depth to which standard types lead to each other. -/
def visitFuel : Nat := standardTypes.length + 1

/-- Adds a type of the document and the standard types it leads to. -/
def place (kept : List String) (seen : List TypeDecl) (t : TypeDecl) : List TypeDecl :=
  t.shape.references.foldl (visit kept visitFuel) (seen ++ [t])

/-- The directives of a document and the standard ones that it does not define. -/
def allDirectives (doc : Document) : List DirectiveDecl :=
  let own := doc.directiveDecls
  own ++ standardDirectives.filter fun d => !(own.map (·.name)).contains d.name

/-- The root types that a document names, of a definition or of an extension. -/
def namedRoot (doc : Document) (kind : OperationKind) : Option String :=
  ((doc.schemaDecls ++ doc.schemaExtensions).flatMap (·.roots)).lookup kind

/-- The root type of a kind.  Without a schema definition, the type of the usual name is taken. -/
def root (doc : Document) (kind : OperationKind) (usual : String) : Option String :=
  if doc.schemaDecls.isEmpty && (doc.typeDecls.map (·.name)).contains usual then some usual
  else namedRoot doc kind

/-- The root types of a document, in the order query, mutation and subscription. -/
def rootsOf (doc : Document) : Option String × Option String × Option String :=
  (root doc .query "Query", root doc .mutation "Mutation", root doc .subscription "Subscription")

def allTypes (doc : Document) : List TypeDecl :=
  let own := doc.typeDecls.map (resolve doc)
  let kept := own.map (·.name)
  let placed := own.foldl (place kept) []
  let (query, mutation, subscription) := rootsOf doc
  let arguments := (allDirectives doc).flatMap (·.arguments)
  ([query, mutation, subscription].filterMap id ++ (arguments.map fun a => a.type.base) ++
    ["__Schema"]).foldl (visit kept visitFuel) placed

def ofDocument (doc : Document) : TypeSystem :=
  let (query, mutation, subscription) := rootsOf doc
  { types := allTypes doc, directives := allDirectives doc, query, mutation, subscription }

def find? (s : TypeSystem) (name : String) : Option TypeDecl :=
  s.types.find? fun t => t.name = name

def shape? (s : TypeSystem) (name : String) : Option Shape :=
  (s.find? name).map (·.shape)

end TypeSystem

def findUse (name : String) (uses : List DirectiveUse) : Option DirectiveUse :=
  uses.find? fun u => u.name = name

def isDeprecated (uses : List DirectiveUse) : Bool :=
  (findUse "deprecated" uses).isSome

def deprecationReads (uses : List DirectiveUse) : Bool :=
  match findUse "deprecated" uses with
  | some use =>
    match use.arguments.lookup "reason" with
    | none => true
    | some (.text _) => true
    | some _ => false
  | none => true

def specificationReads (uses : List DirectiveUse) : Bool :=
  match findUse "specifiedBy" uses with
  | none => true
  | some use =>
    match use.arguments.lookup "url" with
    | some (.text _) => true
    | _ => false

/-- Whether the deprecations in a shape can be read; those of the values of an enum do not count. -/
def Shape.directivesRead : Shape → Bool
  | .object _ fields => fields.all field
  | .interface _ fields => fields.all field
  | .input fields => fields.all input
  | _ => true
where
  /-- Whether the deprecation of an argument or an input field can be read. -/
  input (v : InputValue) : Bool := deprecationReads v.directives
  /-- Whether the deprecations of a field and its arguments can be read. -/
  field (f : FieldDef) : Bool := deprecationReads f.directives && f.arguments.all input

/-- The definitions and extensions of types that are no standard ones. -/
def ownTypes (doc : Document) : List TypeDecl :=
  doc.allTypes.filter fun t => (standardType? t.name).isNone

/-- Whether the standard directives of a document can be read; deprecations of the values of an enum
do not count. -/
def directivesRead (doc : Document) : Bool :=
  ((ownTypes doc).all fun t => t.shape.directivesRead &&
    (!(t.shape matches .scalar) || specificationReads t.directives)) &&
  (doc.directiveDecls.all fun d => d.arguments.all fun a => deprecationReads a.directives) &&
  doc.directiveMarks.all fun m =>
    !(doc.directiveDecls.map (·.name)).contains m.1 || deprecationReads m.2

/-- Whether the deprecations of the values of an enum can be read; other shapes have no values. -/
def Shape.valuesRead : Shape → Bool
  | .enum values => values.all fun v => deprecationReads v.directives
  | _ => true

end Sdl
end FlowDecl
