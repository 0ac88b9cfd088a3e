import FlowDecl.Sdl.Standard

/-!
# Rules for schema documents

Whether the definitions of a document fit together: names are unique, what is mentioned is defined,
what is extended is defined with the same kind, and directives stand where they may with the
arguments that they have.

`followsRules` is the conjunction of the rules.  They are stated over what a document mentions,
which is collected once.
-/

namespace FlowDecl
namespace Sdl

abbrev Document := List Definition

/-- What the directives at a place belong to.  A type and its extensions share their directives,
and so do a schema or a directive and its extensions. -/
inductive Owner where
  | itself
  | schema
  | type (name : String)
  | directive (name : String)
  deriving DecidableEq, Repr

structure Site where
  location : String
  owner : Owner := .itself
  uses : List DirectiveUse

/-- What a definition mentions: its directives, the argument lists of its fields and directives, its
default values and its type names. -/
structure Mentions where
  sites : List Site := []
  argumentLists : List (List (String × Literal)) := []
  defaults : List Literal := []
  types : List String := []

namespace Mentions

/-- What either of two mentions. -/
def append (a b : Mentions) : Mentions :=
  ⟨a.sites ++ b.sites, a.argumentLists ++ b.argumentLists, a.defaults ++ b.defaults,
    a.types ++ b.types⟩

instance : Append Mentions := ⟨append⟩

/-- What any of a list mentions. -/
def concat (ms : List Mentions) : Mentions :=
  ms.foldl append {}

/-- What directives at a place mention. -/
def ofUses (location : String) (uses : List DirectiveUse) (owner : Owner := .itself) : Mentions :=
  { sites := [⟨location, owner, uses⟩], argumentLists := uses.map (·.arguments) }

def ofTypes (names : List String) : Mentions :=
  { types := names }

/-- What an argument definition or an input field mentions. -/
def ofInputValue (location : String) (v : InputValue) : Mentions :=
  ofUses location v.directives ++ { defaults := v.initial.toList, types := [v.type.base] }

def ofField (f : FieldDef) : Mentions :=
  ofUses "FIELD_DEFINITION" f.directives ++ ofTypes [f.type.base] ++
    concat (f.arguments.map (ofInputValue "ARGUMENT_DEFINITION"))

def ofShape : Shape → Mentions
  | .scalar => {}
  | .object interfaces fields => ofTypes interfaces ++ concat (fields.map ofField)
  | .interface interfaces fields => ofTypes interfaces ++ concat (fields.map ofField)
  | .union members => ofTypes members
  | .enum values => concat (values.map fun v => ofUses "ENUM_VALUE" v.directives)
  | .input fields => concat (fields.map (ofInputValue "INPUT_FIELD_DEFINITION"))

/-- The place of the directives of a type. -/
def locationOf : Shape → String
  | .scalar => "SCALAR"
  | .object .. => "OBJECT"
  | .interface .. => "INTERFACE"
  | .union .. => "UNION"
  | .enum .. => "ENUM"
  | .input .. => "INPUT_OBJECT"

mutual

/-- What something selected mentions. -/
def ofSelection : Selection → Mentions
  | .field arguments uses selections =>
    { argumentLists := [arguments] } ++ ofUses "FIELD" uses ++ ofSelections selections
  | .spread uses => ofUses "FRAGMENT_SPREAD" uses
  | .inline onType uses selections =>
    ofTypes onType.toList ++ ofUses "INLINE_FRAGMENT" uses ++ ofSelections selections

/-- What things selected mention. -/
def ofSelections : List Selection → Mentions
  | [] => {}
  | s :: rest => ofSelection s ++ ofSelections rest

end

def ofVariable (v : Variable) : Mentions :=
  ofUses "VARIABLE_DEFINITION" v.directives ++
    { defaults := v.initial.toList, types := [v.type.base] }

def operationLocation : OperationKind → String
  | .query => "QUERY"
  | .mutation => "MUTATION"
  | .subscription => "SUBSCRIPTION"

def of : Definition → Mentions
  | .schema _ decl => ofUses "SCHEMA" decl.directives .schema ++ ofTypes (decl.roots.map (·.2))
  | .type _ decl =>
    ofUses (locationOf decl.shape) decl.directives (.type decl.name) ++ ofShape decl.shape
  | .directive decl =>
    ofUses "DIRECTIVE_DEFINITION" decl.directives (.directive decl.name) ++
      concat (decl.arguments.map (ofInputValue "ARGUMENT_DEFINITION"))
  | .directiveExtension name uses => ofUses "DIRECTIVE_DEFINITION" uses (.directive name)
  | .operation kind parameters uses selections =>
    ofUses (operationLocation kind) uses ++ concat (parameters.map ofVariable) ++
      ofSelections selections
  | .fragment onType uses selections =>
    ofTypes [onType] ++ ofUses "FRAGMENT_DEFINITION" uses ++ ofSelections selections

end Mentions

namespace Document

/-- The definitions of types, without extensions. -/
def typeDecls (doc : Document) : List TypeDecl :=
  doc.filterMap fun
    | .type false decl => some decl
    | _ => none

def typeExtensions (doc : Document) : List TypeDecl :=
  doc.filterMap fun
    | .type true decl => some decl
    | _ => none

/-- The definitions of schemas, without extensions. -/
def schemaDecls (doc : Document) : List SchemaDecl :=
  doc.filterMap fun
    | .schema false decl => some decl
    | _ => none

def schemaExtensions (doc : Document) : List SchemaDecl :=
  doc.filterMap fun
    | .schema true decl => some decl
    | _ => none

def directiveDecls (doc : Document) : List DirectiveDecl :=
  doc.filterMap fun
    | .directive decl => some decl
    | _ => none

/-- The directives at definitions of directives and their extensions, by the name of the
directive. -/
def directiveMarks (doc : Document) : List (String × List DirectiveUse) :=
  doc.filterMap fun
    | .directive decl => some (decl.name, decl.directives)
    | .directiveExtension name uses => some (name, uses)
    | _ => none

/-- The definition of a directive, a standard one if the document has none of the name. -/
def directive? (doc : Document) (name : String) : Option DirectiveDecl :=
  match doc.directiveDecls.find? fun d => d.name = name with
  | some d => some d
  | none => standardDirectives.find? fun d => d.name = name

/-- All definitions and extensions of types with a name. -/
def allTypes (doc : Document) : List TypeDecl :=
  doc.filterMap fun
    | .type _ decl => some decl
    | _ => none

def mentions (doc : Document) : Mentions :=
  .concat (doc.map .of)

end Document

/-- Whether no name is there twice. -/
def distinct : List String → Bool
  | [] => true
  | name :: rest => !rest.contains name && distinct rest

/-- The names of the fields, input fields or values of a shape. -/
def Shape.memberNames : Shape → List String
  | .object _ fields => fields.map (·.name)
  | .interface _ fields => fields.map (·.name)
  | .enum values => values.map (·.name)
  | .input fields => fields.map (·.name)
  | _ => []

def Shape.fields : Shape → List FieldDef
  | .object _ fields => fields
  | .interface _ fields => fields
  | _ => []

def Shape.sameKind : Shape → Shape → Bool
  | .scalar, .scalar => true
  | .object .., .object .. => true
  | .interface .., .interface .. => true
  | .union .., .union .. => true
  | .enum .., .enum .. => true
  | .input .., .input .. => true
  | _, _ => false

/-- The kinds of operations by their words. -/
def OperationKind.word : OperationKind → String
  | .query => "query"
  | .mutation => "mutation"
  | .subscription => "subscription"

namespace Rules

/-- There is one schema definition at most. -/
def loneSchema (doc : Document) : Bool :=
  doc.schemaDecls.length ≤ 1

/-- Every kind of operation has one root type at most. -/
def uniqueRoots (doc : Document) : Bool :=
  distinct ((doc.schemaDecls ++ doc.schemaExtensions).flatMap fun s => s.roots.map (·.1.word))

/-- Every type is defined once. -/
def uniqueTypes (doc : Document) : Bool :=
  distinct (doc.typeDecls.map (·.name))

/-- Every directive is defined once. -/
def uniqueDirectives (doc : Document) : Bool :=
  distinct (doc.directiveDecls.map (·.name))

/-- A type and its extensions have no two fields or values of one name. -/
def uniqueMembers (doc : Document) : Bool :=
  doc.allTypes.all fun t =>
    distinct ((doc.allTypes.filter fun u => u.name = t.name).flatMap fun u => u.shape.memberNames)

/-- No field and no directive has two arguments of one name. -/
def uniqueArgumentDefs (doc : Document) : Bool :=
  (doc.allTypes.all fun t => t.shape.fields.all fun f => distinct (f.arguments.map (·.name))) &&
    doc.directiveDecls.all fun d => distinct (d.arguments.map (·.name))

/-- Whether a definition belongs to a schema and not to an operation. -/
def definesSchema : Definition → Bool
  | .operation .. => false
  | .fragment .. => false
  | _ => true

/-- Every type that is mentioned is defined; the standard types need no definition, but outside of
operations only. -/
def knownTypes (doc : Document) : Bool :=
  let defined := doc.typeDecls.map (·.name)
  doc.all fun d =>
    (Mentions.of d).types.all fun name =>
      defined.contains name || (definesSchema d && (standardType? name).isSome)

/-- Every directive is defined and stands at a place of its own. -/
def knownDirectives (doc : Document) : Bool :=
  doc.mentions.sites.all fun site =>
    site.uses.all fun use =>
      match doc.directive? use.name with
      | some d => d.locations.contains site.location
      | none => false

/-- The names of directives that must not be there twice. -/
def onceOnly (doc : Document) (uses : List DirectiveUse) : List String :=
  (uses.map (·.name)).filter fun name =>
    match doc.directive? name with
    | some d => !d.repeatable
    | none => false

/-- No owner has a directive twice unless it is repeatable. -/
def uniqueDirectiveUses (doc : Document) : Bool :=
  let sites := doc.mentions.sites
  sites.all fun site =>
    let uses :=
      if site.owner = .itself then site.uses
      else (sites.filter fun s => s.owner = site.owner).flatMap (·.uses)
    distinct (onceOnly doc uses)

/-- Every type that is extended is defined with the same kind. -/
def possibleExtensions (doc : Document) : Bool :=
  doc.typeExtensions.all fun e =>
    match doc.typeDecls.find? fun t => t.name = e.name with
    | some t => t.shape.sameKind e.shape
    | none => false

def directiveUses (doc : Document) : List DirectiveUse :=
  doc.mentions.sites.flatMap (·.uses)

/-- Directives are given only arguments that they have. -/
def knownArguments (doc : Document) : Bool :=
  (directiveUses doc).all fun use =>
    match doc.directive? use.name with
    | some d => use.arguments.all fun a => (d.arguments.map (·.name)).contains a.1
    | none => true

/-- Directives are given all arguments that they require. -/
def requiredArguments (doc : Document) : Bool :=
  (directiveUses doc).all fun use =>
    match doc.directive? use.name with
    | some d =>
      d.arguments.all fun a => !a.isRequired || (use.arguments.map (·.1)).contains a.name
    | none => true

/-- No field and no directive is given an argument twice. -/
def uniqueArguments (doc : Document) : Bool :=
  doc.mentions.argumentLists.all fun args => distinct (args.map (·.1))

mutual

/-- Whether no object in a literal has a field twice. -/
def uniqueFieldsIn : Literal → Bool
  | .list items => uniqueFieldsInItems items
  | .object fields => distinct (fields.map (·.1)) && uniqueFieldsInFields fields
  | _ => true

/-- Whether no object in the items has a field twice. -/
def uniqueFieldsInItems : List Literal → Bool
  | [] => true
  | l :: rest => uniqueFieldsIn l && uniqueFieldsInItems rest

/-- Whether no object in the fields has a field twice. -/
def uniqueFieldsInFields : List (String × Literal) → Bool
  | [] => true
  | (_, l) :: rest => uniqueFieldsIn l && uniqueFieldsInFields rest

end

/-- No object has a field twice. -/
def uniqueFields (doc : Document) : Bool :=
  let m := doc.mentions
  m.defaults.all uniqueFieldsIn &&
    m.argumentLists.all fun args => args.all fun a => uniqueFieldsIn a.2

end Rules

def followsRules (doc : Document) : Bool :=
  Rules.loneSchema doc && Rules.uniqueRoots doc && Rules.uniqueTypes doc &&
  Rules.uniqueDirectives doc && Rules.uniqueMembers doc && Rules.uniqueArgumentDefs doc &&
  Rules.knownTypes doc && Rules.knownDirectives doc && Rules.uniqueDirectiveUses doc &&
  Rules.possibleExtensions doc && Rules.knownArguments doc && Rules.requiredArguments doc &&
  Rules.uniqueArguments doc && Rules.uniqueFields doc

end Sdl
end FlowDecl
