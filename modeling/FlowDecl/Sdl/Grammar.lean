import FlowDecl.Sdl.Standard
import FlowDecl.Sdl.Token

/-!
# The grammar of schema definition text

A document is read from its tokens.  Each reader takes tokens from the front and answers nothing if
they do not fit.  Readers that repeat are bounded by a number that begins as the number of tokens
left, and every repetition takes a token.  Lists, objects and selections may nest only so deep:
readers that nest are given the number of levels that are left.
-/

namespace FlowDecl
namespace Sdl
namespace Grammar

abbrev Reader (α : Type) := StateT (List Token) Option α

/-- The next token is left alone. -/
def peek : Reader (Option Token) := do
  return (← get).head?

def next : Reader Token := do
  match ← get with
  | [] => failure
  | t :: rest =>
    set rest
    return t

/-- Takes the next token if it is the given one. -/
def skip (t : Token) : Reader Bool := do
  if (← peek) = some t then
    discard next
    return true
  else return false

/-- Takes the given token. -/
def expect (t : Token) : Reader Unit := do
  if !(← skip t) then failure

def punct (c : Char) : Token := .punctuator c

def name : Reader String := do
  match ← next with
  | .name s => return s
  | _ => failure

/-- Reads items up to a closing token. -/
def itemsUntil {α : Type} (close : Token) (item : Reader α) : Nat → Reader (List α)
  | 0 => failure
  | fuel + 1 => do
    if ← skip close then return []
    let x ← item
    let xs ← itemsUntil close item fuel
    return x :: xs

/-- Reads any number of items between two tokens. -/
def any {α : Type} (opening close : Char) (item : Reader α) : Reader (List α) := do
  expect (punct opening)
  itemsUntil (punct close) item ((← get).length + 1)

/-- Reads at least one item between two tokens. -/
def many {α : Type} (opening close : Char) (item : Reader α) : Reader (List α) := do
  let items ← any opening close item
  if items.isEmpty then failure else return items

/-- Reads at least one item between two tokens, or nothing if the opening token is not there. -/
def optionalMany {α : Type} (opening close : Char) (item : Reader α) : Reader (List α) := do
  if (← peek) = some (punct opening) then many opening close item else return []

/-- Reads further items, each after a token. -/
def itemsAfter {α : Type} (sep : Token) (item : Reader α) : Nat → Reader (List α)
  | 0 => failure
  | fuel + 1 => do
    if ← skip sep then
      let x ← item
      let xs ← itemsAfter sep item fuel
      return x :: xs
    else return []

/-- Reads at least one item; a token stands between two items and may stand before the first. -/
def delimited {α : Type} (sep : Char) (item : Reader α) : Reader (List α) := do
  discard (skip (punct sep))
  let x ← item
  let xs ← itemsAfter (punct sep) item ((← get).length + 1)
  return x :: xs

/-- How deep lists, objects and selections may nest. -/
def levels : Nat := 200

/-- Reads a literal that nests nothing.  In a constant a variable is refused. -/
def plainLiteral (const : Bool) : Reader Literal := do
  match ← next with
  | .int digits => return .int digits
  | .float digits => return .float digits
  | .text s => return .text s
  | .name "true" => return .boolean true
  | .name "false" => return .boolean false
  | .name "null" => return .null
  | .name s => return .enum s
  | .punctuator '$' => do
    let v ← name
    if const then failure else return .variable v
  | _ => failure

def literal (const : Bool) : Nat → Reader Literal
  | 0 => plainLiteral const
  | levels + 1 => do
    match ← peek with
    | some (.punctuator '[') => return .list (← any '[' ']' (literal const levels))
    | some (.punctuator '{') =>
      return .object (← any '{' '}' do
        let key ← name
        expect (punct ':')
        return (key, ← literal const levels))
    | _ => plainLiteral const

/-- Reads the mark of a type that must be given, if it is there. -/
def marked (type : TypeExpr) : Reader TypeExpr := do
  if ← skip (punct '!') then return .nonNull type else return type

def typeWithin : Nat → Reader TypeExpr
  | 0 => do marked (.named (← name))
  | levels + 1 => do
    if ← skip (punct '[') then
      let item ← typeWithin levels
      expect (punct ']')
      marked (.list item)
    else marked (.named (← name))

def typeExpr : Reader TypeExpr :=
  typeWithin levels

/-- Reads arguments in parentheses, if there are any. -/
def arguments (const : Bool) (levels : Nat) : Reader (List (String × Literal)) :=
  optionalMany '(' ')' do
    let key ← name
    expect (punct ':')
    return (key, ← literal const levels)

def directivesWithin (const : Bool) (levels : Nat) : Nat → Reader (List DirectiveUse)
  | 0 => failure
  | fuel + 1 => do
    if ← skip (punct '@') then
      let n ← name
      let args ← arguments const levels
      let rest ← directivesWithin const levels fuel
      return ⟨n, args⟩ :: rest
    else return []

def directives (const : Bool) (levels : Nat := levels) : Reader (List DirectiveUse) := do
  directivesWithin const levels ((← get).length + 1)

def description : Reader (Option String) := do
  match ← peek with
  | some (.text s) =>
    discard next
    return some s
  | _ => return none

/-- Reads a default value, if there is one. -/
def initial : Reader (Option Literal) := do
  if ← skip (punct '=') then return some (← literal true levels) else return none

/-- Reads an argument definition or a field of an input object. -/
def inputValue : Reader InputValue := do
  let description ← description
  let n ← name
  expect (punct ':')
  let type ← typeExpr
  let initial ← initial
  let directives ← directives true
  return { name := n, description, type, initial, directives }

def fieldDef : Reader FieldDef := do
  let description ← description
  let n ← name
  let arguments ← optionalMany '(' ')' inputValue
  expect (punct ':')
  let type ← typeExpr
  let directives ← directives true
  return { name := n, description, arguments, type, directives }

/-- Reads a value of an enum; the words of the literals are no values. -/
def enumValue : Reader EnumValue := do
  let description ← description
  let n ← name
  if ["true", "false", "null"].contains n then failure
  let directives ← directives true
  return { name := n, description, directives }

/-- Reads the interfaces of a type, if there are any. -/
def interfaces : Reader (List String) := do
  if ← skip (.name "implements") then delimited '&' name else return []

/-- Reads the members of a union, if there are any. -/
def unionMembers : Reader (List String) := do
  if ← skip (punct '=') then delimited '|' name else return []

def operationKind? : String → Option OperationKind
  | "query" => some .query
  | "mutation" => some .mutation
  | "subscription" => some .subscription
  | _ => none

def rootType : Reader (OperationKind × String) := do
  let kind ← (operationKind? (← name) : Option _)
  expect (punct ':')
  return (kind, ← name)

/-- Reads the rest of a schema definition. -/
def schemaDef : Reader Definition := do
  let directives ← directives true
  let roots ← many '{' '}' rootType
  return .schema false { directives, roots }

/-- Reads the rest of a schema extension, which must say something. -/
def schemaExtension : Reader Definition := do
  let directives ← directives true
  let roots ← optionalMany '{' '}' rootType
  if directives.isEmpty && roots.isEmpty then failure
  return .schema true { directives, roots }

/-- Reads what follows the keyword of a type. -/
def typeDecl (keyword : String) (description : Option String) : Reader TypeDecl := do
  let n ← name
  match keyword with
  | "scalar" => return { name := n, description, directives := ← directives true, shape := .scalar }
  | "type" => do
    let interfaces ← interfaces
    let directives ← directives true
    let fields ← optionalMany '{' '}' fieldDef
    return { name := n, description, directives, shape := .object interfaces fields }
  | "interface" => do
    let interfaces ← interfaces
    let directives ← directives true
    let fields ← optionalMany '{' '}' fieldDef
    return { name := n, description, directives, shape := .interface interfaces fields }
  | "union" => do
    let directives ← directives true
    let members ← unionMembers
    return { name := n, description, directives, shape := .union members }
  | "enum" => do
    let directives ← directives true
    let values ← optionalMany '{' '}' enumValue
    return { name := n, description, directives, shape := .enum values }
  | "input" => do
    let directives ← directives true
    let fields ← optionalMany '{' '}' inputValue
    return { name := n, description, directives, shape := .input fields }
  | _ => failure

def isEmptyShape : Shape → Bool
  | .scalar => true
  | .object interfaces fields => interfaces.isEmpty && fields.isEmpty
  | .interface interfaces fields => interfaces.isEmpty && fields.isEmpty
  | .union members => members.isEmpty
  | .enum values => values.isEmpty
  | .input fields => fields.isEmpty

/-- Reads a place where a directive may stand. -/
def directiveLocation : Reader String := do
  let n ← name
  if directiveLocations.contains n then return n else failure

/-- Reads the rest of a directive definition. -/
def directiveDef : Reader Definition := do
  expect (punct '@')
  let n ← name
  let arguments ← optionalMany '(' ')' inputValue
  let directives ← directives true
  let repeatable ← skip (.name "repeatable")
  expect (.name "on")
  let locations ← delimited '|' directiveLocation
  return .directive { name := n, arguments, directives, repeatable, locations }

/-- Reads the rest of an extension of a directive, which must say something. -/
def directiveExtension : Reader Definition := do
  expect (punct '@')
  let n ← name
  let directives ← directives true
  if directives.isEmpty then failure else return .directiveExtension n directives

/-- Reads the name of a fragment, which may be any name but the word for its type condition. -/
def fragmentName : Reader String := do
  let n ← name
  if n = "on" then failure else return n

/-- Reads what follows three dots; `selections` reads what is selected below. -/
def fragmentUse (levels : Nat) (selections : Reader (List Selection)) : Reader Selection := do
  if ← skip (.name "on") then
    let onType ← name
    let directives ← directives false levels
    return .inline (some onType) directives (← selections)
  else
    match ← peek with
    | some (.name _) =>
      discard fragmentName
      return .spread (← directives false levels)
    | _ =>
      let directives ← directives false levels
      return .inline none directives (← selections)

/-- Reads a field; `selections` reads what is selected below. -/
def fieldUse (levels : Nat) (selections : Reader (List Selection)) : Reader Selection := do
  discard name
  if ← skip (punct ':') then discard name
  let arguments ← arguments false levels
  let directives ← directives false levels
  if (← peek) = some (punct '{') then return .field arguments directives (← selections)
  else return .field arguments directives []

/-- Reads what is selected between braces, which may be nothing. -/
def selectionsWithin : Nat → Reader (List Selection)
  | 0 => failure
  | levels + 1 => any '{' '}' do
    if ← skip .spread then fragmentUse levels (selectionsWithin levels)
    else fieldUse levels (selectionsWithin levels)

/-- Reads what is selected between braces. -/
def selections : Reader (List Selection) :=
  selectionsWithin levels

def variableDef : Reader Variable := do
  discard description
  expect (punct '$')
  discard name
  expect (punct ':')
  let type ← typeExpr
  let initial ← initial
  let directives ← directives true
  return { type, initial, directives }

def operation (kind : OperationKind) : Reader Definition := do
  match ← peek with
  | some (.name _) => discard name
  | _ => pure ()
  let parameters ← optionalMany '(' ')' variableDef
  let directives ← directives false
  return .operation kind parameters directives (← selections)

def fragment : Reader Definition := do
  discard fragmentName
  expect (.name "on")
  let onType ← name
  let directives ← directives false
  return .fragment onType directives (← selections)

/-- Reads the rest of an extension, which must say something. -/
def extension : Reader Definition := do
  let keyword ← name
  if keyword = "schema" then schemaExtension
  else if keyword = "directive" then directiveExtension
  else
    let decl ← typeDecl keyword none
    if decl.directives.isEmpty && isEmptyShape decl.shape then failure
    return .type true decl

/-- Reads one definition.  Everything may have a description but the short form of an operation
and an extension. -/
def definition : Reader Definition := do
  let description ← description
  match ← peek with
  | some (.punctuator '{') =>
    if description.isSome then failure else return .operation .query [] [] (← selections)
  | _ =>
    let keyword ← name
    match keyword with
    | "schema" => schemaDef
    | "directive" => directiveDef
    | "fragment" => fragment
    | "extend" => if description.isSome then failure else extension
    | keyword =>
      match operationKind? keyword with
      | some kind => operation kind
      | none => return .type false (← typeDecl keyword description)

/-- Reads definitions up to the end. -/
def definitions : Nat → Reader (List Definition)
  | 0 => failure
  | fuel + 1 => do
    if (← peek).isNone then return []
    let d ← definition
    let ds ← definitions fuel
    return d :: ds

end Grammar

/-- The definitions of a document; there must be one at least. -/
def parse (text : String) : Option (List Definition) := do
  let ts ← tokens text
  let (ds, _) ← (Grammar.definitions (ts.length + 1)).run ts
  if ds.isEmpty then none else some ds

end Sdl
end FlowDecl
