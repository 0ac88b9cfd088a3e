import FlowDecl.Files.Tree
import FlowDecl.Json.Reader
import FlowDecl.Schema.Document
import FlowDecl.Sdl.Toolkit
import FlowDecl.Text.Ascii
import FlowDecl.Text.Lines
import FlowDecl.Text.Utf8

/-!
# Schema files

A schema is read from a file by the ending of its path: an introspection document in JSON, or schema
definition text.  Files are UTF-8, and line ends of any sort are read as `LF`.

Schema definition text is read by way of its introspection document, which a toolkit makes.  That
the text is not valid is reported; what happens during introspection is not.
-/

namespace FlowDecl
namespace Load

def documentEndings : List String := [".json"]

def definitionEndings : List String := [".graphql", ".graphqls", ".gql"]

/-- Why a path gives no schema. -/
inductive Fault where
  | noPath
  | unsupported (path : String)
  | unreadable (path : String) (cause : Files.Cause)
  | notUtf8 (refusal : Text.Utf8.Refusal)
  | notJson (path : String) (text : List Char) (refusal : Json.Reader.Refusal)
  | document (fault : Document.Fault)
  /-- Schema definition text is not valid. -/
  | definitions (words : String)
  | mishap (mishap : Mishap)

/-- The sentence for a fault. -/
def Fault.message : Fault → String
  | .noPath => "No schema path given"
  | .unsupported path =>
    "Unsupported schema file " ++ Files.baseName path ++ ": expected one of " ++
      ", ".intercalate (documentEndings ++ definitionEndings)
  | .unreadable _ .nullCharacter => Files.Cause.words .nullCharacter
  | .unreadable path cause => "Cannot read " ++ path ++ ": " ++ cause.words
  | .notUtf8 refusal => refusal.message
  | .notJson path text refusal =>
    "Invalid JSON in " ++ Files.baseName path ++ ": " ++ refusal.message text
  | .document fault => fault.message
  | .definitions words => "Invalid GraphQL SDL: " ++ words
  | .mishap m => m.words

def Fault.isReported : Fault → Bool
  | .unreadable _ .nullCharacter => false
  | .notUtf8 _ => false
  | .mishap _ => false
  | _ => true

/-- Whether a path has one of some endings, in any case of letters. -/
def hasEnding (endings : List String) (path : String) : Bool :=
  endings.any fun ending => Text.endsWith ending (Text.lowerCase path)

/-- The characters of a file, with line ends of any sort read as `LF`. -/
def readChars (tree : Files.Tree) (path : String) : Except Fault (List Char) :=
  match tree.read path with
  | .error cause => .error (.unreadable path cause)
  | .ok octets =>
    match Text.Utf8.decodeFrom 0 [] octets with
    | .error refusal => .error (.notUtf8 refusal)
    | .ok cs => .ok (Text.unifyNewlines cs)

/-- The schema of an introspection document in a file. -/
def readDocument (tree : Files.Tree) (path : String) : Except Fault Schema := do
  let cs ← readChars tree path
  match Json.Reader.read cs with
  | .error refusal => throw (.notJson path cs refusal)
  | .ok v => (Document.read v).mapError .document

/-- The schema of schema definition text. -/
def readDefinitions (toolkit : Sdl.Toolkit) (text : String) : Except Fault Schema :=
  match toolkit.build text with
  | .error (.invalid words) => .error (.definitions words)
  | .error (.mishap mishap) => .error (.mishap mishap)
  | .ok types =>
    match toolkit.introspect types with
    | .error mishap => .error (.mishap mishap)
    | .ok document => (Document.read document).mapError .document

/-- The schema of schema definition text in a file. -/
def readDefinitionsAt (toolkit : Sdl.Toolkit) (tree : Files.Tree) (path : String) :
    Except Fault Schema := do
  let cs ← readChars tree path
  readDefinitions toolkit (String.ofList cs)

def schemaAt (toolkit : Sdl.Toolkit) (tree : Files.Tree) (path : Option String) :
    Except Fault Schema :=
  match path with
  | none => .error .noPath
  | some path =>
    if path = "" then .error .noPath
    else if hasEnding documentEndings path then readDocument tree path
    else if hasEnding definitionEndings path then readDefinitionsAt toolkit tree path
    else .error (.unsupported path)

end Load
end FlowDecl
