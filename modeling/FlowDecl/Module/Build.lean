import FlowDecl.Files.Parents
import FlowDecl.Flow.Generate
import FlowDecl.Module.Engine
import FlowDecl.Module.Pipeline

/-!
# Modules

A module is the text that an engine makes of a template and the declarations of a schema.  The
template is the file `module.js.j2` of a directory, if the directory is there and has that file, and
the standard template otherwise.

A module is written after its text is finished, so nothing is written if that fails.
-/

namespace FlowDecl
namespace Module

open Files (Tree)

structure Recipe where
  schema : Schema
  options : Options := {}
  /-- The directory of the template. -/
  templates : Option String := none
  pipeline : Pipeline := {}

/-- Why there is no module. -/
inductive Fault where
  | filter (fault : NameFault)
  | flow (fault : Flow.Fault)
  | template (mishap : Mishap)
  | formatter (fault : Formatter.Fault)
  | file (fault : Files.Fault)

namespace Fault

def message : Fault → String
  | .filter fault => fault.message
  | .flow fault => fault.message
  | .template mishap => mishap.words
  | .formatter fault => fault.message
  | .file fault => fault.message

def isReported : Fault → Bool
  | .flow .tooDeep => true
  | .formatter fault => fault.isReported
  | _ => false

end Fault

def templateName : String := "module.js.j2"

def standardTemplate : String :=
  "// @flow\n// graphql flow definitions: \x7b\x7b module_name \x7d\x7d\n\x7b\x7b body \x7d\x7d\n"

def settings : Template.Settings where
  escapedEndings := [".html", ".htm", ".xml"]
  keepsLastNewline := true

/-- The octets of a file of the templates' directory, if the directory is there and has the file. -/
def templateOctets? (tree : Tree) (directory : Option String) (name : String) :
    Option (List UInt8) :=
  match directory with
  | none => none
  | some directory =>
    if directory != "" && tree.isDirectory directory then
      (tree.read (Files.below directory name)).toOption
    else none

/-- The sources of templates: those of a directory, and the standard template. -/
def sources (tree : Tree) (directory : Option String) : Template.Sources := fun name =>
  match templateOctets? tree directory name with
  | none => .ok (if name = templateName then some standardTemplate else none)
  | some octets =>
    match Text.Utf8.decodeFrom 0 [] octets with
    | .error refusal => .error ⟨"UnicodeDecodeError", refusal.message⟩
    | .ok cs => .ok (some (String.ofList (Text.unifyNewlines cs)))

def templateArguments (o : Options) (declarations : List String) : Template.Arguments :=
  [("module_name", .text o.moduleName), ("declarations", .texts declarations),
    ("body", .text (Flow.joinTexts declarations))]

namespace Recipe

def declarations (r : Recipe) : Except Fault (List String) := do
  let schema ← (r.pipeline.filterSchema r.schema).mapError .filter
  (Flow.declarationTexts r.options schema).mapError .flow

/-- The text of the module before it is finished. -/
def draft (engine : Template.Engine) (tree : Tree) (r : Recipe) : Except Fault String := do
  let declarations ← r.declarations
  (engine settings (sources tree r.templates) templateName
    (templateArguments r.options declarations)).mapError .template

def render (engine : Template.Engine) (run : Formatter.Runner) (r : Recipe) :
    ExceptT Fault (StateM Tree) String := do
  match r.draft engine (← get) with
  | .ok text => ExceptT.adapt Fault.formatter (r.pipeline.finish run text)
  | .error fault => throw fault

/-- Writes the module to a file and answers with its text. -/
def write (engine : Template.Engine) (run : Formatter.Runner) (r : Recipe) (path : String) :
    ExceptT Fault (StateM Tree) String := do
  let text ← r.render engine run
  ExceptT.adapt Fault.file do
    Files.makeParentOf path
    Files.save path (Text.Utf8.encode text)
  return text

end Recipe
end Module
end FlowDecl
