import FlowDecl.CommandLine.Names
import FlowDecl.CommandLine.Options
import FlowDecl.CommandLine.Words

/-!
# Generating declarations

The command that reads a schema from a file or an endpoint, and writes the module of its
declarations.
-/

namespace FlowDecl
namespace CommandLine

structure GenerateRequest where
  schema : Option String := none
  url : Option String := none
  output : String
  options : Options
  excluded : Option String := none
  banner : Option String := none
  formatter : Option String := none
  templates : Option String := none
  endpoint : EndpointRequest
  verbose : Bool := false

namespace Generate

/-- The file that declarations are written to if nothing is said. -/
def standardOutput : String := "graphql-export.flow.js"

def outputOf (g : Given OptionKey) : String :=
  (g.value? .outputFile).getD standardOutput

def check (tree : Files.Tree) (g : Given OptionKey) : OptionKey → Except Stop Unit
  | .schema => g.positional.head?.forM (checkFile .generate tree true schemaHint)
  | .outputFile => checkFile .generate tree false outputFileForm.hint (outputOf g)
  | .templates => (g.value? .templates).forM (checkDirectory .generate tree templatesForm.hint)
  | .timeout => (fun _ => ()) <$> readTimeout .generate (g.value? .timeout)
  | _ => .ok ()

def readRequest (around : Surroundings) (tree : Files.Tree) (arguments : List String) :
    Except Stop GenerateRequest := do
  let g ← readCommand .generate generateForms 1 (check tree) arguments
  let endpoint ← readEndpoint .generate around g
  return {
    schema := g.positional.head?
    url := g.value? .url
    output := outputOf g
    options :=
      { ignored := splitNames (g.values .ignoredTypes)
        exported := g.has .exported
        suffix := (g.value? .suffix).getD ""
        moduleName := (g.value? .moduleName).getD "GQL" }
    excluded := g.value? .excluded
    banner := g.value? .banner
    formatter := g.value? .formatter
    templates := g.value? .templates
    endpoint
    verbose := g.has .verbose }

def kindWords (kind : TypeKind) : String :=
  " ".intercalate ((Text.splitOn '_' kind.tag.toList).map fun
    | [] => ""
    | c :: rest => String.ofList (c :: rest.map Char.toLower))

def rootWords (s : Schema) (name : Json.Value) : String :=
  if !name.isTruthy then "-"
  else if (s.find? name).isNone then name.display ++ " (not declared in schema)"
  else name.display

def schemaLines (s : Schema) : List String :=
  let counts := s.countByKind.mergeSort fun a b => decide (a.1.tag ≤ b.1.tag)
  counts.map (fun (kind, n) => "  " ++ kindWords kind ++ s!": {n}") ++
    ["  Query type: " ++ rootWords s s.queryType,
      "  Mutation type: " ++ rootWords s s.mutationType]

def fetchSchema (around : Surroundings) (r : GenerateRequest) (url : String) : Action Schema := do
  echo around ("Introspecting " ++ url ++ "...")
  let credentials ← readCredentials .generate r.endpoint
  let document ← fetchDocument around .generate url credentials r.endpoint.timeout
  match Document.read document with
  | .ok schema => return schema
  | .error fault => failUsage .generate fault.message

def loadSchema (around : Surroundings) (r : GenerateRequest) : Action Schema := do
  echo around "Parsing schema..."
  match Load.schemaAt around.toolkit (← get).tree r.schema with
  | .ok schema => return schema
  | .error fault =>
    if fault.isReported then failUsage .generate fault.message else throw (.crash (.load fault))

def readFormatter (text : String) : Action Formatter.Command := do
  let words ← orUsage .generate ((splitCommand text).mapError fun fault =>
    invalidValue "--formatter" fault.message)
  orUsage .generate ((Formatter.Command.ofWords words).mapError (·.message))

/-- The steps around generation. -/
def readPipeline (r : GenerateRequest) : Action Pipeline := do
  let filters := (given r.excluded).toList.map fun start => { notBeginning := some start }
  let formatters ← r.formatter.toList.mapM readFormatter
  let banners := (given r.banner).toList
  return { filters, finishers := formatters.map .formatter ++ banners.map .banner }

def writeModule (around : Surroundings) (recipe : Module.Recipe) (path : String) :
    Action String := do
  let s ← get
  let (result, tree) := (recipe.write around.engine around.runner path).run s.tree
  set { s with tree }
  match result with
  | .ok text => return text
  | .error fault =>
    if fault.isReported then failUsage .generate fault.message else throw (.crash (.module fault))

/-- Does what the command is asked for. -/
def perform (around : Surroundings) (r : GenerateRequest) : Action Unit := do
  let url := given r.url
  if (given r.schema).isSome = url.isSome then
    failUsage .generate "Provide exactly one of SCHEMA or --url."
  let path := (← get).tree.absolute r.output
  if r.verbose then
    echo around ("Schema: " ++ (given r.schema <|> url).getD "")
    echo around ("Output: " ++ path)
    if !r.options.ignored.isEmpty then
      echo around ("Ignored types: " ++ ", ".intercalate r.options.ignored)
  let schema ←
    match url with
    | some url => fetchSchema around r url
    | none => loadSchema around r
  if r.verbose then (schemaLines schema).forM (echo around)
  let pipeline ← readPipeline r
  echo around "Generating declarations..."
  let text ← writeModule around
    { schema, options := r.options, templates := r.templates, pipeline } path
  if r.verbose then echo around s!"  Lines: {Text.countLines text}"
  echo around ("Done! Generated declarations in " ++ path)

def run (around : Surroundings) (arguments : List String) : Action Unit := do
  match readRequest around (← get).tree arguments with
  | .ok request => perform around request
  | .error stop => throw stop

end Generate
end CommandLine
end FlowDecl
