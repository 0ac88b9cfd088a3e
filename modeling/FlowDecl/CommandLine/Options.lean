import FlowDecl.CommandLine.Session
import FlowDecl.Decimal.Reading

/-!
# Options of the commands

The options that the commands take, and the checks on their values.  Values are checked in the
order in which the options are given; the positional argument comes after them, and after it the
options that are not given.
-/

namespace FlowDecl
namespace CommandLine

/-- The options, and the positional argument that names a schema. -/
inductive OptionKey where
  | schema
  | url
  | outputFile
  | output
  | moduleName
  | ignoredTypes
  | exported
  | suffix
  | excluded
  | banner
  | formatter
  | templates
  | bearerToken
  | httpHeader
  | timeout
  | verbose
  | version
  | help
  deriving DecidableEq, Repr

def helpForm : OptionForm OptionKey :=
  { key := .help, long := "--help", takesValue := false }

def programForms : List (OptionForm OptionKey) :=
  [{ key := .version, long := "--version", takesValue := false }, helpForm]

/-- The options that both commands share. -/
def endpointForms : List (OptionForm OptionKey) :=
  [{ key := .bearerToken, long := "--bearer-token" },
    { key := .httpHeader, long := "--http-header", short := some 'H' },
    { key := .timeout, long := "--timeout" }]

/-- The option for the file that declarations are written to. -/
def outputFileForm : OptionForm OptionKey :=
  { key := .outputFile, long := "--output-file", short := some 'o' }

/-- The option for the file that a document is written to. -/
def outputForm : OptionForm OptionKey :=
  { key := .output, long := "--output", short := some 'o' }

def urlForm : OptionForm OptionKey :=
  { key := .url, long := "--url" }

def templatesForm : OptionForm OptionKey :=
  { key := .templates, long := "--template-dir" }

/-- The options of the command that generates declarations. -/
def generateForms : List (OptionForm OptionKey) :=
  [urlForm, outputFileForm,
    { key := .moduleName, long := "--module-name", short := some 'm' },
    { key := .ignoredTypes, long := "--ignored-types", short := some 'i' },
    { key := .exported, long := "--export", short := some 'e', takesValue := false },
    { key := .suffix, long := "--post-fix", short := some 'p' },
    { key := .excluded, long := "--exclude-prefix" },
    { key := .banner, long := "--header" },
    { key := .formatter, long := "--formatter" }, templatesForm] ++
  endpointForms ++
  [{ key := .verbose, long := "--verbose", short := some 'v', takesValue := false }, helpForm]

/-- The options of the command that saves a document. -/
def introspectForms : List (OptionForm OptionKey) :=
  [urlForm, outputForm] ++ endpointForms ++ [helpForm]

/-- The names of an option as messages show them. -/
def OptionForm.hint {κ : Type} (f : OptionForm κ) : String :=
  Text.quoted f.long ++
    match f.short with
    | some c => " / " ++ Text.quoted (String.ofList ['-', c])
    | none => ""

/-- The name of the positional argument as messages show it. -/
def schemaHint : String := "'[SCHEMA]'"

/-- The name of the option for a time as messages show it. -/
def timeoutHint : String := "'--timeout'"

/-- The seconds that a request may take if nothing is said. -/
def standardTimeout : Decimal.Binary64 := .ofDecimal false 30 0

def refuseValue (page : Page) (hint words : String) : Stop :=
  .usage page (invalidValue hint words)

/-- What stands at a path that is given, if something does.  Looking at a path with a null character
is a failure of the session. -/
def lookAt (tree : Files.Tree) (path : String) : Except Stop (Option Files.Node) :=
  match tree.stat path with
  | .ok node => .ok (some node)
  | .error .nullCharacter => .error (.crash (.file ⟨.nullCharacter, path⟩))
  | .error _ => .ok none

/-- Checks a path to a file; the file may be missing unless it is wanted. -/
def checkFile (page : Page) (tree : Files.Tree) (wanted : Bool) (hint path : String) :
    Except Stop Unit := do
  match ← lookAt tree path with
  | none =>
    if wanted then
      throw (refuseValue page hint ("File " ++ Text.quoted path ++ " does not exist."))
  | some .directory =>
    throw (refuseValue page hint ("File " ++ Text.quoted path ++ " is a directory."))
  | some (.file _) => return

def checkDirectory (page : Page) (tree : Files.Tree) (hint path : String) : Except Stop Unit := do
  match ← lookAt tree path with
  | none => throw (refuseValue page hint ("Directory " ++ Text.quoted path ++ " does not exist."))
  | some .directory => return
  | some (.file _) =>
    throw (refuseValue page hint ("Directory " ++ Text.quoted path ++ " is a file."))

def readTimeout (page : Page) : Option String → Except Stop Decimal.Binary64
  | none => .ok standardTimeout
  | some text =>
    match Decimal.ofText? text with
    | some seconds => .ok seconds
    | none => .error (refuseValue page timeoutHint (Text.quoted text ++ " is not a valid float."))

/-- A value that has to be given. -/
def required (page : Page) (f : OptionForm OptionKey) : Option String → Except Stop String
  | some value => .ok value
  | none => .error (.usage page ("Missing option " ++ f.hint ++ "."))

/-- The message for positional arguments that nothing is done with. -/
def extraMessage : List String → String
  | [extra] => "Got unexpected extra argument (" ++ extra ++ ")"
  | extras => "Got unexpected extra arguments (" ++ " ".intercalate extras ++ ")"

structure EndpointRequest where
  token : Option String := none
  headers : List String := []
  timeout : Decimal.Binary64 := standardTimeout

def given (text : Option String) : Option String :=
  text.filter (· != "")

/-- Reads the options that both commands share; a token that is not given is taken from the
surroundings. -/
def readEndpoint (page : Page) (around : Surroundings) (g : Given OptionKey) :
    Except Stop EndpointRequest := do
  let timeout ← readTimeout page (g.value? .timeout)
  let token := g.value? .bearerToken <|> given around.token
  return { token, headers := g.values .httpHeader, timeout }

/-- Reads the arguments of a command, shows its page if that is asked for, checks the values and
refuses positional arguments beyond the first `allowed`. -/
def readCommand (page : Page) (forms : List (OptionForm OptionKey)) (allowed : Nat)
    (check : Given OptionKey → OptionKey → Except Stop Unit) (arguments : List String) :
    Except Stop (Given OptionKey) := do
  let g ← (Arguments.read forms true arguments).mapError (argumentStop page)
  if g.has .help then throw (.shown page.text)
  let keys := .schema :: forms.map (·.key)
  (g.checkOrder keys).forM (check g)
  let extras := g.positional.drop allowed
  if extras.isEmpty then return g else throw (.usage page (extraMessage extras))

/-- Takes a checked value. -/
def orUsage {α : Type} (page : Page) (x : Except String α) : Action α :=
  match x with
  | .ok a => return a
  | .error message => failUsage page message

def fetchDocument (around : Surroundings) (page : Page) (url : String)
    (credentials : Endpoint.Credentials) (timeout : Decimal.Binary64) : Action Json.Value := do
  let client : Endpoint.Client := { url, credentials, timeout }
  modify fun s => { s with clients := s.clients ++ [client] }
  match client.fetch around.decoder (around.endpoint client) with
  | .ok document => return document
  | .error fault =>
    if fault.isReported then
      failUsage page ("Cannot introspect " ++ url ++ ": " ++ fault.message)
    else throw (.crash (.fetch fault))

def readCredentials (page : Page) (r : EndpointRequest) : Action Endpoint.Credentials :=
  orUsage page ((Endpoint.Credentials.ofTexts r.token r.headers).mapError fun fault =>
    invalidValue "--http-header" fault.message)

end CommandLine
end FlowDecl
