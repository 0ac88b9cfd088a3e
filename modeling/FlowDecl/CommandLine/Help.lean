/-!
# Help pages

The pages that tell how the program and its commands are used.
-/

namespace FlowDecl
namespace CommandLine

def programName : String := "main"

def version : String := "0.1.0"

inductive Page where
  | program
  | generate
  | introspect
  deriving DecidableEq, Repr

namespace Page

/-- The words that call what a page is about. -/
def call : Page → String
  | .program => programName
  | .generate => programName ++ " generate"
  | .introspect => programName ++ " introspect"

def arguments : Page → String
  | .program => "[OPTIONS] COMMAND [ARGS]..."
  | .generate => "[OPTIONS] [SCHEMA]"
  | .introspect => "[OPTIONS]"

/-- The line that a page begins with. -/
def usage (page : Page) : String :=
  "Usage: " ++ page.call ++ " " ++ page.arguments

/-- The lines that tell what it does. -/
def description : Page → List String
  | .program =>
    ["Flow type generator for GraphQL schemas.", "",
      "Generate Flow type declarations from GraphQL introspection results."]
  | .generate =>
    ["Generate Flow types from a GraphQL schema.", "",
      "SCHEMA is an introspection result (.json) or a GraphQL SDL file (.graphql,",
      ".graphqls, .gql).", "", "Examples:", "",
      "    gql-flowgen generate schema.json -o types.flow.js", "",
      "    gql-flowgen generate schema.graphql -e -p Gql -i Node,PageInfo", "",
      "    gql-flowgen generate --url https://api.example.com/graphql"]
  | .introspect =>
    ["Save the introspection result of an endpoint as JSON.", "", "Example:", "",
      "    gql-flowgen introspect --url https://api.example.com/graphql -o", "    schema.json"]

/-- An entry of a table: a term and the lines that explain it. -/
abbrev Entry := String × List String

def helpEntry : Entry :=
  ("--help", ["Show this message and exit."])

/-- The entries that both commands share. -/
def endpointEntries : List Entry :=
  [("--bearer-token TEXT", ["Bearer token for the endpoint (env:", "GQL_FLOWGEN_TOKEN)."]),
    ("-H, --http-header TEXT", ["Extra request header as 'Name: value' (repeatable)."]),
    ("--timeout FLOAT", ["Request timeout in seconds.  [default: 30.0]"])]

def options : Page → List Entry
  | .program => [("--version", ["Show the version and exit."]), helpEntry]
  | .generate =>
    [("--url TEXT", ["GraphQL endpoint to introspect instead of reading", "SCHEMA."]),
      ("-o, --output-file FILE",
        ["Output file for the generated declarations.", "[default: graphql-export.flow.js]"]),
      ("-m, --module-name TEXT", ["Name of the export module.  [default: GQL]"]),
      ("-i, --ignored-types TEXT",
        ["Names of types to ignore (comma delimited,", "repeatable)."]),
      ("-e, --export", ["Export the generated types."]),
      ("-p, --post-fix TEXT", ["Suffix added to every generated type name."]),
      ("--exclude-prefix TEXT", ["Drop schema types whose name starts with this", "prefix."]),
      ("--header TEXT", ["Banner text placed above the generated module."]),
      ("--formatter TEXT",
        ["Formatter command reading stdin, e.g. 'prettier", "--parser flow'."]),
      ("--template-dir DIRECTORY", ["Directory with a custom module.js.j2 template."])] ++
      endpointEntries ++ [("-v, --verbose", ["Enable verbose output."]), helpEntry]
  | .introspect =>
    [("--url TEXT", ["GraphQL endpoint to introspect.  [required]"]),
      ("-o, --output FILE", ["Output file for the introspection JSON.  [required]"])] ++
      endpointEntries ++ [helpEntry]

def commands : Page → List Entry
  | .program =>
    [("generate", ["Generate Flow types from a GraphQL schema."]),
      ("introspect", ["Save the introspection result of an endpoint as JSON."])]
  | _ => []

/-- A text with blanks after it up to a width. -/
def padTo (width : Nat) (s : String) : String :=
  s ++ String.ofList (List.replicate (width - s.length) ' ')

/-- The lines of a table, with the explanations side by side. -/
def tableLines (entries : List Entry) : List String :=
  let width := entries.foldl (fun w e => max w e.1.length) 0 + 2
  entries.flatMap fun (term, lines) =>
    match lines with
    | [] => ["  " ++ term]
    | first :: rest =>
      ("  " ++ padTo width term ++ first) :: rest.map fun line => "  " ++ padTo width "" ++ line

/-- A heading and a table, or nothing if the table is empty. -/
def tableBlock (heading : String) (entries : List Entry) : List String :=
  if entries.isEmpty then [] else "" :: heading :: tableLines entries

def indent (line : String) : String :=
  if line = "" then "" else "  " ++ line

def text (page : Page) : String :=
  "\n".intercalate
    ([page.usage, ""] ++ page.description.map indent ++ tableBlock "Options:" page.options ++
      tableBlock "Commands:" page.commands) ++ "\n"

/-- The lines that come before a message about wrong usage. -/
def hint (page : Page) : String :=
  page.usage ++ "\nTry '" ++ page.call ++ " --help' for help.\n\n"

end Page
end CommandLine
end FlowDecl
