import FlowDecl.Schema.Basic

/-!
# The introspection query

The query that asks an endpoint for its schema.  It is built from lines, and its blocks are
indented by two blanks for each level.
-/

namespace FlowDecl
namespace Endpoint
namespace Query

/-- A line one level deeper; an empty line stays empty. -/
def indent (line : String) : String :=
  if line = "" then "" else "  " ++ line

/-- A block: a heading and the indented lines between braces. -/
def block (heading : String) (lines : List String) : List String :=
  (heading ++ " \x7b") :: lines.map indent ++ ["\x7d"]

def inlineBlock (heading content : String) : String :=
  heading ++ " \x7b " ++ content ++ " \x7d"

def stepLines : Nat → List String
  | 0 => []
  | n + 1 => block "ofType" (["name", "kind"] ++ stepLines n)

/-- The lines that ask for the arguments of a field or a directive. -/
def argumentLines : List String :=
  block "args" ["...InputValue"]

def queryLines : List String :=
  block "query IntrospectionQuery" <|
    block "__schema" <|
      ["", inlineBlock "queryType" "name kind", inlineBlock "mutationType" "name kind",
        inlineBlock "subscriptionType" "name kind"] ++
      block "types" ["...FullType"] ++
      block "directives"
        (["name", "description", "", "", "", "locations"] ++ argumentLines)

def typeLines : List String :=
  block "fragment FullType on __Type" <|
    ["kind", "name", "description", "", ""] ++
    block "fields(includeDeprecated: true)"
      (["name", "description"] ++ argumentLines ++ block "type" ["...TypeRef"] ++
        ["isDeprecated", "deprecationReason"]) ++
    block "inputFields" ["...InputValue"] ++
    block "interfaces" ["...TypeRef"] ++
    block "enumValues(includeDeprecated: true)"
      ["name", "description", "isDeprecated", "deprecationReason"] ++
    block "possibleTypes" ["...TypeRef"]

def inputLines : List String :=
  block "fragment InputValue on __InputValue"
    ["name", "description", inlineBlock "type" "...TypeRef", "defaultValue", "", ""]

def referenceLines : List String :=
  block "fragment TypeRef on __Type" (["kind", "name"] ++ stepLines queriedSteps)

def text : String :=
  "\n".intercalate ([""] ++ queryLines ++ [""] ++ typeLines ++ [""] ++ inputLines ++ [""] ++
    referenceLines ++ [""])

end Query
end Endpoint
end FlowDecl
