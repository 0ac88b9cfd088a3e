import FlowDecl.Sdl.Syntax

/-!
# Standard types and directives

The scalars, the types of introspection and the directives that every schema has without defining
them.
-/

namespace FlowDecl
namespace Sdl

def standardScalars : List TypeDecl :=
  [("String", "The `String` scalar type represents textual data, represented as UTF-8 character sequences. The String type is most often used by GraphQL to represent free-form human-readable text."),
    ("Int", "The `Int` scalar type represents non-fractional signed whole numeric values. Int can represent values between -(2^31) and 2^31 - 1."),
    ("Float", "The `Float` scalar type represents signed double-precision fractional values as specified by [IEEE 754](https://en.wikipedia.org/wiki/IEEE_floating_point)."),
    ("Boolean", "The `Boolean` scalar type represents `true` or `false`."),
    ("ID", "The `ID` scalar type represents a unique identifier, often used to refetch an object or as key for a cache. The ID type appears in a JSON response as a String; however, it is not intended to be human-readable. When expected as an input type, any string (such as `\"4\"`) or integer (such as `4`) input value will be accepted as an ID.")].map
    fun (name, description) => { name, description := some description, shape := .scalar }

/-- A type that must be given. -/
def TypeExpr.required (name : String) : TypeExpr :=
  .nonNull (.named name)

def TypeExpr.listOf (name : String) : TypeExpr :=
  .list (.required name)

/-- A field without arguments. -/
def FieldDef.plain (name : String) (type : TypeExpr) : FieldDef :=
  { name, type }

/-- A field that leaves out what is deprecated unless it is asked for. -/
def FieldDef.withDeprecated (name : String) (type : TypeExpr) : FieldDef :=
  { name, type
    arguments :=
      [{ name := "includeDeprecated"
         type := .required "Boolean"
         initial := some (.boolean false) }] }

/-- The places where a directive may stand. -/
def directiveLocations : List String :=
  ["QUERY", "MUTATION", "SUBSCRIPTION", "FIELD", "FRAGMENT_DEFINITION", "FRAGMENT_SPREAD",
    "INLINE_FRAGMENT", "VARIABLE_DEFINITION", "FRAGMENT_VARIABLE_DEFINITION", "SCHEMA", "SCALAR",
    "OBJECT", "FIELD_DEFINITION", "ARGUMENT_DEFINITION", "INTERFACE", "UNION", "ENUM", "ENUM_VALUE",
    "INPUT_OBJECT", "INPUT_FIELD_DEFINITION", "DIRECTIVE_DEFINITION"]

def introspectionTypes : List TypeDecl :=
  [{ name := "__Schema"
     description := some "A GraphQL Schema defines the capabilities of a GraphQL server. It exposes all available types and directives on the server, as well as the entry points for query, mutation, and subscription operations."
     shape := .object [] [
      .plain "description" (.named "String"),
      .plain "types" (.nonNull (.listOf "__Type")),
      .plain "queryType" (.required "__Type"),
      .plain "mutationType" (.named "__Type"),
      .plain "subscriptionType" (.named "__Type"),
      .withDeprecated "directives" (.nonNull (.listOf "__Directive"))] },
    { name := "__Type"
      description := some "The fundamental unit of any GraphQL Schema is the type. There are many kinds of types in GraphQL as represented by the `__TypeKind` enum.\n\nDepending on the kind of a type, certain fields describe information about that type. Scalar types provide no information beyond a name, description and optional `specifiedByURL`, while Enum types provide their values. Object and Interface types provide the fields they describe. Abstract types, Union and Interface, provide the Object types possible at runtime. List and NonNull types compose other types."
      shape := .object [] [
        .plain "kind" (.required "__TypeKind"),
        .plain "name" (.named "String"),
        .plain "description" (.named "String"),
        .plain "specifiedByURL" (.named "String"),
        .withDeprecated "fields" (.listOf "__Field"),
        .plain "interfaces" (.listOf "__Type"),
        .plain "possibleTypes" (.listOf "__Type"),
        .withDeprecated "enumValues" (.listOf "__EnumValue"),
        .withDeprecated "inputFields" (.listOf "__InputValue"),
        .plain "ofType" (.named "__Type"),
        .plain "isOneOf" (.named "Boolean")] },
    { name := "__TypeKind"
      description := some "An enum describing what kind of type a given `__Type` is."
      shape := .enum (["SCALAR", "OBJECT", "INTERFACE", "UNION", "ENUM", "INPUT_OBJECT", "LIST",
        "NON_NULL"].map fun name => { name }) },
    { name := "__Field"
      description := some "Object and Interface types are described by a list of Fields, each of which has a name, potentially a list of arguments, and a return type."
      shape := .object [] [
        .plain "name" (.required "String"),
        .plain "description" (.named "String"),
        .withDeprecated "args" (.nonNull (.listOf "__InputValue")),
        .plain "type" (.required "__Type"),
        .plain "isDeprecated" (.required "Boolean"),
        .plain "deprecationReason" (.named "String")] },
    { name := "__InputValue"
      description := some "Arguments provided to Fields or Directives and the input fields of an InputObject are represented as Input Values which describe their type and optionally a default value."
      shape := .object [] [
        .plain "name" (.required "String"),
        .plain "description" (.named "String"),
        .plain "type" (.required "__Type"),
        .plain "defaultValue" (.named "String"),
        .plain "isDeprecated" (.required "Boolean"),
        .plain "deprecationReason" (.named "String")] },
    { name := "__EnumValue"
      description := some "One possible value for a given Enum. Enum values are unique values, not a placeholder for a string or numeric value. However an Enum value is returned in a JSON response as a string."
      shape := .object [] [
        .plain "name" (.required "String"),
        .plain "description" (.named "String"),
        .plain "isDeprecated" (.required "Boolean"),
        .plain "deprecationReason" (.named "String")] },
    { name := "__Directive"
      description := some "A Directive provides a way to describe alternate runtime execution and type validation behavior in a GraphQL document.\n\nIn some cases, you need to provide options to alter GraphQL's execution behavior in ways field arguments will not suffice, such as conditionally including or skipping a field. Directives provide this by describing additional information to the executor."
      shape := .object [] [
        .plain "name" (.required "String"),
        .plain "description" (.named "String"),
        .plain "isRepeatable" (.required "Boolean"),
        .plain "locations" (.nonNull (.listOf "__DirectiveLocation")),
        .withDeprecated "args" (.nonNull (.listOf "__InputValue")),
        .plain "isDeprecated" (.required "Boolean"),
        .plain "deprecationReason" (.named "String")] },
    { name := "__DirectiveLocation"
      description := some "A Directive can be adjacent to many parts of the GraphQL language, a __DirectiveLocation describes one such possible adjacencies."
      shape := .enum (directiveLocations.map fun name => { name }) }]

def standardTypes : List TypeDecl :=
  standardScalars ++ introspectionTypes

def standardType? (name : String) : Option TypeDecl :=
  standardTypes.find? fun t => t.name = name

def standardDirectives : List DirectiveDecl :=
  [{ name := "include"
     arguments := [{ name := "if", type := .required "Boolean" }]
     locations := ["FIELD", "FRAGMENT_SPREAD", "INLINE_FRAGMENT"] },
    { name := "skip"
      arguments := [{ name := "if", type := .required "Boolean" }]
      locations := ["FIELD", "FRAGMENT_SPREAD", "INLINE_FRAGMENT"] },
    { name := "deprecated"
      arguments :=
        [{ name := "reason"
           type := .required "String"
           initial := some (.text "No longer supported") }]
      locations :=
        ["FIELD_DEFINITION", "ARGUMENT_DEFINITION", "INPUT_FIELD_DEFINITION", "ENUM_VALUE",
          "DIRECTIVE_DEFINITION"] },
    { name := "specifiedBy"
      arguments := [{ name := "url", type := .required "String" }]
      locations := ["SCALAR"] },
    { name := "oneOf", locations := ["INPUT_OBJECT"] }]

end Sdl
end FlowDecl
