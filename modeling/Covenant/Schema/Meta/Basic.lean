import Covenant.Json.Value

/-!
# Building meta-schema documents

Small constructors for the schema documents that describe schemas: a reference, a typed
schema, a list of type names, a number. Only members that constrain values are written;
titles, comments, defaults and vocabulary lists constrain nothing.
-/

namespace Covenant.Schema.Meta

/-- A schema holding only `$ref`. -/
def ref (target : String) : Json := .obj [("$ref", .str target)]

/-- A schema holding only `type`. -/
def typed (name : String) : Json := .obj [("type", .str name)]

/-- A `type` value naming several types. -/
def types (names : List String) : Json := .arr (names.map Json.str)

/-- A non-negative whole number. -/
def count (n : Nat) : Json := .num (.nat n)

/-- The seven type names. -/
def simpleTypeNames : List String :=
  ["array", "boolean", "integer", "null", "number", "object", "string"]

/-- The `type` keyword's own schema: one type name, or a non-empty list of distinct names,
where `names` is a schema for one name. -/
def typeKeyword (names : Json) : Json :=
  .obj [("anyOf", .arr [names,
    .obj [("type", .str "array"), ("items", names), ("minItems", count 1),
      ("uniqueItems", .bool true)]])]

/-- An object whose members all satisfy `each`. -/
def mapOf (each : Json) : Json := .obj [("type", .str "object"), ("additionalProperties", each)]

/-- A non-empty array whose items all satisfy `each`. -/
def listOf (each : Json) : Json :=
  .obj [("type", .str "array"), ("minItems", count 1), ("items", each)]

end Covenant.Schema.Meta
