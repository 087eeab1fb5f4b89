import Covenant.Schema.Meta.Basic

/-!
# The meta-schemas of drafts 4, 6 and 7

Each of these drafts describes schemas with one self-contained document: every subschema
position refers back to the whole document with `#`, and shared pieces sit under
`definitions`. Draft 4 takes only objects as schemas and writes exclusive bounds as
booleans beside `minimum` and `maximum`; drafts 6 and 7 also take booleans, make the
exclusive bounds numbers, and add `const`, `contains` and `propertyNames`. Draft 7 adds
`if`/`then`/`else` and the content keywords.

Keywords are listed in the order the published documents list them, since a schema is
checked keyword by keyword and the first failure is the one reported.
-/

namespace Covenant.Schema.Meta

/-- The definitions shared by drafts 6 and 7. -/
def classicDefinitions : Json := .obj [
  ("schemaArray", listOf (ref "#")),
  ("nonNegativeInteger", .obj [("type", .str "integer"), ("minimum", count 0)]),
  ("nonNegativeIntegerDefault0", .obj [("allOf", .arr [ref "#/definitions/nonNegativeInteger"])]),
  ("simpleTypes", .obj [("enum", types simpleTypeNames)]),
  ("stringArray", .obj [
    ("type", .str "array"), ("items", typed "string"), ("uniqueItems", .bool true)])]

/-- The meta-schema of draft 4. -/
def draft4 : Json := .obj [
  ("id", .str "http://json-schema.org/draft-04/schema#"),
  ("definitions", .obj [
    ("schemaArray", listOf (ref "#")),
    ("positiveInteger", .obj [("type", .str "integer"), ("minimum", count 0)]),
    ("positiveIntegerDefault0", .obj [("allOf", .arr [ref "#/definitions/positiveInteger"])]),
    ("simpleTypes", .obj [("enum", types simpleTypeNames)]),
    ("stringArray", .obj [
      ("type", .str "array"), ("items", typed "string"), ("minItems", count 1),
      ("uniqueItems", .bool true)])]),
  ("type", .str "object"),
  ("properties", .obj [
    ("id", typed "string"),
    ("$schema", typed "string"),
    ("title", typed "string"),
    ("description", typed "string"),
    ("default", .obj []),
    ("multipleOf", .obj [
      ("type", .str "number"), ("minimum", count 0), ("exclusiveMinimum", .bool true)]),
    ("maximum", typed "number"),
    ("exclusiveMaximum", typed "boolean"),
    ("minimum", typed "number"),
    ("exclusiveMinimum", typed "boolean"),
    ("maxLength", ref "#/definitions/positiveInteger"),
    ("minLength", ref "#/definitions/positiveIntegerDefault0"),
    ("pattern", .obj [("type", .str "string"), ("format", .str "regex")]),
    ("additionalItems", .obj [("anyOf", .arr [typed "boolean", ref "#"])]),
    ("items", .obj [("anyOf", .arr [ref "#", ref "#/definitions/schemaArray"])]),
    ("maxItems", ref "#/definitions/positiveInteger"),
    ("minItems", ref "#/definitions/positiveIntegerDefault0"),
    ("uniqueItems", typed "boolean"),
    ("maxProperties", ref "#/definitions/positiveInteger"),
    ("minProperties", ref "#/definitions/positiveIntegerDefault0"),
    ("required", ref "#/definitions/stringArray"),
    ("additionalProperties", .obj [("anyOf", .arr [typed "boolean", ref "#"])]),
    ("definitions", mapOf (ref "#")),
    ("properties", mapOf (ref "#")),
    ("patternProperties", mapOf (ref "#")),
    ("dependencies", mapOf (.obj [("anyOf", .arr [ref "#", ref "#/definitions/stringArray"])])),
    ("enum", .obj [("type", .str "array"), ("minItems", count 1), ("uniqueItems", .bool true)]),
    ("type", typeKeyword (ref "#/definitions/simpleTypes")),
    ("format", typed "string"),
    ("allOf", ref "#/definitions/schemaArray"),
    ("anyOf", ref "#/definitions/schemaArray"),
    ("oneOf", ref "#/definitions/schemaArray"),
    ("not", ref "#")]),
  ("dependencies", .obj [
    ("exclusiveMaximum", types ["maximum"]),
    ("exclusiveMinimum", types ["minimum"])])]

/-- The meta-schema of draft 6. -/
def draft6 : Json := .obj [
  ("$id", .str "http://json-schema.org/draft-06/schema#"),
  ("definitions", classicDefinitions),
  ("type", types ["object", "boolean"]),
  ("properties", .obj [
    ("$id", .obj [("type", .str "string"), ("format", .str "uri-reference")]),
    ("$schema", .obj [("type", .str "string"), ("format", .str "uri")]),
    ("$ref", .obj [("type", .str "string"), ("format", .str "uri-reference")]),
    ("title", typed "string"),
    ("description", typed "string"),
    ("default", .obj []),
    ("examples", .obj [("type", .str "array"), ("items", .obj [])]),
    ("multipleOf", .obj [("type", .str "number"), ("exclusiveMinimum", count 0)]),
    ("maximum", typed "number"),
    ("exclusiveMaximum", typed "number"),
    ("minimum", typed "number"),
    ("exclusiveMinimum", typed "number"),
    ("maxLength", ref "#/definitions/nonNegativeInteger"),
    ("minLength", ref "#/definitions/nonNegativeIntegerDefault0"),
    ("pattern", .obj [("type", .str "string"), ("format", .str "regex")]),
    ("additionalItems", ref "#"),
    ("items", .obj [("anyOf", .arr [ref "#", ref "#/definitions/schemaArray"])]),
    ("maxItems", ref "#/definitions/nonNegativeInteger"),
    ("minItems", ref "#/definitions/nonNegativeIntegerDefault0"),
    ("uniqueItems", typed "boolean"),
    ("contains", ref "#"),
    ("maxProperties", ref "#/definitions/nonNegativeInteger"),
    ("minProperties", ref "#/definitions/nonNegativeIntegerDefault0"),
    ("required", ref "#/definitions/stringArray"),
    ("additionalProperties", ref "#"),
    ("definitions", mapOf (ref "#")),
    ("properties", mapOf (ref "#")),
    ("patternProperties", mapOf (ref "#")),
    ("dependencies", mapOf (.obj [("anyOf", .arr [ref "#", ref "#/definitions/stringArray"])])),
    ("propertyNames", ref "#"),
    ("const", .obj []),
    ("enum", .obj [("type", .str "array"), ("minItems", count 1), ("uniqueItems", .bool true)]),
    ("type", typeKeyword (ref "#/definitions/simpleTypes")),
    ("format", typed "string"),
    ("allOf", ref "#/definitions/schemaArray"),
    ("anyOf", ref "#/definitions/schemaArray"),
    ("oneOf", ref "#/definitions/schemaArray"),
    ("not", ref "#")])]

/-- The meta-schema of draft 7. -/
def draft7 : Json := .obj [
  ("$id", .str "http://json-schema.org/draft-07/schema#"),
  ("definitions", classicDefinitions),
  ("type", types ["object", "boolean"]),
  ("properties", .obj [
    ("$id", .obj [("type", .str "string"), ("format", .str "uri-reference")]),
    ("$schema", .obj [("type", .str "string"), ("format", .str "uri")]),
    ("$ref", .obj [("type", .str "string"), ("format", .str "uri-reference")]),
    ("$comment", typed "string"),
    ("title", typed "string"),
    ("description", typed "string"),
    ("default", .bool true),
    ("readOnly", typed "boolean"),
    ("writeOnly", typed "boolean"),
    ("examples", .obj [("type", .str "array"), ("items", .bool true)]),
    ("multipleOf", .obj [("type", .str "number"), ("exclusiveMinimum", count 0)]),
    ("maximum", typed "number"),
    ("exclusiveMaximum", typed "number"),
    ("minimum", typed "number"),
    ("exclusiveMinimum", typed "number"),
    ("maxLength", ref "#/definitions/nonNegativeInteger"),
    ("minLength", ref "#/definitions/nonNegativeIntegerDefault0"),
    ("pattern", .obj [("type", .str "string"), ("format", .str "regex")]),
    ("additionalItems", ref "#"),
    ("items", .obj [("anyOf", .arr [ref "#", ref "#/definitions/schemaArray"])]),
    ("maxItems", ref "#/definitions/nonNegativeInteger"),
    ("minItems", ref "#/definitions/nonNegativeIntegerDefault0"),
    ("uniqueItems", typed "boolean"),
    ("contains", ref "#"),
    ("maxProperties", ref "#/definitions/nonNegativeInteger"),
    ("minProperties", ref "#/definitions/nonNegativeIntegerDefault0"),
    ("required", ref "#/definitions/stringArray"),
    ("additionalProperties", ref "#"),
    ("definitions", mapOf (ref "#")),
    ("properties", mapOf (ref "#")),
    ("patternProperties", .obj [
      ("type", .str "object"), ("additionalProperties", ref "#"),
      ("propertyNames", .obj [("format", .str "regex")])]),
    ("dependencies", mapOf (.obj [("anyOf", .arr [ref "#", ref "#/definitions/stringArray"])])),
    ("propertyNames", ref "#"),
    ("const", .bool true),
    ("enum", .obj [("type", .str "array"), ("items", .bool true)]),
    ("type", typeKeyword (ref "#/definitions/simpleTypes")),
    ("format", typed "string"),
    ("contentMediaType", typed "string"),
    ("contentEncoding", typed "string"),
    ("if", ref "#"),
    ("then", ref "#"),
    ("else", ref "#"),
    ("allOf", ref "#/definitions/schemaArray"),
    ("anyOf", ref "#/definitions/schemaArray"),
    ("oneOf", ref "#/definitions/schemaArray"),
    ("not", ref "#")])]

end Covenant.Schema.Meta
