import Covenant.Schema.Meta.Basic

/-!
# The meta-schemas of drafts 2019-09 and 2020-12

From 2019-09 on the meta-schema is split by vocabulary: a root document combines, with
`allOf`, one document per vocabulary (core, applicator, validation, ...), each constraining
the keywords it defines. A vocabulary document refers to "any schema" dynamically: in 2019-09
with `$recursiveRef: "#"`, which leads back to the outermost document that set
`$recursiveAnchor`; in 2020-12 with `$dynamicRef: "#meta"`, which is followed like a plain
reference to the `meta` anchor of the document it stands in.

Keywords are listed in the order the published documents list them.
-/

namespace Covenant.Schema.Meta

/-! ## 2019-09 -/

/-- "Any schema" in a 2019-09 vocabulary document. -/
def anySchema2019 : Json := .obj [("$recursiveRef", .str "#")]

/-- The head of a 2019-09 vocabulary document: its location and recursive anchor. -/
def head2019 (name : String) : List (String × Json) :=
  [("$id", .str ("https://json-schema.org/draft/2019-09/" ++ name)),
   ("$recursiveAnchor", .bool true)]

def core2019 : Json := .obj (head2019 "meta/core" ++ [
  ("type", types ["object", "boolean"]),
  ("properties", .obj [
    ("$id", .obj [("type", .str "string"), ("format", .str "uri-reference"),
      ("pattern", .str "^[^#]*#?$")]),
    ("$schema", .obj [("type", .str "string"), ("format", .str "uri")]),
    ("$anchor", .obj [("type", .str "string"), ("pattern", .str "^[A-Za-z][-A-Za-z0-9.:_]*$")]),
    ("$ref", .obj [("type", .str "string"), ("format", .str "uri-reference")]),
    ("$recursiveRef", .obj [("type", .str "string"), ("format", .str "uri-reference")]),
    ("$recursiveAnchor", typed "boolean"),
    ("$vocabulary", .obj [
      ("type", .str "object"),
      ("propertyNames", .obj [("type", .str "string"), ("format", .str "uri")]),
      ("additionalProperties", typed "boolean")]),
    ("$comment", typed "string"),
    ("$defs", mapOf anySchema2019)])])

def applicator2019 : Json := .obj (head2019 "meta/applicator" ++ [
  ("type", types ["object", "boolean"]),
  ("properties", .obj [
    ("additionalItems", anySchema2019),
    ("unevaluatedItems", anySchema2019),
    ("items", .obj [("anyOf", .arr [anySchema2019, ref "#/$defs/schemaArray"])]),
    ("contains", anySchema2019),
    ("additionalProperties", anySchema2019),
    ("unevaluatedProperties", anySchema2019),
    ("properties", mapOf anySchema2019),
    ("patternProperties", .obj [
      ("type", .str "object"), ("additionalProperties", anySchema2019),
      ("propertyNames", .obj [("format", .str "regex")])]),
    ("dependentSchemas", mapOf anySchema2019),
    ("propertyNames", anySchema2019),
    ("if", anySchema2019),
    ("then", anySchema2019),
    ("else", anySchema2019),
    ("allOf", ref "#/$defs/schemaArray"),
    ("anyOf", ref "#/$defs/schemaArray"),
    ("oneOf", ref "#/$defs/schemaArray"),
    ("not", anySchema2019)]),
  ("$defs", .obj [("schemaArray", listOf anySchema2019)])])

def validation2019 : Json := .obj (head2019 "meta/validation" ++ [
  ("type", types ["object", "boolean"]),
  ("properties", .obj [
    ("multipleOf", .obj [("type", .str "number"), ("exclusiveMinimum", count 0)]),
    ("maximum", typed "number"),
    ("exclusiveMaximum", typed "number"),
    ("minimum", typed "number"),
    ("exclusiveMinimum", typed "number"),
    ("maxLength", ref "#/$defs/nonNegativeInteger"),
    ("minLength", ref "#/$defs/nonNegativeIntegerDefault0"),
    ("pattern", .obj [("type", .str "string"), ("format", .str "regex")]),
    ("maxItems", ref "#/$defs/nonNegativeInteger"),
    ("minItems", ref "#/$defs/nonNegativeIntegerDefault0"),
    ("uniqueItems", typed "boolean"),
    ("maxContains", ref "#/$defs/nonNegativeInteger"),
    ("minContains", ref "#/$defs/nonNegativeInteger"),
    ("maxProperties", ref "#/$defs/nonNegativeInteger"),
    ("minProperties", ref "#/$defs/nonNegativeIntegerDefault0"),
    ("required", ref "#/$defs/stringArray"),
    ("dependentRequired", mapOf (ref "#/$defs/stringArray")),
    ("const", .bool true),
    ("enum", .obj [("type", .str "array"), ("items", .bool true)]),
    ("type", typeKeyword (ref "#/$defs/simpleTypes"))]),
  ("$defs", .obj [
    ("nonNegativeInteger", .obj [("type", .str "integer"), ("minimum", count 0)]),
    ("nonNegativeIntegerDefault0", ref "#/$defs/nonNegativeInteger"),
    ("simpleTypes", .obj [("enum", types simpleTypeNames)]),
    ("stringArray", .obj [
      ("type", .str "array"), ("items", typed "string"), ("uniqueItems", .bool true)])])])

def metaData2019 : Json := .obj (head2019 "meta/meta-data" ++ [
  ("type", types ["object", "boolean"]),
  ("properties", .obj [
    ("title", typed "string"),
    ("description", typed "string"),
    ("default", .bool true),
    ("deprecated", typed "boolean"),
    ("readOnly", typed "boolean"),
    ("writeOnly", typed "boolean"),
    ("examples", .obj [("type", .str "array"), ("items", .bool true)])])])

def format2019 : Json := .obj (head2019 "meta/format" ++ [
  ("type", types ["object", "boolean"]),
  ("properties", .obj [("format", typed "string")])])

def content2019 : Json := .obj (head2019 "meta/content" ++ [
  ("type", types ["object", "boolean"]),
  ("properties", .obj [
    ("contentMediaType", typed "string"),
    ("contentEncoding", typed "string"),
    ("contentSchema", anySchema2019)])])

/-- The root document of 2019-09. -/
def root2019 : Json := .obj (head2019 "schema" ++ [
  ("allOf", .arr [ref "meta/core", ref "meta/applicator", ref "meta/validation",
    ref "meta/meta-data", ref "meta/format", ref "meta/content"]),
  ("type", types ["object", "boolean"]),
  ("properties", .obj [
    ("definitions", mapOf anySchema2019),
    ("dependencies", mapOf (.obj [("anyOf", .arr [
      anySchema2019, ref "meta/validation#/$defs/stringArray"])]))])])

/-! ## 2020-12 -/

/-- "Any schema" in a 2020-12 vocabulary document. -/
def anySchema2020 : Json := .obj [("$dynamicRef", .str "#meta")]

/-- The head of a 2020-12 document: its location and its `meta` anchor. -/
def head2020 (name : String) : List (String × Json) :=
  [("$id", .str ("https://json-schema.org/draft/2020-12/" ++ name)),
   ("$dynamicAnchor", .str "meta")]

def core2020 : Json := .obj (head2020 "meta/core" ++ [
  ("type", types ["object", "boolean"]),
  ("properties", .obj [
    ("$id", .obj [("$ref", .str "#/$defs/uriReferenceString"), ("pattern", .str "^[^#]*#?$")]),
    ("$schema", ref "#/$defs/uriString"),
    ("$ref", ref "#/$defs/uriReferenceString"),
    ("$anchor", ref "#/$defs/anchorString"),
    ("$dynamicRef", ref "#/$defs/uriReferenceString"),
    ("$dynamicAnchor", ref "#/$defs/anchorString"),
    ("$vocabulary", .obj [
      ("type", .str "object"),
      ("propertyNames", ref "#/$defs/uriString"),
      ("additionalProperties", typed "boolean")]),
    ("$comment", typed "string"),
    ("$defs", mapOf anySchema2020)]),
  ("$defs", .obj [
    ("anchorString", .obj [("type", .str "string"), ("pattern", .str "^[A-Za-z_][-A-Za-z0-9._]*$")]),
    ("uriString", .obj [("type", .str "string"), ("format", .str "uri")]),
    ("uriReferenceString", .obj [("type", .str "string"), ("format", .str "uri-reference")])])])

def applicator2020 : Json := .obj (head2020 "meta/applicator" ++ [
  ("type", types ["object", "boolean"]),
  ("properties", .obj [
    ("prefixItems", ref "#/$defs/schemaArray"),
    ("items", anySchema2020),
    ("contains", anySchema2020),
    ("additionalProperties", anySchema2020),
    ("properties", mapOf anySchema2020),
    ("patternProperties", .obj [
      ("type", .str "object"), ("additionalProperties", anySchema2020),
      ("propertyNames", .obj [("format", .str "regex")])]),
    ("dependentSchemas", mapOf anySchema2020),
    ("propertyNames", anySchema2020),
    ("if", anySchema2020),
    ("then", anySchema2020),
    ("else", anySchema2020),
    ("allOf", ref "#/$defs/schemaArray"),
    ("anyOf", ref "#/$defs/schemaArray"),
    ("oneOf", ref "#/$defs/schemaArray"),
    ("not", anySchema2020)]),
  ("$defs", .obj [("schemaArray", listOf anySchema2020)])])

def unevaluated2020 : Json := .obj (head2020 "meta/unevaluated" ++ [
  ("type", types ["object", "boolean"]),
  ("properties", .obj [
    ("unevaluatedItems", anySchema2020),
    ("unevaluatedProperties", anySchema2020)])])

def validation2020 : Json := .obj (head2020 "meta/validation" ++ [
  ("type", types ["object", "boolean"]),
  ("properties", .obj [
    ("type", typeKeyword (ref "#/$defs/simpleTypes")),
    ("const", .bool true),
    ("enum", .obj [("type", .str "array"), ("items", .bool true)]),
    ("multipleOf", .obj [("type", .str "number"), ("exclusiveMinimum", count 0)]),
    ("maximum", typed "number"),
    ("exclusiveMaximum", typed "number"),
    ("minimum", typed "number"),
    ("exclusiveMinimum", typed "number"),
    ("maxLength", ref "#/$defs/nonNegativeInteger"),
    ("minLength", ref "#/$defs/nonNegativeIntegerDefault0"),
    ("pattern", .obj [("type", .str "string"), ("format", .str "regex")]),
    ("maxItems", ref "#/$defs/nonNegativeInteger"),
    ("minItems", ref "#/$defs/nonNegativeIntegerDefault0"),
    ("uniqueItems", typed "boolean"),
    ("maxContains", ref "#/$defs/nonNegativeInteger"),
    ("minContains", ref "#/$defs/nonNegativeInteger"),
    ("maxProperties", ref "#/$defs/nonNegativeInteger"),
    ("minProperties", ref "#/$defs/nonNegativeIntegerDefault0"),
    ("required", ref "#/$defs/stringArray"),
    ("dependentRequired", mapOf (ref "#/$defs/stringArray"))]),
  ("$defs", .obj [
    ("nonNegativeInteger", .obj [("type", .str "integer"), ("minimum", count 0)]),
    ("nonNegativeIntegerDefault0", ref "#/$defs/nonNegativeInteger"),
    ("simpleTypes", .obj [("enum", types simpleTypeNames)]),
    ("stringArray", .obj [
      ("type", .str "array"), ("items", typed "string"), ("uniqueItems", .bool true)])])])

def metaData2020 : Json := .obj (head2020 "meta/meta-data" ++ [
  ("type", types ["object", "boolean"]),
  ("properties", .obj [
    ("title", typed "string"),
    ("description", typed "string"),
    ("default", .bool true),
    ("deprecated", typed "boolean"),
    ("readOnly", typed "boolean"),
    ("writeOnly", typed "boolean"),
    ("examples", .obj [("type", .str "array"), ("items", .bool true)])])])

def formatAnnotation2020 : Json := .obj (head2020 "meta/format-annotation" ++ [
  ("type", types ["object", "boolean"]),
  ("properties", .obj [("format", typed "string")])])

def content2020 : Json := .obj (head2020 "meta/content" ++ [
  ("type", types ["object", "boolean"]),
  ("properties", .obj [
    ("contentEncoding", typed "string"),
    ("contentMediaType", typed "string"),
    ("contentSchema", anySchema2020)])])

/-- The root document of 2020-12: every vocabulary, and the keywords kept from earlier
drafts. -/
def root2020 : Json := .obj (head2020 "schema" ++ [
  ("allOf", .arr [ref "meta/core", ref "meta/applicator", ref "meta/unevaluated",
    ref "meta/validation", ref "meta/meta-data", ref "meta/format-annotation",
    ref "meta/content"]),
  ("type", types ["object", "boolean"]),
  ("properties", .obj [
    ("definitions", mapOf anySchema2020),
    ("dependencies", mapOf (.obj [("anyOf", .arr [
      anySchema2020, ref "meta/validation#/$defs/stringArray"])])),
    ("$recursiveAnchor", ref "meta/core#/$defs/anchorString"),
    ("$recursiveRef", ref "meta/core#/$defs/uriReferenceString")])])

end Covenant.Schema.Meta
