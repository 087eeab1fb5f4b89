import Covenant.Json.Value

/-!
# Drafts of JSON Schema

A schema is read under one of five drafts: 4, 6, 7, 2019-09 or 2020-12. The root's `$schema`
names the draft by the location of its meta-schema (a trailing `#` does not count); a schema
without a `$schema` text is read under 2020-12, and one naming any other location is refused.

The drafts differ in what identifies a subschema and what embeds one:

* an identifier is `id` in draft 4 and `$id` later; in drafts up to 7 it is ignored beside
  `$ref`, and one that starts with `#` names an anchor instead of a location;
* anchors are `$anchor` from 2019-09 on, and also `$dynamicAnchor` in 2020-12;
* the keywords that hold subschemas grow from draft to draft (`Draft.subschemas`).
-/

namespace Covenant.Schema

/-- A draft of JSON Schema, oldest first. -/
inductive Draft where
  | draft4
  | draft6
  | draft7
  | draft2019
  | draft2020
  deriving DecidableEq, Repr, Inhabited

/-- The place of a draft among the others, oldest first. -/
def Draft.rank : Draft → Nat
  | .draft4 => 4
  | .draft6 => 6
  | .draft7 => 7
  | .draft2019 => 2019
  | .draft2020 => 2020

/-- Whether a draft is `d` or later. -/
def Draft.atLeast (self d : Draft) : Bool := d.rank ≤ self.rank

/-- The location of a draft's meta-schema. -/
def Draft.location : Draft → String
  | .draft4 => "http://json-schema.org/draft-04/schema"
  | .draft6 => "http://json-schema.org/draft-06/schema"
  | .draft7 => "http://json-schema.org/draft-07/schema"
  | .draft2019 => "https://json-schema.org/draft/2019-09/schema"
  | .draft2020 => "https://json-schema.org/draft/2020-12/schema"

def Draft.all : List Draft := [.draft4, .draft6, .draft7, .draft2019, .draft2020]

/-- A text without its trailing `#` characters. -/
def trimHashes (s : String) : String := String.ofList (s.toList.reverse.dropWhile (· == '#')).reverse

/-- The draft whose meta-schema a `$schema` text names. -/
def Draft.ofLocation? (text : String) : Option Draft :=
  let trimmed := trimHashes text
  Draft.all.find? (·.location == trimmed)

/-- The draft a schema declares with `$schema`, or `fallback` when it declares none; a
location of no known draft is refused. -/
def Draft.detect (fallback : Draft) (schema : Json) : Except String Draft :=
  match schema with
  | .obj fields =>
    match fields.lookup "$schema" with
    | some (.str text) =>
      match Draft.ofLocation? text with
      | some d => .ok d
      | none =>
        let trimmed := trimHashes text
        .error s!"Unknown specification: {trimmed}"
    | _ => .ok fallback
  | _ => .ok fallback

/-- Whether `$ref` hides the other keywords of its schema, as it does up to draft 7. -/
def Draft.refHidesSiblings (d : Draft) : Bool := !d.atLeast .draft2019

/-- Whether the `format` keyword is checked rather than only noted, as it is up to draft 7. -/
def Draft.assertsFormats (d : Draft) : Bool := !d.atLeast .draft2019

/-- The identifier keyword of a draft. -/
def Draft.idKeyword (d : Draft) : String := if d == .draft4 then "id" else "$id"

/-- The location a schema object declares for itself, without trailing `#`: up to draft 7 an
identifier beside `$ref` or starting with `#` declares none. -/
def Draft.idOf (d : Draft) (schema : Json) : Option String :=
  match schema with
  | .obj fields =>
    match fields.lookup d.idKeyword with
    | some (.str id) =>
      if d.refHidesSiblings && ((fields.lookup "$ref").isSome || id.startsWith "#") then none
      else some (trimHashes id)
    | _ => none
  | _ => none

/-- The anchor names a schema object declares. -/
def Draft.anchorsOf (d : Draft) (schema : Json) : List String :=
  match schema with
  | .obj fields =>
    let named (key : String) : List String :=
      match fields.lookup key with
      | some (.str name) => [name]
      | _ => []
    if d.refHidesSiblings then
      match fields.lookup d.idKeyword with
      | some (.str id) => if id.startsWith "#" then [String.ofList (id.toList.drop 1)] else []
      | _ => []
    else if d == .draft2019 then named "$anchor"
    else named "$anchor" ++ named "$dynamicAnchor"
  | _ => []

/-- The keywords whose value is one subschema. -/
def Draft.singleKeywords : Draft → List String
  | .draft4 => ["additionalItems", "additionalProperties", "not"]
  | .draft6 => ["additionalItems", "additionalProperties", "contains", "not", "propertyNames"]
  | .draft7 =>
    ["additionalItems", "additionalProperties", "contains", "else", "if", "not", "propertyNames",
     "then"]
  | .draft2019 =>
    ["additionalItems", "additionalProperties", "contains", "contentSchema", "else", "if", "not",
     "propertyNames", "then", "unevaluatedItems", "unevaluatedProperties"]
  | .draft2020 =>
    ["additionalProperties", "contains", "contentSchema", "else", "if", "items", "not",
     "propertyNames", "then", "unevaluatedItems", "unevaluatedProperties"]

/-- The keywords whose value is an array of subschemas. -/
def Draft.listKeywords : Draft → List String
  | .draft2020 => ["allOf", "anyOf", "oneOf", "prefixItems"]
  | _ => ["allOf", "anyOf", "oneOf"]

/-- The keywords whose value is an object of subschemas. -/
def Draft.mapKeywords : Draft → List String
  | .draft2019 | .draft2020 =>
    ["$defs", "definitions", "dependentSchemas", "patternProperties", "properties"]
  | _ => ["definitions", "patternProperties", "properties"]

/-- The subschemas a schema object embeds, in the order of its keywords. -/
def Draft.subschemas (d : Draft) (schema : Json) : List Json :=
  match schema with
  | .obj fields =>
    fields.flatMap fun (key, value) =>
      if d.singleKeywords.contains key then [value]
      else if d.listKeywords.contains key then (value.getArr?).getD []
      else if d.mapKeywords.contains key then ((value.getObj?).getD []).map (·.2)
      else if key == "items" && d != .draft2020 then
        match value with
        | .arr items => items
        | other => [other]
      else if key == "dependencies" && !d.atLeast .draft2019 then
        ((value.getObj?).getD []).filterMap fun (_, v) => if v.isObj then some v else none
      else []
  | _ => []

end Covenant.Schema
