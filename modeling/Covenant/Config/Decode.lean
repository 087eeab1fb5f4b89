import Covenant.Config.Settings
import Covenant.Json.Reader
import Covenant.Json.Writer
import Covenant.Toml.Document
import Covenant.Schema.Number
import Covenant.Text.Escape

/-!
# Decoding settings

Settings files are decoded against a description of their shape: records with named fields,
booleans, strings, and choices among fixed names. The decoders accept JSON text and TOML
trees and report problems the way a strict typed decoder does: a field that is not known
(for the closed top-level record), a value of the wrong type, or a name that is not one of
the choices. JSON problems carry the line and column where reading stopped; TOML problems
carry the span of the offending key or value.

Decoding yields a JSON object holding just the fields that were given; `Settings.ofFields`
fills in the rest with defaults.
-/

namespace Covenant.Config

open Covenant.Json (Cursor Step Stop readIdent readNumber readStringBody readValue isDigit)

/-- The shape of a settings value. -/
inductive Shape where
  | boolean
  | text
  /-- One of the given names, as a string. -/
  | choice (name : String) (variants : List String)
  /-- A record of named fields; a closed record refuses fields it does not know. -/
  | record (name : String) (fields : List (String × Shape)) (closed : Bool)

/-- What a decoder expected, in messages. -/
def Shape.expecting : Shape → String
  | .boolean => "a boolean"
  | .text => "a string"
  | .choice name _ => s!"enum {name}"
  | .record name _ _ => s!"struct {name}"

def resolverShape : Shape :=
  .record "ResolverConfig" [("match_order", .choice "MatchOrder" ["declared", "specificity"]),
    ("report_parameter_types", .boolean)] false

def schemaShape : Shape :=
  .record "SchemaConfig" [("locate_failures", .boolean), ("attach_rendered_schema", .boolean)] false

def logShape : Shape :=
  .record "LogConfig" [("enabled", .boolean), ("level", .text),
    ("format", .choice "LogFormat" ["json", "pretty"]), ("include_target", .boolean),
    ("file_line_info", .boolean)] false

/-- The whole settings file: a closed record of three sections. -/
def settingsShape : Shape :=
  .record "TheseusConfig" [("resolver", resolverShape), ("schema", schemaShape),
    ("logging", logShape)] true

/-- Names listed as alternatives: `a`, `a` or `b`, or one of `a`, `b`, `c`. -/
def alternatives (names : List String) : String :=
  let quoted := names.map fun n => "`" ++ n ++ "`"
  match quoted with
  | [a] => a
  | [a, b] => a ++ " or " ++ b
  | _ => "one of " ++ ", ".intercalate quoted

def unknownField (name : String) (fields : List String) : String :=
  if fields.isEmpty then s!"unknown field `{name}`, there are no fields"
  else
    let listed := alternatives fields
    s!"unknown field `{name}`, expected {listed}"

def unknownVariant (name : String) (variants : List String) : String :=
  if variants.isEmpty then s!"unknown variant `{name}`, there are no variants"
  else
    let listed := alternatives variants
    s!"unknown variant `{name}`, expected {listed}"

/-- A double as a plain decimal that always shows a decimal point. -/
def withDecimalPoint (f : Float) : String :=
  let text := Schema.plainDecimal f
  if Binary64.isFinite f && !text.contains '.' then text ++ ".0" else text

def invalidType (unexpected expected : String) : String :=
  s!"invalid type: {unexpected}, expected {expected}"

/-! ## JSON -/

/-- The description of a number met where another type was expected. -/
def numberUnexpected : Number → String
  | .nat n => s!"integer `{n}`"
  | .neg n => s!"integer `{n}`"
  | .float f =>
    let text := numberNotation.render f
    s!"floating point `{text}`"

/-- Reads the value at the cursor only to describe it in a type error; the error is placed
after what was read. Brackets and braces are described without being read. -/
def invalidTypeAt (c : Cursor) (expected : String) : Stop :=
  let c := c.skipBlank
  match c.peek with
  | some 110 =>
    match readIdent [117, 108, 108] c.bump with
    | .error e => e
    | .ok c => c.stop (.custom (invalidType "null" expected))
  | some 116 =>
    match readIdent [114, 117, 101] c.bump with
    | .error e => e
    | .ok c => c.stop (.custom (invalidType "boolean `true`" expected))
  | some 102 =>
    match readIdent [97, 108, 115, 101] c.bump with
    | .error e => e
    | .ok c => c.stop (.custom (invalidType "boolean `false`" expected))
  | some 45 =>
    match readNumber false c.bump with
    | .error e => e
    | .ok (n, c) => c.stop (.custom (invalidType (numberUnexpected n) expected))
  | some 34 =>
    match readStringBody c.bump with
    | .error e => e
    | .ok (s, c) => c.stop (.custom (invalidType ("string " ++ Text.quoteForMessage s) expected))
  | some 91 => c.stop (.custom (invalidType "sequence" expected))
  | some 123 => c.stop (.custom (invalidType "map" expected))
  | some b =>
    if isDigit b then
      match readNumber true c with
      | .error e => e
      | .ok (n, c) => c.stop (.custom (invalidType (numberUnexpected n) expected))
    else c.stopAhead .expectedValue
  | none => c.stopAhead .eofValue

/-- Skips blanks and, when the next byte closes an object, consumes it: where a record's
reading stands when a problem with one of its keys is reported. -/
def closeRecord (c : Cursor) : Cursor :=
  let c := c.skipBlank
  if c.peek == some 125 then c.bump else c

/-- The colon between a key and its value. -/
def objectColon (c : Cursor) : Except Stop Cursor :=
  let c := c.skipBlank
  match c.peek with
  | some 58 => .ok c.bump
  | some _ => .error (c.stopAhead .expectedColon)
  | none => .error (c.stopAhead .eofObject)

/-- A choice written as an object after its opening brace: one member named by the choice,
whose value is `null`, then the closing brace. -/
def decodeVariantObject (variants : List String) (c : Cursor) : Step Json :=
  let c := c.skipBlank
  match c.peek with
  | some 34 =>
    match readStringBody c.bump with
    | .error e => .error e
    | .ok (s, c) =>
      if !variants.contains s then .error (c.stop (.custom (unknownVariant s variants)))
      else
        match objectColon c with
        | .error e => .error e
        | .ok c =>
          let c := c.skipBlank
          match c.peek with
          | some 110 =>
            match readIdent [117, 108, 108] c.bump with
            | .error e => .error e
            | .ok c =>
              let c := c.skipBlank
              match c.peek with
              | some 125 => .ok (.str s, c.bump)
              | some _ => .error (c.stop .expectedValue)
              | none => .error (c.stop .eofObject)
          | _ => .error (invalidTypeAt c "unit")
  | _ => .error (invalidTypeAt c "variant identifier")

mutual

/-- Decodes a value of a shape from the cursor. `fuel` bounds the nesting. -/
def decodeJson : Nat → Shape → Cursor → Step Json
  | 0, _, c => .error (c.stop .recursionLimit)
  | fuel + 1, shape, c =>
    let c := c.skipBlank
    match shape, c.peek with
    | _, none => .error (c.stopAhead .eofValue)
    | .boolean, some 116 => (readIdent [114, 117, 101] c.bump).map fun c => (.bool true, c)
    | .boolean, some 102 => (readIdent [97, 108, 115, 101] c.bump).map fun c => (.bool false, c)
    | .text, some 34 => (readStringBody c.bump).map fun (s, c) => (.str s, c)
    | .choice _ variants, some 34 =>
      match readStringBody c.bump with
      | .error e => .error e
      | .ok (s, c) =>
        if variants.contains s then .ok (.str s, c)
        else .error (c.stop (.custom (unknownVariant s variants)))
    | .choice _ variants, some 123 => decodeVariantObject variants c.bump
    | .choice _ _, some _ => .error (c.stopAhead .expectedValue)
    | .record _ fields closed, some 123 => decodeMembers fuel fields closed true c.bump []
    | .record _ fields _, some 91 => decodeElements fuel fields true c.bump []
    | _, some _ => .error (invalidTypeAt c shape.expecting)

/-- The members of a record after its opening brace, up to and including the closing one. -/
def decodeMembers : Nat → List (String × Shape) → Bool → Bool → Cursor →
    List (String × Json) → Step Json
  | 0, _, _, _, c, _ => .error (c.stop .recursionLimit)
  | fuel + 1, fields, closed, first, c, acc =>
    let c := c.skipBlank
    let next : Except Stop (Option Cursor) :=
      match c.peek with
      | some 125 => .ok none
      | some 44 => if first then .ok (some c) else .ok (some c.bump.skipBlank)
      | some _ => if first then .ok (some c) else .error (c.stopAhead .expectedObjectCommaOrEnd)
      | none => .error (c.stopAhead .eofObject)
    match next with
    | .error e => .error e
    | .ok none => .ok (.obj acc.reverse, c.bump)
    | .ok (some c) =>
      match c.peek with
      | some 34 =>
        match readStringBody c.bump with
        | .error e => .error e
        | .ok (key, c) =>
          match fields.lookup key with
          | none =>
            if closed then
              .error ((closeRecord c).stop (.custom (unknownField key (fields.map (·.1)))))
            else
              match objectColon c with
              | .error e => .error e
              | .ok c =>
                match readValue (2 * c.rest.length + 4) 1 c with
                | .error e => .error e
                | .ok (_, c) => decodeMembers fuel fields closed false c acc
          | some shape =>
            if acc.any (·.1 == key) then
              .error ((closeRecord c).stop (.custom s!"duplicate field `{key}`"))
            else
              match objectColon c with
              | .error e => .error e
              | .ok c =>
                match decodeJson fuel shape c with
                | .error e => .error e
                | .ok (v, c) => decodeMembers fuel fields closed false c ((key, v) :: acc)
      | some 125 => .error (c.stopAhead .trailingComma)
      | some _ => .error (c.stopAhead .keyMustBeString)
      | none => .error (c.stopAhead .eofValue)

/-- A record given as an array: its fields in order, up to and including the closing
bracket. Missing trailing fields keep their defaults. -/
def decodeElements : Nat → List (String × Shape) → Bool → Cursor → List (String × Json) →
    Step Json
  | 0, _, _, c, _ => .error (c.stop .recursionLimit)
  | fuel + 1, fields, first, c, acc =>
    let c := c.skipBlank
    let finish (c : Cursor) : Step Json :=
      let c := c.skipBlank
      match c.peek with
      | some 93 => .ok (.obj acc.reverse, c.bump)
      | some 44 =>
        let d := c.bump.skipBlank
        if d.peek == some 93 then .error (d.stopAhead .trailingComma)
        else .error (d.stopAhead .trailingCharacters)
      | some _ => .error (c.stopAhead .trailingCharacters)
      | none => .error (c.stopAhead .eofList)
    match fields with
    | [] => finish c
    | (name, shape) :: rest =>
      let next : Except Stop (Option Cursor) :=
        match c.peek with
        | some 93 => .ok none
        | some 44 => if first then .ok (some c) else .ok (some c.bump.skipBlank)
        | some _ => if first then .ok (some c) else .error (c.stopAhead .expectedListCommaOrEnd)
        | none => .error (c.stopAhead .eofList)
      match next with
      | .error e => .error e
      | .ok none => finish c
      | .ok (some c) =>
        match c.peek with
        | some 93 => .error (c.stopAhead .trailingComma)
        | none => .error (c.stopAhead .eofValue)
        | some _ =>
          match decodeJson fuel shape c with
          | .error e => .error e
          | .ok (v, c) => decodeElements fuel rest false c ((name, v) :: acc)

end

/-- Decodes JSON text holding one value of a shape, blanks aside. -/
def decodeShapeText (shape : Shape) (text : String) : Except Json.ReadError Json :=
  let input := text.toUTF8.toList
  match decodeJson 64 shape ⟨input, 0⟩ with
  | .error s => .error (s.locate input)
  | .ok (v, c) =>
    let c := c.skipBlank
    if c.rest.isEmpty then .ok v
    else .error ((c.stopAhead .trailingCharacters).locate input)

/-- Decodes settings from JSON text. -/
def decodeJsonText (text : String) : Except Json.ReadError Json := decodeShapeText settingsShape text

/-! ## TOML -/

/-- The description of a TOML value met where another type was expected. -/
def tomlUnexpected : Toml.Node → String
  | .string s _ => "string " ++ Text.quoteForMessage s
  | .integer i _ => s!"integer `{i}`"
  | .float f _ =>
    let text := withDecimalPoint f
    s!"floating point `{text}`"
  | .boolean b _ => s!"boolean `{b}`"
  | .datetime .. => "map"
  | .array .. => "sequence"
  | .table .. | .inline .. => "map"

/-- A TOML decoding failure at a node, or without a place when the node has none. -/
def failAtNode {α : Type} (node : Toml.Node) (message : String) : Except Toml.Failure α :=
  .error { span := node.span?, message := message }

/-- What a TOML value is called in messages. -/
def tomlTypeName : Toml.Node → String
  | .string .. => "string"
  | .integer .. => "integer"
  | .float .. => "float"
  | .boolean .. => "boolean"
  | .datetime .. => "datetime"
  | .array .. => "array"
  | .table .. => "table"
  | .inline .. => "inline table"

/-- The value under a variant named by a one-entry table: a variant without data takes an
empty array or an empty table. -/
def unitVariantValue (value : Toml.Node) : Except Toml.Failure Unit :=
  match value with
  | .array [] _ | .table [] _ | .inline [] _ => .ok ()
  | .array _ _ => failAtNode value "expected empty array"
  | .table _ _ | .inline _ _ => failAtNode value "expected empty table"
  | other =>
    let kind := tomlTypeName other
    failAtNode other s!"expected table, found {kind}"

mutual

/-- Decodes a TOML value of a shape. `fuel` bounds the nesting. -/
def decodeToml : Nat → Shape → Toml.Node → Except Toml.Failure Json
  | 0, _, node => failAtNode node "recursion limit exceeded"
  | fuel + 1, shape, node =>
    match shape, node with
    | .boolean, .boolean b _ => .ok (.bool b)
    | .text, .string s _ => .ok (.str s)
    | .choice _ variants, .string s _ =>
      if variants.contains s then .ok (.str s) else failAtNode node (unknownVariant s variants)
    | .choice _ variants, .table entries _ | .choice _ variants, .inline entries _ =>
      match entries with
      | [] => failAtNode node "wanted exactly 1 element, found 0 elements"
      | [(key, span, value)] =>
        if !variants.contains key then .error { span := some span, message := unknownVariant key variants }
        else (unitVariantValue value).map fun _ => .str key
      | _ => failAtNode node "wanted exactly 1 element, more than 1 element"
    | .choice _ _, _ => failAtNode node "wanted string or table"
    | .record _ fields closed, .table entries _ | .record _ fields closed, .inline entries _ =>
      decodeEntries fuel fields closed entries []
    | .record _ fields _, .array items _ => decodeItems fuel fields items []
    | _, _ => failAtNode node (invalidType (tomlUnexpected node) shape.expecting)

/-- The entries of a table decoded as a record's fields. -/
def decodeEntries : Nat → List (String × Shape) → Bool → List (String × Toml.Span × Toml.Node) →
    List (String × Json) → Except Toml.Failure Json
  | 0, _, _, _, acc => .ok (.obj acc.reverse)
  | _, _, _, [], acc => .ok (.obj acc.reverse)
  | fuel + 1, fields, closed, (key, span, node) :: rest, acc =>
    match fields.lookup key with
    | none =>
      if closed then .error { span := some span, message := unknownField key (fields.map (·.1)) }
      else decodeEntries fuel fields closed rest acc
    | some shape =>
      match decodeToml fuel shape node with
      | .error e => .error (if e.span.isNone then { e with span := some (node.span?.getD span) } else e)
      | .ok v => decodeEntries fuel fields closed rest ((key, v) :: acc)

/-- The items of an array decoded as a record's fields in order. -/
def decodeItems : Nat → List (String × Shape) → List Toml.Node → List (String × Json) →
    Except Toml.Failure Json
  | 0, _, _, acc => .ok (.obj acc.reverse)
  | _, [], [], acc => .ok (.obj acc.reverse)
  | _, _, [], acc => .ok (.obj acc.reverse)
  | _, [], extra :: _, _ => failAtNode extra "invalid length, expected fewer elements in array"
  | fuel + 1, (name, shape) :: rest, item :: items, acc =>
    match decodeToml fuel shape item with
    | .error e => .error e
    | .ok v => decodeItems fuel rest items ((name, v) :: acc)

end

/-- Decodes settings from TOML text; a failure is laid out against the text. -/
def decodeTomlText (text : String) : Except String Json :=
  match Toml.read text with
  | .error f => .error (f.render text)
  | .ok root =>
    match decodeToml 64 settingsShape root with
    | .error f => .error (f.render text)
    | .ok v => .ok v

/-! ## Settings from decoded fields -/

/-- A section's boolean field, or its default. -/
def boolField (v : Json) (key : String) (default : Bool) : Bool :=
  ((v.get? key).bind Json.getBool?).getD default

/-- Settings from decoded fields, every missing field taking its default. -/
def Settings.ofFields (v : Json) : Settings :=
  let r := (v.get? "resolver").getD (.obj [])
  let s := (v.get? "schema").getD (.obj [])
  let l := (v.get? "logging").getD (.obj [])
  let logDefaults : LogSettings := {}
  { resolver := {
      matchOrder := (((r.get? "match_order").bind Json.getStr?).bind Route.MatchOrder.parse?).getD .declared,
      reportParameterTypes := boolField r "report_parameter_types" false },
    schema := {
      locateFailures := boolField s "locate_failures" true,
      attachRenderedSchema := boolField s "attach_rendered_schema" true },
    logging := {
      enabled := boolField l "enabled" logDefaults.enabled,
      level := ((l.get? "level").bind Json.getStr?).getD logDefaults.level,
      format := (((l.get? "format").bind Json.getStr?).bind LogFormat.parse?).getD .json,
      includeTarget := boolField l "include_target" logDefaults.includeTarget,
      fileLineInfo := boolField l "file_line_info" logDefaults.fileLineInfo } }

/-- Logging settings from decoded fields. -/
def LogSettings.ofFields (l : Json) : LogSettings :=
  (Settings.ofFields (.obj [("logging", l)])).logging

end Covenant.Config
