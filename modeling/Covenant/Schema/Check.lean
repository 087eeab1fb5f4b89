import Covenant.Schema.Prepared
import Covenant.Yaml.Emit
import Covenant.SourceIndex.Scan
import Covenant.Report
import Covenant.Contract.Basic
import Covenant.Json.Reader

/-!
# Checking payloads against contract schemas

A check answers whether a payload conforms to a schema, and when it does not, gives exactly
one finding about the schema: the schema cannot be used, the payload is not JSON, or the
payload breaks the schema. In the last case the finding lists the schema's failures, each
with the line and column of the failing keyword in the schema's YAML text.

Two settings decide how much a failure finding carries: whether failures are located in the
schema text, and whether that text is attached to the finding.
-/

namespace Covenant.Schema

/-- What failure findings carry. -/
structure Settings where
  /-- Locate each failing keyword in the schema's YAML text. -/
  locateFailures : Bool := true
  /-- Attach the schema's YAML text to the finding. -/
  attachRenderedSchema : Bool := true
  deriving Repr

/-- Failures without locations or attached text. -/
def Settings.minimal : Settings := { locateFailures := false, attachRenderedSchema := false }

/-- The YAML text of a schema, which failures are located in. -/
def renderSchema (value : Json) : String := Yaml.render value

/-- A schema the engine refuses, with the engine's reason. -/
def compileFinding (settings : Settings) (schema : SchemaDefinition) (problem : String) :
    Finding :=
  { kind := .schema, subKind := some "compile",
    message := "schema cannot be compiled",
    reason := s!"The schema is not a valid JSON Schema: {problem}",
    location := schema.location,
    context := if settings.attachRenderedSchema then some (renderSchema schema.value) else none }

/-- A payload that is not JSON, with the reader's message. -/
def payloadFinding (schema : SchemaDefinition) (problem : String) : Finding :=
  { kind := .schema, subKind := some "payload",
    message := "payload cannot be decoded",
    reason := s!"The payload is not valid JSON: {problem}",
    hint := some Finding.invalidPayloadHint,
    location := schema.location }

/-- Failures with an empty keyword path, or whose reason only points elsewhere, carry
nothing of their own and are left out. -/
def isNoise (v : Violation) : Bool :=
  v.keywordPath.isEmpty || v.message.startsWith "doesn't validate with"

/-- The finding for a value that breaks a usable schema. -/
def failureFinding (settings : Settings) (schema : SchemaDefinition) (found : List Violation) :
    Finding :=
  let text := renderSchema schema.value
  let index := SourceIndex.ofSource text
  let failures := (found.filter (!isNoise ·)).map fun v =>
    let place :=
      if settings.locateFailures then (index.get? v.keywordPath).getD .unknown else .unknown
    ({ reason := v.message, keywordPath := v.pathText, location := place } : Failure)
  { kind := .schema,
    message := "schema does not pass validation",
    reason := "Schema failed to validated against the contract requirements",
    hint := some Finding.invalidSchemaHint,
    location := schema.location,
    failures := failures,
    context := if settings.attachRenderedSchema then some text else none }

/-- Checks a decoded value against a usable schema. -/
def checkUsable (settings : Settings) (schema : SchemaDefinition) (prepared : Prepared)
    (value : Json) : Bool × List Finding :=
  match prepared.check value with
  | [] => (true, [])
  | found => (false, [failureFinding settings schema found])

/-- Checks a decoded value against a schema. -/
def checkValue (settings : Settings) (schema : SchemaDefinition) (value : Json) :
    Bool × List Finding :=
  match Prepared.ofSchema schema.value with
  | .error problem => (false, [compileFinding settings schema problem])
  | .ok prepared => checkUsable settings schema prepared value

/-- Checks raw payload bytes against a schema: the schema first, then the payload's JSON,
then the value. -/
def checkPayload (settings : Settings) (schema : SchemaDefinition) (payload : List UInt8) :
    Bool × List Finding :=
  match Prepared.ofSchema schema.value with
  | .error problem => (false, [compileFinding settings schema problem])
  | .ok prepared =>
    match Json.readBytes payload with
    | .error e => (false, [payloadFinding schema e.message])
    | .ok value => checkUsable settings schema prepared value

/-- Where the keyword at a JSON pointer sits in the YAML text of a schema value. -/
def locateKeyword (value : Json) (pointer : String) : Location :=
  ((SourceIndex.ofSource (renderSchema value)).get? (Pointer.split pointer)).getD .unknown

end Covenant.Schema
