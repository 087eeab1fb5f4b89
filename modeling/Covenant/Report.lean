import Covenant.Json.Value
import Covenant.SourceIndex.Basic

/-!
# Validation reports

A `Finding` is one problem found while checking a request against a contract: what was
checked (a path or a schema), an optional finer kind, a message, a reason, an optional hint,
where in the contract it points, the failures of a schema check, and optionally the schema
text it was checked against. Its display text is the message, followed by ` (line L:C)` when
the location is known.
-/

namespace Covenant

/-- What a finding is about. -/
inductive CheckKind where
  | path
  | schema
  deriving DecidableEq, BEq, Repr

def CheckKind.name : CheckKind → String
  | .path => "path"
  | .schema => "schema"

def CheckKind.ofName? : String → Option CheckKind
  | "path" => some .path
  | "schema" => some .schema
  | _ => none

/-- One failure reported by a schema check: its reason, the keyword path that failed, and
where that keyword sits in the schema's text. -/
structure Failure where
  reason : String
  keywordPath : String
  location : Location

/-- A problem found while checking a request. -/
structure Finding where
  kind : CheckKind
  subKind : Option String := none
  message : String
  reason : String
  hint : Option String := none
  location : Location := .unknown
  failures : List Failure := []
  context : Option String := none

namespace Finding

def invalidSchemaHint : String :=
  "Ensure that the object being submitted, matches the schema correctly"

def invalidPayloadHint : String := "Ensure the request body is well-formed JSON"

def invalidNumberHint : String := "Convert the value into a number, or check the path for typos"

def invalidStringHint : String :=
  "Use a non-numeric value, or declare the parameter as a number in the contract"

/-- A request path that no template matches. -/
def pathMissing (path : String) : Finding :=
  { kind := .path, subKind := some "missing",
    message := s!"Path '{path}' not found",
    reason := s!"The request contains a path of '{path}' however that path does not exist in the specification" }

/-- The display text: the message, and the location when known. -/
def display (f : Finding) : String :=
  if f.location.isKnown then
    let l := f.location.render
    s!"{f.message} (line {l})"
  else f.message

/-- Whether the finding has this kind and this finer kind. -/
def hasKind (f : Finding) (kind : CheckKind) (subKind : String) : Bool :=
  f.kind == kind && f.subKind == some subKind

/-- A location as a JSON object with `line` and `column`. -/
def locationJson (l : Location) : Json :=
  .obj [("line", .num (Number.ofInt l.line)), ("column", .num (Number.ofInt l.column))]

/-- The JSON form of a finding; absent optional parts and an empty failure list are left
out. -/
def toJson (f : Finding) : Json :=
  let opt (k : String) : Option String → List (String × Json)
    | some v => [(k, .str v)]
    | none => []
  let failures :=
    if f.failures.isEmpty then []
    else [("schema_validation_errors", .arr (f.failures.map fun x =>
      .obj [("reason", .str x.reason), ("location", .str x.keywordPath),
            ("spec_location", locationJson x.location)]))]
  .obj ([("validation_type", .str f.kind.name)] ++ opt "validation_sub_type" f.subKind ++
    [("message", .str f.message), ("reason", .str f.reason)] ++ opt "how_to_fix" f.hint ++
    [("spec_location", locationJson f.location)] ++ failures ++ opt "context" f.context)

end Finding

end Covenant
