import Covenant.Route.Resolve
import Covenant.Json.Writer

/-!
# Resolutions

The outcome of resolving a request as reported to callers: whether it matched, the template,
the operation id when there is one, the path parameters in placeholder order, the operation's
deprecation flag and tags, and the findings.
-/

namespace Covenant

/-- A reported resolution. -/
structure Resolution where
  matched : Bool
  template : String
  operationId : Option String
  pathParams : List (String × String)
  deprecated : Bool
  tags : List String
  findings : List Finding

namespace Resolution

def ofMatch (m : Route.Match) : Resolution :=
  let op := m.operation?
  { matched := m.isMatch, template := m.template,
    operationId := op.bind (·.operationId),
    pathParams := m.pathParams,
    deprecated := (op.map (·.deprecated)).getD false,
    tags := (op.map (·.tags)).getD [],
    findings := m.findings }

/-- The JSON form; the operation id is left out when absent. -/
def toJson (r : Resolution) : Json :=
  .obj ([("matched", .bool r.matched), ("template", .str r.template)] ++
    (match r.operationId with
     | some id => [("operation_id", .str id)]
     | none => []) ++
    [("path_params", .obj (r.pathParams.map (fun (k, v) => (k, .str v)))),
     ("deprecated", .bool r.deprecated), ("tags", .arr (r.tags.map Json.str)),
     ("errors", .arr (r.findings.map Finding.toJson))])

end Resolution

end Covenant
