import Covenant.Contract.Basic
import Covenant.Report

/-!
# Contract summaries

JSON views of a contract and its parts, for reporting: a schema as its types, location and
rendered value; a parameter as name, location, required flag and schema; operations in verb
order; paths in declaration order.
-/

namespace Covenant

/-- A location as the pair `[line, column]`. -/
def Location.toPair (l : Location) : Json :=
  .arr [.num (Number.ofInt l.line), .num (Number.ofInt l.column)]

def SchemaDefinition.summary (s : SchemaDefinition) : Json :=
  .obj [("types", .arr (s.types.map (fun t => .str t.name))), ("location", s.location.toPair),
        ("value", s.value)]

def Parameter.summary (p : Parameter) : Json :=
  .obj [("name", .str p.name), ("in", .str p.location.name), ("required", .bool p.required),
        ("schema", (p.schema.map SchemaDefinition.summary).getD .null)]

def Operation.summary (v : Verb) (op : Operation) : Json :=
  .obj [("method", .str v.name), ("operation_id", (op.operationId.map Json.str).getD .null),
        ("deprecated", .bool op.deprecated), ("tags", .arr (op.tags.map Json.str)),
        ("parameters", .arr (op.parameters.map Parameter.summary)),
        ("request_body", (op.requestBody.map SchemaDefinition.summary).getD .null)]

def PathItem.summary (template : String) (item : PathItem) : Json :=
  .obj [("template", .str template), ("parameters", .arr (item.parameters.map Parameter.summary)),
        ("operations", .arr (item.operations.map (fun (v, op) => Operation.summary v op)))]

def Contract.summary (c : Contract) : Json :=
  .obj [("title", .str c.title), ("version", .str c.version),
        ("operation_count", .num (.nat c.operationCount)),
        ("paths", .arr (c.paths.map (fun (t, item) => PathItem.summary t item)))]

end Covenant
