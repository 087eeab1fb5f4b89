/-!
# Contract loading errors

Why a contract could not be loaded, with the wording of each cause. Reader messages are kept
as the readers word them.
-/

namespace Covenant

/-- Why a contract could not be loaded. -/
inductive ContractError where
  /-- The file could not be read as UTF-8 text. -/
  | read (path : String) (cause : String)
  /-- The text is not JSON. -/
  | json (message : String)
  /-- The text is not YAML, or its YAML is not a JSON-like value. -/
  | yaml (message : String)
  /-- A `$ref` that designates nothing, or a chain of them that is too long. -/
  | unresolvedReference (reference : String)
  /-- A parameter without a name or a valid location. -/
  | invalidParameter (template : String) (reason : String)

namespace ContractError

/-- The kind name of an error. -/
def kind : ContractError → String
  | .read .. => "Read"
  | .json _ => "Json"
  | .yaml _ => "Yaml"
  | .unresolvedReference _ => "UnresolvedReference"
  | .invalidParameter .. => "InvalidParameter"

/-- The one-line description of an error. -/
def message : ContractError → String
  | .read path _ => s!"failed to read contract file: {path}"
  | .json m => s!"failed to parse JSON contract: {m}"
  | .yaml m => s!"failed to parse YAML contract: {m}"
  | .unresolvedReference r => s!"unresolved reference: {r}"
  | .invalidParameter t r => s!"invalid parameter under '{t}': {r}"

/-- The error's causes below its own description, outermost first. -/
def causes : ContractError → List String
  | .read _ cause => if cause.isEmpty then [] else [cause]
  | .json m => [m]
  | .yaml m => [m]
  | _ => []

end ContractError

end Covenant
