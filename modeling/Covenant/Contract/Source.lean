import Covenant.Contract.Load
import Covenant.Json.Reader
import Covenant.Yaml.Document
import Covenant.SourceIndex.Scan
import Covenant.Files

/-!
# Contracts from text and files

A contract's text is JSON or YAML. A file's format comes from its extension (`.json`, or
`.yaml`/`.yml`, in any case); without one, text whose first visible character opens an object
or array is JSON and anything else is YAML. The text is parsed, indexed for source positions,
and read into a contract.
-/

namespace Covenant

/-- The formats a contract may be written in. -/
inductive DocumentFormat where
  | json
  | yaml
  deriving DecidableEq, BEq, Repr, Inhabited

namespace DocumentFormat

def name : DocumentFormat → String
  | .json => "json"
  | .yaml => "yaml"

/-- The format of a text: JSON when it opens with `{` or `[` after blanks. -/
def detect (content : String) : DocumentFormat :=
  match Text.firstVisible content with
  | some '{' | some '[' => .json
  | _ => .yaml

/-- The final component of a path, ignoring trailing slashes; none for `.` and `..`. -/
def fileName (path : String) : Option String :=
  let parts := (path.splitOn "/").filter (· ≠ "")
  match parts.getLast? with
  | some "." | some ".." | none => none
  | some n => some n

/-- The extension of a path: what follows the last dot of its file name, unless that dot
starts the name. -/
def extension (path : String) : Option String :=
  (fileName path).bind fun n =>
    let cs := n.toList
    match (cs.reverse.findIdx? (· = '.')) with
    | none => none
    | some k =>
      let at_ := cs.length - 1 - k
      if at_ = 0 then none else some (String.ofList (cs.drop (at_ + 1)))

/-- The format a file's extension names. -/
def ofPath? (path : String) : Option DocumentFormat :=
  match (extension path).map String.toLower with
  | some "json" => some .json
  | some "yaml" | some "yml" => some .yaml
  | _ => none

end DocumentFormat

namespace Contract

/-- The value a text holds, read in the given format. -/
def parse (content : String) (format : DocumentFormat) : Except ContractError Json :=
  match format with
  | .json =>
    match Json.read content with
    | .ok v => .ok v
    | .error e => .error (.json e.message)
  | .yaml =>
    match Yaml.read content with
    | .ok v => .ok v
    | .error e => .error (.yaml e)

/-- The contract a text describes. -/
def ofSource (content : String) (format : DocumentFormat) : Except ContractError Contract := do
  let root ← parse content format
  Contract.Document.contract { root := root, index := SourceIndex.ofSource content }

/-- The contract in a file, its format from the extension or else from the text. -/
def ofFile (files : Files) (path : String) : Except ContractError Contract :=
  match files.readText path with
  | .error e => .error (.read path e.message)
  | .ok content =>
    ofSource content ((DocumentFormat.ofPath? path).getD (DocumentFormat.detect content))

end Contract

end Covenant
