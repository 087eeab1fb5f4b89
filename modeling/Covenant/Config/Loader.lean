import Covenant.Config.Decode
import Covenant.Config.Environment
import Covenant.Config.Filter
import Covenant.Files
import Covenant.Text.Upper

/-!
# Loading settings in layers

Settings are built in layers, each later one winning: the defaults (or the development
preset), then a settings file or text, then environment overrides named
`PREFIX__SECTION__KEY`. A file or text replaces the settings it is loaded over as a whole;
overrides change one field each, in the sorted order of their names.

Loading ends by checking the result: while logging is on, its level must be a filter that
parses.
-/

namespace Covenant.Config

/-- Why settings could not be loaded. -/
inductive ConfigError where
  | fileNotFound (path : String)
  | readFailed (path : String) (cause : ReadFailure)
  /-- A TOML failure, already laid out against its text. -/
  | toml (rendered : String)
  | json (message : String)
  | invalidValue (field reason : String)
  | envParse (name reason : String)
  | validation (message : String)

namespace ConfigError

def kind : ConfigError → String
  | .fileNotFound .. => "FileNotFound"
  | .readFailed .. => "ReadError"
  | .toml .. => "TomlError"
  | .json .. => "JsonError"
  | .invalidValue .. => "InvalidValue"
  | .envParse .. => "EnvParseError"
  | .validation .. => "ValidationError"

def message : ConfigError → String
  | .fileNotFound path => "configuration file not found: " ++ path
  | .readFailed path _ => "failed to read configuration file: " ++ path
  | .toml rendered => "failed to parse TOML configuration: " ++ rendered
  | .json message => "failed to parse JSON configuration: " ++ message
  | .invalidValue field reason => s!"invalid configuration value for {field}: {reason}"
  | .envParse name reason => s!"failed to parse environment variable {name}: {reason}"
  | .validation message => "configuration validation failed: " ++ message

/-- The errors beneath this one, outermost first. -/
def causes : ConfigError → List String
  | .readFailed _ cause => [cause.message]
  | .toml rendered => [rendered]
  | .json message => [message]
  | _ => []

end ConfigError

/-! ## Parsing settings text -/

/-- Settings from TOML text. -/
def settingsOfToml (text : String) : Except ConfigError Settings :=
  match decodeTomlText text with
  | .ok v => .ok (Settings.ofFields v)
  | .error rendered => .error (.toml rendered)

/-- Settings from JSON text. -/
def settingsOfJson (text : String) : Except ConfigError Settings :=
  match decodeJsonText text with
  | .ok v => .ok (Settings.ofFields v)
  | .error e => .error (.json e.message)

/-- Settings from a file's text, read as TOML or JSON by its extension. -/
def settingsOfFile (text path : String) : Except ConfigError Settings :=
  match (Files.extension path).map String.toLower with
  | some "toml" => settingsOfToml text
  | some "json" => settingsOfJson text
  | _ => .error (.validation s!"unsupported configuration file format: {path}")

/-! ## Overrides from the environment -/

/-- Reads a boolean written `true`, `1`, `yes`, `on` or `false`, `0`, `no`, `off`, in any
case. -/
def parseFlag (s : String) : Option Bool :=
  match s.toLower with
  | "true" | "1" | "yes" | "on" => some true
  | "false" | "0" | "no" | "off" => some false
  | _ => none

/-- Applies one override: its name, past the prefix, picks a field; unknown names change
nothing. -/
def applyOverride (s : Settings) (scope name value : String) : Except ConfigError Settings :=
  let marker := scope ++ "__"
  if !name.startsWith marker then .error (.envParse name "invalid key format")
  else
    let flag : Except ConfigError Bool :=
      match parseFlag value with
      | some b => .ok b
      | none => .error (.envParse name "expected boolean")
    match (name.drop marker.length).toString.splitOn "__" with
    | ["RESOLVER", "MATCH_ORDER"] =>
      match Route.MatchOrder.parse? value with
      | some m => .ok { s with resolver := { s.resolver with matchOrder := m } }
      | none => .error (.envParse name "expected 'declared' or 'specificity'")
    | ["RESOLVER", "REPORT_PARAMETER_TYPES"] =>
      flag.map fun b => { s with resolver := { s.resolver with reportParameterTypes := b } }
    | ["SCHEMA", "LOCATE_FAILURES"] =>
      flag.map fun b => { s with schema := { s.schema with locateFailures := b } }
    | ["SCHEMA", "ATTACH_RENDERED_SCHEMA"] =>
      flag.map fun b => { s with schema := { s.schema with attachRenderedSchema := b } }
    | ["LOGGING", "ENABLED"] =>
      flag.map fun b => { s with logging := { s.logging with enabled := b } }
    | ["LOGGING", "LEVEL"] => .ok { s with logging := { s.logging with level := value } }
    | ["LOGGING", "FORMAT"] =>
      match LogFormat.parse? value with
      | some f => .ok { s with logging := { s.logging with format := f } }
      | none => .error (.envParse name "expected 'json' or 'pretty'")
    | ["LOGGING", "INCLUDE_TARGET"] =>
      flag.map fun b => { s with logging := { s.logging with includeTarget := b } }
    | ["LOGGING", "FILE_LINE_INFO"] =>
      flag.map fun b => { s with logging := { s.logging with fileLineInfo := b } }
    | _ => .ok s

/-- Applies every variable named `PREFIX__...`, in sorted order, stopping at the first that
does not parse. -/
def applyOverrides (s : Settings) (env : Environment) (scope : String) :
    Except ConfigError Settings :=
  let marker := scope ++ "__"
  let chosen := (env.vars.filter (·.1.startsWith marker)).mergeSort
    fun a b => a.1 < b.1 || (a.1 == b.1 && decide (a.2 ≤ b.2))
  chosen.foldlM (fun s (name, value) => applyOverride s scope name value) s

/-- The check settings must pass: while logging is on, its level must parse as a filter. -/
def validateSettings (s : Settings) : Except ConfigError Unit :=
  if s.logging.enabled then
    match Filter.problem s.logging.level with
    | some reason =>
      let level := s.logging.level
      .error (.invalidValue "logging.level" s!"Invalid log filter '{level}': {reason}")
    | none => .ok ()
  else .ok ()

/-! ## The loader -/

/-- Settings being loaded, and the prefix of the environment overrides to apply at the end. -/
structure Loader where
  settings : Settings := {}
  envScope : Option String := none

namespace Loader

/-- Starts over from the development preset. -/
def withDevelopment (l : Loader) : Loader := { l with settings := Settings.development }

/-- Loads a settings file, which replaces the settings so far. -/
def withFile (l : Loader) (files : Files) (path : String) : Except ConfigError Loader :=
  if !files.has path then .error (.fileNotFound path)
  else
    match files.readText path with
    | .error cause => .error (.readFailed path cause)
    | .ok text => (settingsOfFile text path).map fun s => { l with settings := s }

/-- Loads a settings file when the path exists. -/
def withOptionalFile (l : Loader) (files : Files) (path : String) : Except ConfigError Loader :=
  if files.has path then l.withFile files path else .ok l

/-- Loads settings text in a named format (`toml` or `json`, in any case). -/
def withText (l : Loader) (content format : String) : Except ConfigError Loader :=
  match format.toLower with
  | "toml" => (settingsOfToml content).map fun s => { l with settings := s }
  | "json" => (settingsOfJson content).map fun s => { l with settings := s }
  | _ => .error (.validation s!"unsupported configuration format: {format}")

/-- Names the prefix of the environment overrides, in upper case (in the full Unicode
mapping, so `ß` becomes `SS`). -/
def withEnvScope (l : Loader) (scope : String) : Loader :=
  { l with envScope := some (Text.upperText scope) }

/-- Applies the environment overrides, then checks the result. -/
def load (l : Loader) (env : Environment) : Except ConfigError Settings := do
  let s ← match l.envScope with
    | some p => applyOverrides l.settings env p
    | none => pure l.settings
  validateSettings s
  pure s

/-- The settings as loaded so far, with no overrides and no check. -/
def loadUnvalidated (l : Loader) : Settings := l.settings

end Loader

end Covenant.Config
