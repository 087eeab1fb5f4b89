import Covenant.Route.Resolve
import Covenant.Schema.Check

/-!
# Settings

The settings of a whole run, in three sections: how requests are resolved, what schema
failure findings carry, and how logging is set up. Every field has a default, and a
development preset turns on parameter type reports and verbose, human-readable logs.
-/

namespace Covenant

/-- How log lines are written. -/
inductive LogFormat where
  | json
  | pretty
  deriving DecidableEq, BEq, Repr

namespace LogFormat

def name : LogFormat → String
  | .json => "json"
  | .pretty => "pretty"

/-- Reads a format name without regard to case. -/
def parse? (s : String) : Option LogFormat :=
  match s.toLower with
  | "json" => some .json
  | "pretty" => some .pretty
  | _ => none

end LogFormat

/-- Logging settings: whether to log, the filter, the line format, and what each line
carries. -/
structure LogSettings where
  enabled : Bool := true
  level : String := "info"
  format : LogFormat := .json
  includeTarget : Bool := true
  fileLineInfo : Bool := false
  deriving BEq, Repr

/-- Verbose, human-readable logs with source positions. -/
def LogSettings.development : LogSettings :=
  { level := "debug", format := .pretty, fileLineInfo := true }

/-- The settings of a run. -/
structure Settings where
  resolver : Route.ResolverConfig := {}
  schema : Schema.Settings := {}
  logging : LogSettings := {}

namespace Settings

/-- Parameter type reports and development logging. -/
def development : Settings :=
  { resolver := { reportParameterTypes := true }, logging := LogSettings.development }

/-- The JSON form of the settings. -/
def toJson (s : Settings) : Json :=
  .obj [
    ("resolver", .obj [("match_order", .str s.resolver.matchOrder.name),
      ("report_parameter_types", .bool s.resolver.reportParameterTypes)]),
    ("schema", .obj [("locate_failures", .bool s.schema.locateFailures),
      ("attach_rendered_schema", .bool s.schema.attachRenderedSchema)]),
    ("logging", .obj [("enabled", .bool s.logging.enabled), ("level", .str s.logging.level),
      ("format", .str s.logging.format.name), ("include_target", .bool s.logging.includeTarget),
      ("file_line_info", .bool s.logging.fileLineInfo)])]

end Settings

end Covenant
