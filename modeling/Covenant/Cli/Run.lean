import Covenant.Cli.Parse
import Covenant.Config.Loader
import Covenant.Config.Logging
import Covenant.Contract.Source
import Covenant.Service.Gateway
import Covenant.Text.Upper

/-!
# The command line

Two commands, run against files and an environment:

* `resolve --contract FILE METHOD PATH` prints the resolution of a request, and succeeds
  when it matched;
* `validate` checks a payload (a file, or standard input) against the request body of an
  operation (`--contract FILE -X METHOD --path PATH`) or against a standalone schema
  (`--schema FILE`), prints whether it is valid with the findings, and succeeds when it is.

Before either runs, the settings are loaded: a `.env` file extends the environment, then
the settings file (`--config`, else `theseus.toml` when present), then the overrides named
`THESEUS__SECTION__KEY`; `--log-level` replaces the log filter last. Then the logger is
installed.

Output is pretty-printed JSON on standard output. A failure ends the run with status 1 and a
report on standard error: the error, then the errors beneath it.
-/

namespace Covenant.Cli

/-- The grammar of the command line. -/
def program : ProgramSpec where
  name := "theseus"
  title := "theseus-cli"
  version := "0.1.0"
  about := "Resolve requests and validate payloads against OpenAPI contracts"
  globals := [
    { id := "config", long := "config", valueName := "CONFIG",
      help := "Configuration file (TOML or JSON). Defaults to ./theseus.toml when present",
      refusesEmpty := true, env := some "THESEUS_CONFIG" },
    { id := "log_level", long := "log-level", valueName := "LOG_LEVEL",
      help := "Log filter override, e.g. `debug` or `theseus_paths=trace`" }]
  commands := [
    { name := "resolve", about := "Resolve a request method and path to a contract operation",
      options := [
        { id := "contract", long := "contract", short := some 'c', valueName := "CONTRACT",
          help := "OpenAPI contract (JSON or YAML)", refusesEmpty := true,
          env := some "THESEUS_CONTRACT", required := true }],
      positionals := [
        { id := "method", valueName := "METHOD", help := "Request method, e.g. GET" },
        { id := "path", valueName := "PATH", help := "Request path, e.g. /pets/42" }] },
    { name := "validate",
      about := "Validate a JSON payload against a request body or a standalone schema",
      options := [
        { id := "contract", long := "contract", short := some 'c', valueName := "CONTRACT",
          help := "OpenAPI contract whose request body schema is used", refusesEmpty := true,
          requires := ["method", "path"] },
        { id := "schema", long := "schema", short := some 's', valueName := "SCHEMA",
          help := "Standalone JSON Schema (JSON or YAML)", refusesEmpty := true },
        { id := "method", long := "method", short := some 'X', valueName := "METHOD",
          help := "Request method, with --contract" },
        { id := "path", long := "path", valueName := "PATH",
          help := "Request path, with --contract" },
        { id := "payload", long := "payload", short := some 'p', valueName := "PAYLOAD",
          help := "Payload file. Reads stdin when omitted", refusesEmpty := true }],
      group := some { id := "source", members := ["contract", "schema"] } }]

/-- The settings file used when none is named. -/
def defaultSettingsFile : String := "theseus.toml"

/-- The prefix of environment overrides. -/
def overrideScope : String := "THESEUS"

/-! ## Failures -/

/-- A failure report: what failed, then the errors beneath it, outermost first. -/
structure Failure where
  message : String
  causes : List String := []

namespace Failure

/-- The same failure under a description of what was being done. -/
def within (f : Failure) (context : String) : Failure :=
  { message := context, causes := f.message :: f.causes }

/-- A cause, its lines indented under a number (when there are several) or four spaces. -/
def indentCause (number : Option Nat) (text : String) : String :=
  let lines := text.splitOn "\n"
  let head := match number with
    | some n =>
      let digits := toString n
      spaces (5 - digits.length) ++ digits ++ ": "
    | none => "    "
  let rest := if number.isSome then "       " else "    "
  head ++ lines.headD "" ++ String.join (lines.tail.map fun l => "\n" ++ rest ++ l)

/-- The report: `Error: ` and the message, then the causes under `Caused by:`. -/
def render (f : Failure) : String :=
  let several := f.causes.length > 1
  let causes := if f.causes.isEmpty then ""
    else "\n\nCaused by:" ++ String.join (f.causes.zipIdx.map fun (c, i) =>
      "\n" ++ indentCause (if several then some i else none) c)
  "Error: " ++ f.message ++ causes ++ "\n"

end Failure

def Failure.ofConfig (e : Config.ConfigError) : Failure := { message := e.message, causes := e.causes }

def Failure.ofContract (e : ContractError) : Failure := { message := e.message, causes := e.causes }

/-- Lifts an error of another kind into a failure. -/
def orFail {ε α : Type} (r : Except ε α) (f : ε → Failure) : Except Failure α :=
  match r with
  | .ok a => .ok a
  | .error e => .error (f e)

/-! ## Settings -/

/-- The environment after loading `.env`, when the file exists. -/
def withDotenv (env : Config.Environment) (files : Files) : Config.Environment :=
  match files.lookup ".env" with
  | some (.file bytes) => Config.loadDotenvBytes env bytes
  | _ => env

/-- Loads the settings of a run. -/
def loadSettings (inv : Invocation) (env : Config.Environment) (files : Files) :
    Except Failure Settings := do
  let loader : Config.Loader := {}
  let loader ← match inv.get? "config" with
    | some path =>
      let context := s!"loading configuration from {path}"
      orFail (loader.withFile files path) (fun e => (Failure.ofConfig e).within context)
    | none => orFail (loader.withOptionalFile files defaultSettingsFile) Failure.ofConfig
  let settings ← orFail ((loader.withEnvScope overrideScope).load env) Failure.ofConfig
  match inv.get? "log_level" with
  | some level =>
    let settings := { settings with logging := { settings.logging with level := level } }
    orFail (Config.validateSettings settings) Failure.ofConfig
    pure settings
  | none => pure settings

/-! ## Commands -/

/-- Reads a method name in any case. -/
def parseMethod (name : String) : Except Failure Method :=
  match Method.parse? (Text.upperText name) with
  | some m => .ok m
  | none => .error { message := s!"invalid HTTP method '{name}'", causes := ["invalid HTTP method"] }

/-- Loads a contract file. -/
def loadContract (files : Files) (path : String) : Except Failure Contract :=
  orFail (Contract.ofFile files path) fun e => (Failure.ofContract e).within s!"loading contract {path}"

/-- `resolve`: the resolution, and whether it matched. -/
def runResolve (inv : Invocation) (settings : Settings) (files : Files) :
    Except Failure (Bool × Json) := do
  let contract ← loadContract files ((inv.get? "contract").getD "")
  let method ← parseMethod ((inv.get? "method").getD "")
  let g := Gateway.new contract settings.resolver settings.schema
  let r := g.resolve method ((inv.get? "path").getD "")
  pure (r.matched, r.toJson)

/-- The payload: a file's bytes, or standard input. -/
def readPayload (inv : Invocation) (files : Files) (stdin : ByteArray) :
    Except Failure (List UInt8) :=
  match inv.get? "payload" with
  | some path =>
    match files.readBytes path with
    | .ok bytes => .ok bytes.toList
    | .error e => .error { message := s!"reading payload {path}", causes := [e.message] }
  | none => .ok stdin.toList

/-- A standalone schema: JSON when the file's extension is `json`, YAML otherwise, placed
at its `type` key. -/
def loadSchema (files : Files) (path : String) : Except Failure SchemaDefinition := do
  let text ← match files.readText path with
    | .ok text => pure text
    | .error e => throw { message := s!"reading schema {path}", causes := [e.message] }
  let value ← if Files.extension path == some "json" then
      orFail (Json.read text) fun e => { message := e.message }
    else orFail (Yaml.read text) fun e => { message := e }
  let location := (SourceIndex.locate text ["type"]).getD .unknown
  pure ((SchemaDefinition.ofValue value).withLocation location)

/-- `validate`: the report, and whether the payload is valid. -/
def runValidate (inv : Invocation) (settings : Settings) (files : Files) (stdin : ByteArray) :
    Except Failure (Bool × Json) := do
  let payload ← readPayload inv files stdin
  let (valid, findings) ← match inv.get? "contract", inv.get? "schema" with
    | some path, _ => do
      let contract ← loadContract files path
      let method ← match inv.get? "method" with
        | some m => pure m
        | none => throw { message := "--method is required" }
      let requestPath ← match inv.get? "path" with
        | some p => pure p
        | none => throw { message := "--path is required" }
      let method ← parseMethod method
      pure ((Gateway.new contract settings.resolver settings.schema).checkBody method requestPath payload)
    | none, some path => do
      let schema ← loadSchema files path
      pure (Schema.checkPayload settings.schema schema payload)
    | none, none => throw { message := "either --contract or --schema is required" }
  pure (valid, .obj [("valid", .bool valid), ("errors", .arr (findings.map Finding.toJson))])

/-- Runs a parsed command: settings, logger, then the command. -/
def execute (inv : Invocation) (env : Config.Environment) (files : Files) (stdin : ByteArray) :
    Except Failure (Bool × Json) := do
  let settings ← loadSettings inv (withDotenv env files) files
  match (settings.logging.install false).1 with
  | .error e => throw (({ message := e.message } : Failure).within "initializing logging")
  | .ok () => pure ()
  if inv.command == "resolve" then runResolve inv settings files
  else runValidate inv settings files stdin

/-! ## Runs -/

/-- What a run printed and its exit status. -/
structure Outcome where
  exitCode : Nat
  stdout : String
  stderr : String

/-- Runs the command line `words` (without the program's name). -/
def run (words : List String) (env : Config.Environment) (files : Files) (stdin : ByteArray) :
    Outcome :=
  match parseCommandLine env program words with
  | .error (.help text) => ⟨0, text, ""⟩
  | .error (.version text) => ⟨0, text, ""⟩
  | .error (.usage text) => ⟨2, "", text⟩
  | .ok inv =>
    match execute inv env files stdin with
    | .ok (success, report) => ⟨if success then 0 else 1, Json.renderPretty report ++ "\n", ""⟩
    | .error f => ⟨1, "", f.render⟩

end Covenant.Cli
