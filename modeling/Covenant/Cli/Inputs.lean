import Covenant.Cli.Run

/-!
# What a run reads

A run depends on a few environment variables, a few files and perhaps standard input. These
are named here, so that the executable can gather exactly them before the run:

* the variables the command line and the settings read, and every name a `.env` file
  mentions (it may define them or refer to them);
* `.env`, the settings file, and the files the command names;
* standard input, when `validate` has no `--payload`.
-/

namespace Covenant.Cli

/-- The variables every run may read. -/
def fixedNames : List String :=
  ["THESEUS_CONFIG", "THESEUS_CONTRACT"] ++
    (["RESOLVER__MATCH_ORDER", "RESOLVER__REPORT_PARAMETER_TYPES", "SCHEMA__LOCATE_FAILURES",
      "SCHEMA__ATTACH_RENDERED_SCHEMA", "LOGGING__ENABLED", "LOGGING__LEVEL", "LOGGING__FORMAT",
      "LOGGING__INCLUDE_TARGET", "LOGGING__FILE_LINE_INFO"].map (overrideScope ++ "__" ++ ·))

/-- Every word of a `.env` text that could name a variable. -/
def dotenvNames (text : String) : List String :=
  let isNameChar (c : Char) : Bool := c.isAlphanum || c == '_' || c == '.'
  let step (acc : List String × List Char) (c : Char) : List String × List Char :=
    if isNameChar c then (acc.1, c :: acc.2)
    else if acc.2.isEmpty then acc
    else (String.ofList acc.2.reverse :: acc.1, [])
  let (words, last) := text.toList.foldl step ([], [])
  let words := if last.isEmpty then words else String.ofList last.reverse :: words
  words.reverse.eraseDups

/-- The files and input a run reads. -/
structure Needs where
  paths : List String
  stdin : Bool

/-- What the command line `words` will read, given the environment. -/
def needs (words : List String) (env : Config.Environment) : Needs :=
  match parseCommandLine env program words with
  | .ok inv =>
    { paths := [".env", (inv.get? "config").getD defaultSettingsFile] ++
        (["contract", "schema", "payload"].filterMap inv.get?),
      stdin := inv.command == "validate" && (inv.get? "payload").isNone }
  | .error _ => { paths := [], stdin := false }

end Covenant.Cli
