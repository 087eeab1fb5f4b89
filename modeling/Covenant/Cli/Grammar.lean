import Covenant.Config.Environment

/-!
# Command-line grammar

A program takes global options and one subcommand; a subcommand takes options, values by
position, and at most one group of options of which exactly one must be given. Every option
takes one value. Options may be required, may be filled from an environment variable, and
may require other options.

From a grammar come the help pages and the usage lines of error messages:

* the help page lists, per section, each entry's name padded to the section's widest one,
  then its description; options are listed by their place in the declaration, ties broken
  by short name (lower case first) or else long name;
* a usage line names the command, then `[OPTIONS]` when some option is optional, then the
  required options, the required groups and the values by position.
-/

namespace Covenant.Cli

/-- An option taking one value: `--long <VALUE>`, perhaps also `-s <VALUE>`. -/
structure OptionSpec where
  id : String
  long : String
  short : Option Char := none
  valueName : String
  help : String
  /-- Whether an empty value is refused, as for values naming files. -/
  refusesEmpty : Bool := false
  env : Option String := none
  required : Bool := false
  requires : List String := []

/-- A value given by position. -/
structure PositionalSpec where
  id : String
  valueName : String
  help : String

/-- Options of which exactly one must be given. -/
structure GroupSpec where
  id : String
  members : List String

/-- A subcommand. -/
structure CommandSpec where
  name : String
  about : String
  options : List OptionSpec
  positionals : List PositionalSpec := []
  group : Option GroupSpec := none

/-- A program: global options (also accepted after a subcommand) and subcommands. -/
structure ProgramSpec where
  /-- The name used in usage lines. -/
  name : String
  /-- The name shown with the version. -/
  title : String
  version : String
  about : String
  globals : List OptionSpec
  commands : List CommandSpec

/-- What the help subcommand says about itself. -/
def helpAbout : String := "Print this message or the help of the given subcommand(s)"

/-- How an option is written in messages and usage lines. -/
def OptionSpec.display (o : OptionSpec) : String := s!"--{o.long} <{o.valueName}>"

/-- How a value by position is written in usage lines. -/
def PositionalSpec.display (p : PositionalSpec) : String := s!"<{p.valueName}>"

/-- One level of a command line: what may be given there. -/
structure Scope where
  /-- The command as written in usage lines, e.g. `prog sub`. -/
  usageName : String
  /-- The options, own first, then the global ones, with their places in the help page. -/
  options : List (OptionSpec × Nat)
  positionals : List PositionalSpec
  group : Option GroupSpec
  /-- Whether `-V` and `--version` are accepted. -/
  hasVersion : Bool
  /-- Subcommand names, the help subcommand last; empty below the top. -/
  subcommands : List (String × String)

namespace Scope

/-- The top level of a program. -/
def top (p : ProgramSpec) : Scope where
  usageName := p.name
  options := p.globals.zipIdx
  positionals := []
  group := none
  hasVersion := true
  subcommands := p.commands.map (fun c => (c.name, c.about)) ++ [("help", helpAbout)]

/-- The level of a subcommand, which also accepts the global options. -/
def sub (p : ProgramSpec) (c : CommandSpec) : Scope where
  usageName := p.name ++ " " ++ c.name
  options := c.options.zipIdx ++ p.globals.zipIdx
  positionals := c.positionals
  group := c.group
  hasVersion := false
  subcommands := []

def findOption (s : Scope) (id : String) : Option OptionSpec :=
  (s.options.find? (·.1.id == id)).map (·.1)

def findLong (s : Scope) (name : String) : Option OptionSpec :=
  (s.options.find? (·.1.long == name)).map (·.1)

def findShort (s : Scope) (c : Char) : Option OptionSpec :=
  (s.options.find? (·.1.short == some c)).map (·.1)

/-- The index of a value by position. -/
def positionIndex (s : Scope) (id : String) : Option Nat :=
  (s.positionals.findIdx? (·.id == id))

def isGroup (s : Scope) (id : String) : Bool := s.group.any (·.id == id)

/-- The group an option belongs to, if any. -/
def groupOf (s : Scope) (id : String) : Option String :=
  match s.group with
  | some g => if g.members.contains id then some g.id else none
  | none => none

/-- The long names, in the order they are looked up for suggestions. -/
def longNames (s : Scope) : List String :=
  let own := s.options.map (·.1.long)
  own ++ ["help"] ++ (if s.hasVersion then ["version"] else [])

/-- How an entry is written in usage lines: an option, a value by position or a group. -/
def display (s : Scope) (id : String) : String :=
  if id == "help" || id == "version" then "--" ++ id else
  match s.findOption id with
  | some o => o.display
  | none =>
    match s.positionals.find? (·.id == id) with
    | some p => p.display
    | none =>
      match s.group with
      | some g =>
        "<" ++ "|".intercalate (g.members.filterMap fun m => (s.findOption m).map (·.display)) ++ ">"
      | none => id

/-- What must be given at this level before anything is checked: the required options and
values by position, then the group. -/
def requiredIds (s : Scope) : List String :=
  (s.options.filter (·.1.required)).map (·.1.id) ++ s.positionals.map (·.id) ++
    (s.group.map (·.id)).toList

/-- The usage entries for some required entries and some entries given: options first, then
groups, then values by position in order. Entries that `present` holds are left out, and so
are the members of a group that is listed. -/
def requiredUsage (s : Scope) (required given : List String) (present : String → Bool) :
    List String :=
  let all := required ++ given
  let groups := all.filter fun id =>
    s.isGroup id && !(s.group.any fun g => g.members.any present)
  let members := groups.flatMap fun id => (s.group.filter (·.id == id)).toList.flatMap (·.members)
  let args := all.filter fun id => !s.isGroup id && !members.contains id && !present id
  let isFlag (id : String) : Bool := id == "help" || id == "version"
  let options := (args.filter fun id => (s.findOption id).isSome || isFlag id).map s.display
  let positions := (List.range s.positionals.length).filterMap fun i =>
    match s.positionals[i]? with
    | some p => if args.contains p.id then some p.display else none
    | none => none
  options.eraseDups ++ (groups.map s.display).eraseDups ++ positions

/-- Whether the usage line needs `[OPTIONS]`: some option is neither required nor in a
group. -/
def needsOptionsTag (s : Scope) : Bool :=
  s.options.any fun (o, _) => !o.required && (s.groupOf o.id).isNone

/-- The usage line of the help page. -/
def helpUsage (s : Scope) : String :=
  let parts := (if s.needsOptionsTag then ["[OPTIONS]"] else []) ++
    s.requiredUsage s.requiredIds [] (fun _ => false) ++
    (if s.subcommands.isEmpty then [] else ["<COMMAND>"])
  " ".intercalate (s.usageName :: parts)

/-- The usage line naming what is required and what was given. -/
def smartUsage (s : Scope) (required given : List String) : String :=
  let parts := s.requiredUsage required given (fun _ => false) ++
    (if s.subcommands.isEmpty then [] else ["<COMMAND>"])
  " ".intercalate (s.usageName :: parts)

/-- The usage line of an error: the help page's when nothing was given. -/
def errorUsage (s : Scope) (required given : List String) : String :=
  "Usage: " ++ (if given.isEmpty then s.helpUsage else s.smartUsage required given)

end Scope

/-! ## Help pages -/

/-- Spaces. -/
def spaces (n : Nat) : String := String.ofList (List.replicate n ' ')

/-- A section of a help page: a heading, then the entries with their names padded to the
widest. -/
def helpSection (heading : String) (entries : List (String × String)) : String :=
  let width := entries.foldl (fun w e => max w e.1.length) 0
  let lines := entries.map fun (name, help) => "  " ++ name ++ spaces (width - name.length + 2) ++ help
  heading ++ ":\n" ++ "\n".intercalate lines

/-- The key that orders options of one place: the short name in lower case, marked by its
case, or else the long name. -/
def sortKey (short : Option Char) (long : String) : String :=
  match short with
  | some c => String.ofList [c.toLower, if c.isLower then '0' else '1']
  | none => long

/-- An option's line in a help page, with the current value of its variable. -/
def optionEntry (env : Config.Environment) (o : OptionSpec) : String × String :=
  let shortPart := match o.short with
    | some c => String.ofList ['-', c, ',', ' ']
    | none => "    "
  let envPart := match o.env with
    | some name =>
      let value := (env.get? name).getD ""
      s!" [env: {name}={value}]"
    | none => ""
  (shortPart ++ o.display, o.help ++ envPart)

/-- Orders help entries by place, then by key. -/
def insertEntry (e : Nat × String × (String × String)) :
    List (Nat × String × (String × String)) → List (Nat × String × (String × String))
  | [] => [e]
  | d :: rest =>
    if e.1 < d.1 || (e.1 == d.1 && e.2.1 < d.2.1) then e :: d :: rest
    else d :: insertEntry e rest

/-- The place of the help and version flags: after every declared option. -/
def flagPlace : Nat := 1000000

/-- The options section of a level. -/
def optionsSection (env : Config.Environment) (s : Scope) : String :=
  let declared := s.options.map fun (o, place) => (place, sortKey o.short o.long, optionEntry env o)
  let flags := [(flagPlace, sortKey (some 'h') "help", ("-h, --help", "Print help"))] ++
    (if s.hasVersion then [(flagPlace, sortKey (some 'V') "version", ("-V, --version", "Print version"))]
     else [])
  let sorted := (declared ++ flags).foldl (fun acc e => insertEntry e acc) []
  helpSection "Options" (sorted.map (·.2.2))

/-- The help page of a level. -/
def helpPage (env : Config.Environment) (about : String) (s : Scope) : String :=
  let sections :=
    (if s.subcommands.isEmpty then [] else [helpSection "Commands" s.subcommands]) ++
    (if s.positionals.isEmpty then []
     else [helpSection "Arguments" (s.positionals.map fun p => (p.display, p.help))]) ++
    [optionsSection env s]
  about ++ "\n\nUsage: " ++ s.helpUsage ++ "\n\n" ++ "\n\n".intercalate sections ++ "\n"

/-- The help page of the help subcommand itself. -/
def helpSubcommandPage (programName : String) : String :=
  helpAbout ++ "\n\nUsage: " ++ programName ++ " help [COMMAND]...\n\n" ++
    helpSection "Arguments" [("[COMMAND]...", "Print help for the subcommand(s)")] ++ "\n"

end Covenant.Cli
