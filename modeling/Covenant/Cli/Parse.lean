import Covenant.Cli.Grammar
import Covenant.Cli.Similarity

/-!
# Reading a command line

A command line is read from left to right against a grammar, one level at a time: the
global options and the subcommand's name at the top, then the subcommand's own words.

* `--name value`, `--name=value`, `-s value`, `-svalue` and `-s=value` give an option its
  value; a word that starts with `-` is never taken as a value.
* `-h`/`--help` (and `-V`/`--version` at the top) answer at once.
* After `--` every word is a value by position.
* Options not given are filled from their environment variables, once the level is read.
* Then the level is checked: at most one option of a group, and every required entry given
  (an option's requirements count once it is given).

Global options may be given at either level; the subcommand's value wins, unless only the
environment gave it and the top level had it from the command line.

Any problem stops the reading with a message laid out as `error: ...`, tips, the usage line
and a pointer to `--help`.
-/

namespace Covenant.Cli

/-- Where a value came from; the command line outranks the environment. -/
inductive Source where
  | environment
  | commandLine
  deriving DecidableEq, BEq

/-- What one level of a command line has matched: entries in the order first met (a group
is entered right after its first member), and their values. -/
structure Matched where
  order : List String := []
  values : List (String × String × Source) := []

namespace Matched

def has (m : Matched) (id : String) : Bool := m.order.contains id

def value? (m : Matched) (id : String) : Option (String × Source) :=
  (m.values.find? (·.1 == id)).map (·.2)

/-- Records a value, entering the option's group when it is the first member met. -/
def add (s : Scope) (m : Matched) (id value : String) (source : Source) : Matched :=
  let order := if m.order.contains id then m.order else m.order ++ [id]
  let order := match s.groupOf id with
    | some g => if order.contains g then order else order ++ [g]
    | none => order
  { order := order, values := m.values ++ [(id, value, source)] }

/-- The options and values given, without groups. -/
def given (s : Scope) (m : Matched) : List String := m.order.filter (!s.isGroup ·)

end Matched

/-- Why reading stopped before a command could run. -/
inductive Stop where
  /-- A help page, written to standard output. -/
  | help (text : String)
  /-- The version line, written to standard output. -/
  | version (text : String)
  /-- A usage error (or a help page shown for want of arguments), written to standard
  error. -/
  | usage (text : String)

/-- An error message with its tips and usage line, for a level without a help flag. -/
def errorLines (message : String) (tips : List String) (usage : Option String) : String :=
  let tipText := if tips.isEmpty then "" else "\n" ++ String.join (tips.map ("\n  tip: " ++ ·))
  let usageText := match usage with
    | some u => "\n\n" ++ u
    | none => ""
  "error: " ++ message ++ tipText ++ usageText ++ "\n"

/-- An error message with its tips and usage line, pointing at the help flag. -/
def errorText (message : String) (tips : List String) (usage : Option String) : String :=
  errorLines message tips usage ++ "\nFor more information, try '--help'.\n"

/-- The error for an option left without a value. -/
def emptyValue (o : OptionSpec) : Stop :=
  .usage (errorText s!"a value is required for '{o.display}' but none was supplied" [] none)

/-- A tip naming similar subcommands. -/
def similarTip (what : String) (names : List String) : String :=
  let quoted := ", ".intercalate (names.map fun n => "'" ++ n ++ "'")
  match names with
  | [_] => s!"a similar {what} exists: {quoted}"
  | _ => s!"some similar {what}s exist: {quoted}"

/-- The state of reading one level. -/
structure Reading where
  matched : Matched := {}
  /-- An option still waiting for its value. -/
  pending : Option OptionSpec := none
  /-- Whether `--` has been read. -/
  trailing : Bool := false
  /-- How many values by position have been read. -/
  position : Nat := 0

section Level

variable (env : Config.Environment) (p : ProgramSpec) (s : Scope) (about : String)

/-- The help page of the level. -/
def levelHelp : String := helpPage env about s

/-- Fails for an option still waiting for its value. -/
def settlePending (r : Reading) : Except Stop Unit :=
  match r.pending with
  | some o => .error (emptyValue o)
  | none => .ok ()

/-- Gives an option its value: an option may be given once, and some refuse an empty
value. -/
def assign (r : Reading) (o : OptionSpec) (value : String) : Except Stop Reading :=
  if r.matched.has o.id then
    let text := errorText s!"the argument '{o.display}' cannot be used multiple times" []
      (some (s.errorUsage s.requiredIds []))
    .error (.usage text)
  else if o.refusesEmpty && value.isEmpty then .error (emptyValue o)
  else .ok { r with matched := r.matched.add s o.id value .commandLine, pending := none }

/-- The error for a word that is neither an option nor a value the level can take. -/
def strayWord (r : Reading) (word : String) : Stop :=
  let usage := some ("Usage: " ++ s.helpUsage)
  if r.trailing && (s.subcommands.any (·.1 == word)) then
    .usage (errorText s!"unexpected argument '{word}' found"
      [s!"subcommand '{word}' exists; to use it, remove the '--' before it"] usage)
  else if !s.subcommands.isEmpty then
    let similar := similarNames word (s.subcommands.map (·.1))
    let tips := if similar.isEmpty then [] else [similarTip "subcommand" similar]
    .usage (errorText s!"unrecognized subcommand '{word}'" tips usage)
  else .usage (errorText s!"unexpected argument '{word}' found" [] usage)

/-- The error for an unknown `--name`: a similar name of this level, or else of a
subcommand named later on the line, is offered. -/
def unknownLong (r : Reading) (name : String) (rest : List String) : Stop :=
  let similar := closestName name s.longNames
  let fromCommand : Option (String × String) :=
    match similar with
    | some _ => none
    | none =>
      let offers := p.commands.filterMap fun c =>
        match closestName name (Scope.sub p c).longNames, rest.idxOf? c.name with
        | some flag, some at_ => some (at_, c.name, flag)
        | _, _ => none
      let best := offers.foldl (fun acc o =>
        match acc with
        | some b => if o.1 < b.1 then some o else some b
        | none => some o) none
      best.map (·.2)
  let matched := match similar with
    | some flag =>
      match s.findLong flag with
      | some o => if r.matched.has o.id then r.matched else r.matched.add s o.id "" .commandLine
      | none => { r.matched with order := r.matched.order ++ [flag] }
    | none => r.matched
  let required := s.requiredIds
  let used := matched.order
  let trailingTip := similar.isNone && !r.trailing && !s.positionals.isEmpty
  let tips := (similar.map fun flag => s!"a similar argument exists: '--{flag}'").toList ++
    (if trailingTip then [s!"to pass '--{name}' as a value, use '-- --{name}'"] else []) ++
    (fromCommand.map fun (c, flag) => s!"'{c} --{flag}' exists").toList
  .usage (errorText s!"unexpected argument '--{name}' found" tips (some (s.errorUsage required used)))

/-- The error for an unknown `-c`. -/
def unknownShort (r : Reading) (c : Char) : Stop :=
  let flag := String.ofList ['-', c]
  let tips := if !r.trailing && !s.positionals.isEmpty then
      [s!"to pass '{flag}' as a value, use '-- {flag}'"] else []
  .usage (errorText s!"unexpected argument '{flag}' found" tips (some ("Usage: " ++ s.helpUsage)))

/-- Takes a word as the next value by position. -/
def takePositional (r : Reading) (word : String) : Except Stop Reading := do
  settlePending r
  match s.positionals[r.position]? with
  | some pos =>
    pure { r with matched := r.matched.add s pos.id word .commandLine, position := r.position + 1 }
  | none => throw (strayWord s r word)

/-- Answers `--help` or `--version`, once no option is waiting for a value. -/
def answerFlag (r : Reading) (version : Bool) : Except Stop Reading := do
  settlePending r
  if version then throw (.version s!"{p.title} {p.version}\n")
  else throw (.help (levelHelp env s about))

/-- Reads `--name` or `--name=value`. -/
def readLong (r : Reading) (body : String) (rest : List String) : Except Stop Reading :=
  let cs := body.toList
  let name := String.ofList (cs.takeWhile (· != '='))
  let attached : Option String :=
    if name.length == cs.length then none else some (String.ofList (cs.drop (name.length + 1)))
  let isVersion := name == "version" && s.hasVersion
  if name == "help" || isVersion then
    match attached with
    | some v =>
      let used := (r.matched.given s).filter (fun id => !(s.requiredIds.contains id)) ++ [name]
      .error (.usage (errorText s!"unexpected value '{v}' for '--{name}' found; no more were expected"
        [] (some (s.errorUsage s.requiredIds used))))
    | none => answerFlag env p s about r isVersion
  else
    match s.findLong name with
    | some o =>
      match attached with
      | some v => do
        settlePending r
        assign s r o v
      | none => do
        settlePending r
        pure { r with pending := some o }
    | none => .error (unknownLong p s r name rest)

/-- Reads a word starting with a single `-`: a flag, or an option with or without its
value attached. -/
def readShort (r : Reading) (body : List Char) : Except Stop Reading :=
  match body with
  | [] => .ok r
  | c :: after =>
    if c == 'h' then answerFlag env p s about r false
    else if c == 'V' && s.hasVersion then answerFlag env p s about r true
    else
      match s.findShort c with
      | some o =>
        if after.isEmpty then do
          settlePending r
          pure { r with pending := some o }
        else do
          settlePending r
          let value := match after with
            | '=' :: v => String.ofList v
            | v => String.ofList v
          assign s r o value
      | none => .error (unknownShort s r c)

/-- Reads the words of one level until they run out or a subcommand is named. -/
def readWords : List String → Reading → Except Stop (Reading × Option (String × List String))
  | [], r => .ok (r, none)
  | word :: rest, r =>
    if r.trailing then do
      let r ← takePositional s r word
      readWords rest r
    else if r.pending.isNone && s.subcommands.any (·.1 == word) then .ok (r, some (word, rest))
    else if word == "--" then readWords rest { r with trailing := true }
    else if word.startsWith "--" then do
      let r ← readLong env p s about r (word.drop 2).toString rest
      readWords rest r
    else if word.startsWith "-" && word != "-" then do
      let r ← readShort env p s about r (word.toList.drop 1)
      readWords rest r
    else
      match r.pending with
      | some o => do
        let r ← assign s r o word
        readWords rest r
      | none => do
        let r ← takePositional s r word
        readWords rest r

/-- Fills options not given from their environment variables. -/
def fillFromEnvironment (m : Matched) : Except Stop Matched :=
  s.options.foldlM (fun m (o, _) =>
    if m.has o.id then .ok m
    else
      match o.env.bind env.get? with
      | some v => if o.refusesEmpty && v.isEmpty then .error (emptyValue o) else .ok (m.add s o.id v .environment)
      | none => .ok m) m

/-- Checks that at most one option of the group is given: the first one met names the
others. -/
def checkConflicts (m : Matched) : Except Stop Unit :=
  match s.group with
  | none => .ok ()
  | some g =>
    let given := (m.given s).filter g.members.contains
    match given with
    | first :: others@(_ :: _) =>
      let others := others.eraseDups
      let othersText := match others.map s.display with
        | [one] => s!" '{one}'"
        | many => ":" ++ String.join (many.map ("\n  " ++ ·))
      let used := (m.given s).filter (!others.contains ·)
      let needed := (used.flatMap fun id => ((s.findOption id).map (·.requires)).getD []).filter
        (fun id => !used.contains id && !others.contains id)
      let firstText := s.display first
      let text := errorText s!"the argument '{firstText}' cannot be used with{othersText}" []
        (some (s.errorUsage s.requiredIds (needed ++ used)))
      .error (.usage text)
    | _ => .ok ()

/-- Checks that every required entry is given, the requirements of given options included. -/
def checkRequired (m : Matched) : Except Stop Unit :=
  let gathered := (m.given s).flatMap fun id => ((s.findOption id).map (·.requires)).getD []
  let required := (s.requiredIds ++ gathered).eraseDups
  let present (id : String) : Bool :=
    if s.isGroup id then s.group.any fun g => g.members.any m.has else m.has id
  let missing := required.filter (!present ·)
  if missing.isEmpty then .ok ()
  else
    let listed := s.requiredUsage required missing present
    let message := "the following required arguments were not provided:" ++
      String.join (listed.map ("\n  " ++ ·))
    .error (.usage (errorText message [] (some (s.errorUsage required (m.given s ++ missing)))))

/-- Finishes a level once its words are read: no option may wait for a value, options not
given are taken from the environment, and the level is checked. -/
def finishLevel (r : Reading) : Except Stop Matched := do
  settlePending r
  let m ← fillFromEnvironment env s r.matched
  checkConflicts s m
  checkRequired s m
  pure m

end Level

/-- The help subcommand: the help page of the subcommand it names, if any. -/
def helpFor (env : Config.Environment) (p : ProgramSpec) : List String → Stop
  | [] => .help (helpPage env p.about (Scope.top p))
  | name :: rest =>
    let unrecognized (s : Scope) (word : String) : Stop :=
      .usage (errorText s!"unrecognized subcommand '{word}'" [] (some ("Usage: " ++ s.helpUsage)))
    if name == "help" then
      match rest with
      | [] => .help (helpSubcommandPage p.name)
      | word :: _ =>
        .usage (errorLines s!"unrecognized subcommand '{word}'" []
          (some ("Usage: " ++ p.name ++ " help [COMMAND]...")))
    else
      match p.commands.find? (·.name == name) with
      | some c =>
        match rest with
        | [] => .help (helpPage env c.about (Scope.sub p c))
        | word :: _ => unrecognized (Scope.sub p c) word
      | none => unrecognized (Scope.top p) name

/-- A command ready to run: its name and the values of its options and positions. -/
structure Invocation where
  command : String
  values : List (String × String)

namespace Invocation

def get? (i : Invocation) (id : String) : Option String := i.values.lookup id

end Invocation

/-- A global option's value: the subcommand's, unless the top level has a value from a
better source. -/
def mergeGlobal (top sub : Matched) (id : String) : Option String :=
  match top.value? id, sub.value? id with
  | some (v, .commandLine), some (_, .environment) => some v
  | _, some (v, _) => some v
  | some (v, _), none => some v
  | none, none => none

/-- Reads a whole command line (without the program's name). -/
def parseCommandLine (env : Config.Environment) (p : ProgramSpec) (words : List String) :
    Except Stop Invocation := do
  let top := Scope.top p
  let (r, entered) ← readWords env p top p.about words {}
  match entered with
  | some ("help", rest) => throw (helpFor env p rest)
  | some (name, rest) =>
    match p.commands.find? (·.name == name) with
    | none => throw (.usage (errorText s!"unrecognized subcommand '{name}'" [] none))
    | some c =>
      let scope := Scope.sub p c
      let (rs, inner) ← readWords env p scope c.about rest {}
      match inner with
      | some (word, _) => throw (strayWord scope rs word)
      | none =>
        let sub ← finishLevel env scope rs
        let topMatched ← finishLevel env top r
        let globals := p.globals.filterMap fun o =>
          (mergeGlobal topMatched sub o.id).map (o.id, ·)
        let own := sub.values.filterMap fun (id, v, _) =>
          if p.globals.any (·.id == id) then none else some (id, v)
        pure { command := name, values := own ++ globals }
  | none =>
    settlePending r
    let m ← fillFromEnvironment env top r.matched
    if m.order.isEmpty then throw (.usage (helpPage env p.about top))
    else
      let names := ", ".intercalate (top.subcommands.map (·.1))
      let message := s!"'{p.name}' requires a subcommand but one was not provided\n  [subcommands: {names}]"
      throw (.usage (errorText message [] (some ("Usage: " ++ top.helpUsage))))

end Covenant.Cli
