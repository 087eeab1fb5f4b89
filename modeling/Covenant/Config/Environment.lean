import Covenant.Text.Blank

/-!
# Process environment and `.env` files

The environment is a list of named values. A `.env` file adds `NAME=value` lines to it
without replacing names already set, stopping at the first malformed line (the lines before
it stay loaded).

Lines may start with `export`; `#` starts a comment line, or a trailing comment after a
blank. Values may be bare, single-quoted (taken literally), or double-quoted (with the
escapes `\\ \' \" \$ \n` and a space); a quoted value may run over several lines. Outside
single quotes, `$NAME` and `${NAME}` are replaced by the environment's value of `NAME`, or
else by the value the file gave it earlier, or else by nothing.
-/

namespace Covenant.Config

/-- Named values of a process environment, each name once. -/
structure Environment where
  vars : List (String × String) := []

namespace Environment

def get? (e : Environment) (name : String) : Option String := e.vars.lookup name

/-- Sets a name, replacing its value when present. -/
def set (e : Environment) (name value : String) : Environment :=
  if e.vars.any (·.1 == name) then
    { vars := e.vars.map fun p => if p.1 == name then (name, value) else p }
  else { vars := e.vars ++ [(name, value)] }

/-- Removes the names a test selects. -/
def removeWhere (e : Environment) (p : String → Bool) : Environment :=
  { vars := e.vars.filter (!p ·.1) }

end Environment

/-! ## Reading `.env` lines -/

/-- How far a line's quoting has got: used to join lines of a quoted value. -/
inductive QuoteState where
  | complete
  | escape
  | weakOpen
  | weakOpenEscape
  | strongOpen
  | whiteSpace
  | comment
  deriving DecidableEq, BEq

/-- Runs the quoting state over a line's characters; a comment after a blank ends the line
at the position of `#`. Returns the state and, for a comment, where the line is cut. -/
def quoteState (start : QuoteState) (line : List Char) : QuoteState × Option Nat :=
  let rec go : List Char → Nat → QuoteState → QuoteState × Option Nat
    | [], _, s => (s, none)
    | c :: rest, i, s =>
      match s with
      | .whiteSpace =>
        if c == '#' then (.comment, some i)
        else go rest (i + 1) (if c == '\\' then .escape else if c == '"' then .weakOpen
          else if c == '\'' then .strongOpen else .complete)
      | .escape => go rest (i + 1) .complete
      | .complete =>
        go rest (i + 1) (if Text.isBlank c && c != '\n' && c != '\r' then .whiteSpace
          else if c == '\\' then .escape else if c == '"' then .weakOpen
          else if c == '\'' then .strongOpen else .complete)
      | .weakOpen => go rest (i + 1) (if c == '\\' then .weakOpenEscape else if c == '"' then .complete else .weakOpen)
      | .weakOpenEscape => go rest (i + 1) .weakOpen
      | .strongOpen => go rest (i + 1) (if c == '\'' then .complete else .strongOpen)
      | .comment => (.comment, some i)
  go line 0 start

/-- Splits text into lines that keep their line breaks. -/
def physicalLines (text : String) : List (List Char) :=
  let rec go : Nat → List Char → List Char → List (List Char) → List (List Char)
    | 0, _, cur, acc => (if cur.isEmpty then acc else cur.reverse :: acc).reverse
    | _, [], cur, acc => (if cur.isEmpty then acc else cur.reverse :: acc).reverse
    | fuel + 1, c :: rest, cur, acc =>
      if c == '\n' then go fuel rest [] ((c :: cur).reverse :: acc) else go fuel rest (c :: cur) acc
  let cs := text.toList
  go (cs.length + 1) cs [] []

/-- Logical lines: quoted values joined across physical lines, comment lines emptied,
trailing comments cut, line breaks removed. `none` marks text that ends inside a quote, after
an escape, or after a trailing blank. -/
def logicalLines (text : String) : List (Option String) :=
  let rec go : Nat → List (List Char) → List (Option String)
    | 0, _ => []
    | _, [] => []
    | fuel + 1, first :: rest =>
      if (Text.trimStart (String.ofList first)).startsWith "#" then some "" :: go fuel rest
      else
        let rec gather : Nat → QuoteState → List Char → List (List Char) →
            Option (List Char × List (List Char))
          | 0, _, _, _ => none
          | k + 1, state, buf, pending =>
            match pending with
            | [] => none
            | line :: more =>
              let (state', cut) := quoteState state line
              let buf' := buf ++ line
              match state' with
              | .complete =>
                let trimmed := if buf'.getLast? == some '\n' then buf'.dropLast else buf'
                let trimmed := if trimmed.getLast? == some '\r' then trimmed.dropLast else trimmed
                some (trimmed, more)
              | .comment => some (buf ++ line.take (cut.getD line.length), more)
              | _ => gather k state' buf' more
        match gather (rest.length + 2) .complete [] (first :: rest) with
        | some (line, more) => some (String.ofList line) :: go fuel more
        | none => [none]
  let lines := physicalLines text
  go (lines.length + 1) lines

/-- Whether a character may start a name. -/
def isNameStart (c : Char) : Bool := ('a' ≤ c && c ≤ 'z') || ('A' ≤ c && c ≤ 'Z') || c == '_'

def isNameChar (c : Char) : Bool := isNameStart c || ('0' ≤ c && c ≤ '9') || c == '.'

/-- The value a substitution gives: the environment's, else the file's earlier one. -/
def substitute (env : Environment) (seen : List (String × String)) (name : String) : String :=
  match env.get? name with
  | some v => v
  | none => (seen.lookup name).getD ""

/-- The value part of a line after `=`, with quotes, escapes and substitutions resolved. -/
def parseValue (env : Environment) (seen : List (String × String)) (input : List Char) :
    Option String :=
  -- mode: 0 none, 1 `$NAME`, 2 `${NAME}`
  let rec go : List Char → Bool → Bool → Bool → Bool → Nat → List Char → List Char →
      Option String
    | [], strong, weak, _, _, mode, name, out =>
      if mode == 2 || strong || weak then none
      else
        let sub := if mode == 0 then "" else substitute env seen (String.ofList name.reverse)
        some (String.ofList out.reverse ++ sub)
    | c :: rest, strong, weak, escaped, expectingEnd, mode, name, out =>
      if expectingEnd then
        if c == ' ' || c == '\t' then go rest strong weak escaped expectingEnd mode name out
        else if c == '#' then
          let sub := if mode == 0 then "" else substitute env seen (String.ofList name.reverse)
          some (String.ofList out.reverse ++ sub)
        else none
      else if escaped then
        if c == '\\' || c == '\'' || c == '"' || c == '$' || c == ' ' then
          go rest strong weak false expectingEnd mode name (c :: out)
        else if c == 'n' then go rest strong weak false expectingEnd mode name ('\n' :: out)
        else none
      else if strong then
        if c == '\'' then go rest false weak escaped expectingEnd mode name out
        else go rest strong weak escaped expectingEnd mode name (c :: out)
      else if mode != 0 then
        if c.isAlphanum then go rest strong weak escaped expectingEnd mode (c :: name) out
        else if mode == 1 then
          if c == '\x7b' && name.isEmpty then go rest strong weak escaped expectingEnd 2 name out
          else
            let sub := (substitute env seen (String.ofList name.reverse)).toList.reverse
            if c == '$' then go rest strong weak escaped expectingEnd 1 [] (sub ++ out)
            else go rest strong weak escaped expectingEnd 0 [] (c :: sub ++ out)
        else if c == '\x7d' then
          let sub := (substitute env seen (String.ofList name.reverse)).toList.reverse
          go rest strong weak escaped expectingEnd 0 [] (sub ++ out)
        else go rest strong weak escaped expectingEnd mode (c :: name) out
      else if c == '$' then go rest strong weak escaped expectingEnd 1 [] out
      else if weak then
        if c == '"' then go rest strong false escaped expectingEnd mode name out
        else if c == '\\' then go rest strong weak true expectingEnd mode name out
        else go rest strong weak escaped expectingEnd mode name (c :: out)
      else if c == '\'' then go rest true weak escaped expectingEnd mode name out
      else if c == '"' then go rest strong true escaped expectingEnd mode name out
      else if c == '\\' then go rest strong weak true expectingEnd mode name out
      else if c == ' ' || c == '\t' then go rest strong weak escaped true mode name out
      else go rest strong weak escaped expectingEnd mode name (c :: out)
  go input false false false false 0 [] []

/-- One logical line: `none` for a malformed line, `some none` for a blank or comment line,
and otherwise the name and value it sets. -/
def parseLine (env : Environment) (seen : List (String × String)) (line : String) :
    Option (Option (String × String)) :=
  let skip (cs : List Char) : List Char := cs.dropWhile Text.isBlank
  let cs := skip (Text.trimEnd line).toList
  let key (cs : List Char) : Option (String × List Char) :=
    match cs with
    | c :: _ =>
      if isNameStart c then
        let k := cs.takeWhile isNameChar
        some (String.ofList k, cs.drop k.length)
      else none
    | [] => none
  if cs.isEmpty || cs.head? == some '#' then some none
  else
    match key cs with
    | none => none
    | some (k, rest) =>
      let rest := skip rest
      let named : Option (String × List Char) :=
        if k == "export" then
          match rest with
          | '=' :: more => some (k, more)
          | _ =>
            match key rest with
            | some (k2, more) =>
              match skip more with
              | '=' :: more => some (k2, more)
              | _ => none
            | none => none
        else
          match rest with
          | '=' :: more => some (k, more)
          | _ => none
      match named with
      | none => none
      | some (name, more) =>
        let more := skip more
        if more.isEmpty || more.head? == some '#' then some (some (name, ""))
        else (parseValue env seen more).map fun v => some (name, v)

/-- Loads the text of a `.env` file into an environment: each line's name is set unless
already present, in order, until a malformed line. -/
def loadDotenv (env : Environment) (text : String) : Environment :=
  let rec go : List (Option String) → Environment → List (String × String) → Environment
    | [], env, _ => env
    | none :: _, env, _ => env
    | some line :: rest, env, seen =>
      match parseLine env seen line with
      | none => env
      | some none => go rest env seen
      | some (some (name, value)) =>
        let env := if (env.get? name).isSome then env else env.set name value
        go rest env ((name, value) :: seen)
  let text := if text.startsWith "\uFEFF" then (text.drop 1).toString else text
  go (logicalLines text) env []

/-- The lines of a file's bytes that are text: everything before the first line that is not
UTF-8. -/
def textLines (bytes : List UInt8) : String :=
  let rec go : Nat → List UInt8 → List UInt8 → String → String
    | 0, _, _, acc => acc
    | fuel + 1, rest, cur, acc =>
      match rest with
      | [] =>
        match String.fromUTF8? ⟨cur.reverse.toArray⟩ with
        | some s => acc ++ s
        | none => acc
      | b :: more =>
        if b == 10 then
          match String.fromUTF8? ⟨(b :: cur).reverse.toArray⟩ with
          | some s => go fuel more [] (acc ++ s)
          | none => acc
        else go fuel more (b :: cur) acc
  go (bytes.length + 1) bytes [] ""

/-- Loads a `.env` file's bytes: the lines up to the first that is not UTF-8. -/
def loadDotenvBytes (env : Environment) (bytes : ByteArray) : Environment :=
  loadDotenv env (textLines bytes.toList)

end Covenant.Config
