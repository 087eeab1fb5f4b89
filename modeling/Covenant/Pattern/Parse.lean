import Covenant.Pattern.Class

/-!
# Patterns: reading

A pattern is read in one of two dialects. The *strict* dialect has no look-around and no
back-references, so every pattern in it is a regular language; when it meets either it stops
with `needsExtended`, and every other fault is `invalid`. The *extended* dialect takes
look-around (`(?=`, `(?!`, `(?<=`, `(?<!`), back-references (`\1`, `\k<name>`), atomic groups
(`(?>…)`) and possessive repetition (`a*+`); in it one piece takes one repetition, a repeated
assertion is refused, and a `{` where a piece starts, or one that does not make a counted
repetition, is a plain character.

Both dialects share the rest: groups (capturing, `(?P<name>…)`, `(?<name>…)`, `(?:…)`),
flags (`i`, `m`, `s`, `U`, `u`, `x`, `R`, set for the rest of a group by `(?flags)` or for one
group by `(?flags:…)`), bracketed sets with nesting, ranges, named ASCII classes and the set
operations `&&`, `--` and `~~`, the escapes for punctuation, control characters, code points
(`\x41`, `\u{1F600}`), classes (`\d`, `\p{Greek}`) and assertions (`\A`, `\z`, `\b`, `\B`,
`\<`, `\>`, `\b{start}`).

The reader keeps where each abbreviated class `\d`, `\D`, `\s`, `\S`, `\w`, `\W` was written,
so a caller can replace them in the text.
-/

namespace Covenant.Pattern

open Covenant.Text.Unicode

/-- The two dialects patterns are read in. -/
inductive Dialect where
  | strict
  | extended
  deriving DecidableEq

/-- Why a pattern could not be read. -/
inductive Refusal where
  /-- A look-around or a back-reference met in the strict dialect. -/
  | needsExtended
  | invalid
  deriving DecidableEq

/-- The flags in effect. -/
structure Flags where
  caseless : Bool := false
  multiline : Bool := false
  dotAll : Bool := false
  swapGreed : Bool := false
  unicode : Bool := true
  verbose : Bool := false
  crlf : Bool := false

/-- The text being read and its dialect. -/
structure Source where
  text : Array Char
  dialect : Dialect

/-- How far reading has come: the position, the groups opened so far with their names, the
positions of the backslashes of abbreviated classes, and whether a `\a` stood outside
brackets (schema patterns have no such escape), and whether a piece read with Unicode off
can match a byte beyond ASCII (which no text of characters holds). -/
structure Cursor where
  pos : Nat := 0
  groups : Nat := 0
  names : List (String × Nat) := []
  marks : List Nat := []
  bell : Bool := false
  bytes : Bool := false

/-- Reading: a cursor threaded through, stopping at the first refusal. -/
abbrev ReadM := StateT Cursor (Except Refusal)

/-- What an escape stands for. -/
inductive Escaped where
  | literal (c : Char)
  | set (s : CharSet)
  | assert (a : Assertion)
  | backref (index : Nat)

/-- Whether a set names a Unicode property somewhere. -/
def CharSet.usesProperty : CharSet → Bool
  | .property _ _ => true
  | .union items => items.attach.any fun ⟨s, _⟩ => s.usesProperty
  | .bracket _ body => body.usesProperty
  | .combine _ lhs rhs => lhs.usesProperty || rhs.usesProperty
  | _ => false

/-- Notes a set read with Unicode off that reaches beyond ASCII: one naming a property, or
one holding one of the bytes `0x80` to `0xFF`. -/
def noteBytes (flags : Flags) (s : CharSet) : ReadM Unit :=
  if !flags.unicode &&
      (s.usesProperty || (List.range 128).any fun i => s.holds flags.caseless false (Char.ofNat (0x80 + i)))
  then modify fun cur => { cur with bytes := true }
  else pure ()

/-- The character `k` places ahead. -/
def peekAt (src : Source) (k : Nat) : ReadM (Option Char) := do
  return src.text[(← get).pos + k]?

/-- The character at the cursor. -/
def peek (src : Source) : ReadM (Option Char) := peekAt src 0

/-- Moves the cursor `n` characters on. -/
def advance (n : Nat) : ReadM Unit := modify fun c => { c with pos := c.pos + n }

/-- Refuses the pattern. -/
def refuse {α : Type} (r : Refusal) : ReadM α := throw r

/-- Skips blanks and `#` comments when the verbose flag is set. -/
def skipBlank (src : Source) (flags : Flags) : Nat → ReadM Unit
  | 0 => pure ()
  | fuel + 1 => do
    if !flags.verbose then return
    match ← peek src with
    | some c =>
      if isWhiteSpace c then
        advance 1
        skipBlank src flags fuel
      else if c == '#' then
        skipComment fuel
        skipBlank src flags fuel
      else pure ()
    | none => pure ()
where
  skipComment : Nat → ReadM Unit
    | 0 => pure ()
    | fuel + 1 => do
      match ← peek src with
      | some '\n' => advance 1
      | some _ =>
        advance 1
        skipComment fuel
      | none => pure ()

/-- The fuel for loops over the text: more than the number of characters left. -/
def Source.fuel (src : Source) : Nat := 2 * src.text.size + 8

/-- The value of a hexadecimal digit. -/
def hexDigit? (c : Char) : Option Nat :=
  if '0' ≤ c && c ≤ '9' then some (c.toNat - '0'.toNat)
  else if 'a' ≤ c && c ≤ 'f' then some (c.toNat - 'a'.toNat + 10)
  else if 'A' ≤ c && c ≤ 'F' then some (c.toNat - 'A'.toNat + 10)
  else none

/-- The character of a code point, if it is a Unicode scalar value. -/
def scalar? (v : Nat) : Option Char :=
  if v < 0xD800 || (0xE000 ≤ v && v ≤ 0x10FFFF) then some (Char.ofNat v) else none

/-- Reads hexadecimal digits up to a `}` (consumed), giving their value. -/
def readHexBraced (src : Source) : Nat → Nat → Nat → ReadM Nat
  | 0, _, _ => refuse .invalid
  | fuel + 1, count, acc => do
    match ← peek src with
    | some '}' =>
      advance 1
      if count == 0 then refuse .invalid else pure acc
    | some c =>
      match hexDigit? c with
      | some d =>
        advance 1
        readHexBraced src fuel (count + 1) (acc * 16 + d)
      | none => refuse .invalid
    | none => refuse .invalid

/-- Reads exactly `n` hexadecimal digits. -/
def readHexFixed (src : Source) : Nat → Nat → ReadM Nat
  | 0, acc => pure acc
  | n + 1, acc => do
    match (← peek src).bind hexDigit? with
    | some d =>
      advance 1
      readHexFixed src n (acc * 16 + d)
    | none => refuse .invalid

/-- Reads the code point after `\x`, `\u` or `\U`: braced digits, or `width` digits. -/
def readCodePoint (src : Source) (width : Nat) : ReadM Char := do
  let v ← if (← peek src) == some '{' then do
      advance 1
      readHexBraced src src.fuel 0 0
    else readHexFixed src width 0
  match scalar? v with
  | some c => pure c
  | none => refuse .invalid

/-- Reads characters up to a `}` (consumed). -/
def readUntilBrace (src : Source) : Nat → List Char → ReadM String
  | 0, _ => refuse .invalid
  | fuel + 1, acc => do
    match ← peek src with
    | some '}' =>
      advance 1
      pure (String.ofList acc.reverse)
    | some c =>
      advance 1
      readUntilBrace src fuel (c :: acc)
    | none => refuse .invalid

/-- Reads the property after `\p` or `\P`: one letter, or a braced name, which may start with
`^` or use `!=` to negate. -/
def readProperty (src : Source) (negated : Bool) : ReadM CharSet := do
  match ← peek src with
  | some '{' =>
    advance 1
    let name ← readUntilBrace src src.fuel []
    let (negated, name) :=
      if name.startsWith "^" then (!negated, String.ofList (name.toList.drop 1)) else (negated, name)
    let (negated, name) :=
      if (name.splitOn "!=").length == 2 then (!negated, name.replace "!=" "=") else (negated, name)
    match Property.named? name with
    | some p => pure (.property p negated)
    | none => refuse .invalid
  | some c =>
    advance 1
    match Property.named? (String.singleton c) with
    | some p => pure (.property p negated)
    | none => refuse .invalid
  | none => refuse .invalid

/-- Reads decimal digits, giving their value. -/
def readDecimal (src : Source) : Nat → Nat → Nat → ReadM (Nat × Nat)
  | 0, count, acc => pure (count, acc)
  | fuel + 1, count, acc => do
    match ← peek src with
    | some c =>
      if c.isDigit then
        advance 1
        readDecimal src fuel (count + 1) (acc * 10 + (c.toNat - '0'.toNat))
      else pure (count, acc)
    | none => pure (count, acc)

/-- The characters that may be escaped to stand for themselves. -/
def isEscapable (c : Char) : Bool :=
  -- the metacharacters: backslash . + * ? ( ) | [ ] braces ^ $ # & - ~
  [92, 46, 43, 42, 63, 40, 41, 124, 91, 93, 123, 125, 94, 36, 35, 38, 45, 126].contains c.toNat ||
    (c.toNat < 128 && !c.isAlphanum && c != '<' && c != '>')

/-- Reads the name of `\b{…}` when a letter or `-` follows the brace. -/
def readWordBoundary (src : Source) (flags : Flags) : ReadM Assertion := do
  if (← peek src) != some '{' then return .wordBoundary
  match ← peekAt src 1 with
  | some c =>
    if !(c.isAlpha || c == '-') then return .wordBoundary
    advance 1
    let name ← readUntilBrace src src.fuel []
    let name := String.ofList (name.toList.filter fun c => !(flags.verbose && isWhiteSpace c))
    match name with
    | "start" => pure .wordStart
    | "end" => pure .wordEnd
    | "start-half" => pure .wordStartHalf
    | "end-half" => pure .wordEndHalf
    | _ => refuse .invalid
  | none => return .wordBoundary

/-- Reads a group name up to `>` (consumed). -/
def readGroupName (src : Source) : Nat → List Char → ReadM String
  | 0, _ => refuse .invalid
  | fuel + 1, acc => do
    match ← peek src with
    | some '>' =>
      advance 1
      let name := acc.reverse
      match name with
      | [] => refuse .invalid
      | first :: rest =>
        let letter (c : Char) := isAlphabetic c
        let inner (c : Char) := c == '_' || c == '.' || c == '[' || c == ']' || isAlphabetic c ||
          (Covenant.Text.Unicode.Category.of c).major == 'N'
        if (first == '_' || letter first) && rest.all inner then pure (String.ofList name)
        else refuse .invalid
    | some c =>
      advance 1
      readGroupName src fuel (c :: acc)
    | none => refuse .invalid

/-- Reads an escape after its backslash. -/
def readEscape (src : Source) (flags : Flags) : ReadM Escaped := do
  let start := (← get).pos - 1
  match ← peek src with
  | none => refuse .invalid
  | some c =>
    if c.isDigit then
      if src.dialect == .strict then refuse .needsExtended
      let (_, n) ← readDecimal src src.fuel 0 0
      if n == 0 then refuse .invalid else pure (.backref n)
    else if isEscapable c then
      advance 1
      pure (.literal c)
    else
      advance 1
      let shorthand (k : Shorthand) (neg : Bool) : ReadM Escaped := do
        modify fun cur => { cur with marks := start :: cur.marks }
        pure (.set (.shorthand k neg))
      match c with
      | 'd' => shorthand .digit false
      | 'D' => shorthand .digit true
      | 's' => shorthand .space false
      | 'S' => shorthand .space true
      | 'w' => shorthand .word false
      | 'W' => shorthand .word true
      | 'p' => return .set (← readProperty src false)
      | 'P' => return .set (← readProperty src true)
      | 'x' => return .literal (← readCodePoint src 2)
      | 'u' => return .literal (← readCodePoint src 4)
      | 'U' => return .literal (← readCodePoint src 8)
      | 'a' => pure (.literal (Char.ofNat 7))
      | 'f' => pure (.literal (Char.ofNat 12))
      | 't' => pure (.literal '\t')
      | 'n' => pure (.literal '\n')
      | 'r' => pure (.literal '\r')
      | 'v' => pure (.literal (Char.ofNat 11))
      | 'A' => pure (.assert .textStart)
      | 'z' => pure (.assert .textEnd)
      | 'b' => return .assert (← readWordBoundary src flags)
      | 'B' => pure (.assert .notWordBoundary)
      | '<' => pure (.assert .wordStart)
      | '>' => pure (.assert .wordEnd)
      | 'k' =>
        if src.dialect == .strict then refuse .invalid
        if (← peek src) != some '<' then refuse .invalid
        advance 1
        let name ← readGroupName src src.fuel []
        match (← get).names.lookup name with
        | some n => pure (.backref n)
        | none => refuse .invalid
      | _ => refuse .invalid

/-- A named ASCII class `[:name:]` or `[:^name:]` starting at `pos`, with the position after
it. -/
def asciiClassAt (text : Array Char) (pos : Nat) : Option (CharSet × Nat) :=
  if text[pos]? != some '[' || text[pos + 1]? != some ':' then none
  else
    let negated := text[pos + 2]? == some '^'
    let start := if negated then pos + 3 else pos + 2
    let rest := (text.toList.drop start)
    let name := rest.takeWhile (· != ':')
    let after := start + name.length
    if text[after]? == some ':' && text[after + 1]? == some ']' then
      let n := String.ofList name
      if (asciiClass? n 'a').isSome then some (.ascii n negated, after + 2) else none
    else none

/-- Joins the items of a bracket level with a pending operation. -/
def closeLevel (pending : Option (SetOp × CharSet)) (items : List CharSet) : CharSet :=
  match pending with
  | some (op, lhs) => .combine op lhs (.union items)
  | none => .union items

/-- Reads one member of a bracket: an escape or a plain character. -/
def readClassAtom (src : Source) (flags : Flags) : ReadM Escaped := do
  match ← peek src with
  | some '\\' =>
    advance 1
    readEscape src flags
  | some c =>
    advance 1
    pure (.literal c)
  | none => refuse .invalid

/-- Reads a member or a range of a bracket. -/
def readClassRange (src : Source) (flags : Flags) : ReadM CharSet := do
  let first ← readClassAtom src flags
  skipBlank src flags src.fuel
  let dash := (← peek src) == some '-'
  -- the character after the dash, blanks skipped in verbose mode
  let save ← get
  let next ← if dash then do
      advance 1
      skipBlank src flags src.fuel
      peek src
    else pure none
  set save
  let item : ReadM CharSet := match first with
    | .literal c => pure (.single c)
    | .set s => pure s
    | _ => refuse .invalid
  if (← peek src).isNone then refuse .invalid
  if !dash || next == some ']' || next == some '-' then item
  else
    advance 1
    skipBlank src flags src.fuel
    let second ← readClassAtom src flags
    match first, second with
    | .literal lo, .literal hi => if lo ≤ hi then pure (.range lo hi) else refuse .invalid
    | _, _ => refuse .invalid

/-- Reads leading `-` characters of a bracket, which stand for themselves. -/
def readLeadingDashes (src : Source) (flags : Flags) : Nat → List CharSet → ReadM (List CharSet)
  | 0, items => pure items
  | fuel + 1, items => do
    if (← peek src) == some '-' then
      advance 1
      skipBlank src flags src.fuel
      if (← peek src).isNone then refuse .invalid
      readLeadingDashes src flags fuel (items ++ [.single '-'])
    else pure items

mutual
/-- Reads a bracket after its `[`, up to and including its `]`. -/
def readBracket (src : Source) : Nat → Flags → ReadM CharSet
  | 0, _ => refuse .invalid
  | fuel + 1, flags => do
    skipBlank src flags src.fuel
    let negated ← if (← peek src) == some '^' then do
        advance 1
        skipBlank src flags src.fuel
        pure true
      else pure false
    let items ← if (← peek src) == some ']' then do
        advance 1
        skipBlank src flags src.fuel
        if (← peek src).isNone then refuse .invalid
        pure [CharSet.single ']']
      else pure []
    let items ← readLeadingDashes src flags src.fuel items
    readBracketItems src fuel flags negated none items

/-- Reads the members of a bracket up to its `]`. -/
def readBracketItems (src : Source) : Nat → Flags → Bool → Option (SetOp × CharSet) →
    List CharSet → ReadM CharSet
  | 0, _, _, _, _ => refuse .invalid
  | fuel + 1, flags, negated, pending, items => do
    skipBlank src flags src.fuel
    let op (o : SetOp) : ReadM CharSet := do
      advance 2
      readBracketItems src fuel flags negated (some (o, closeLevel pending items)) []
    match ← peek src, ← peekAt src 1 with
    | none, _ => refuse .invalid
    | some ']', _ =>
      advance 1
      pure (.bracket negated (closeLevel pending items))
    | some '[', _ =>
      match asciiClassAt src.text (← get).pos with
      | some (cls, after) =>
        modify fun c => { c with pos := after }
        readBracketItems src fuel flags negated pending (items ++ [cls])
      | none =>
        advance 1
        let inner ← readBracket src fuel flags
        readBracketItems src fuel flags negated pending (items ++ [inner])
    | some '&', some '&' => op .inter
    | some '-', some '-' => op .diff
    | some '~', some '~' => op .symDiff
    | some _, _ =>
      let item ← readClassRange src flags
      readBracketItems src fuel flags negated pending (items ++ [item])
end

/-- Reads a flag list up to `:` or `)`, giving the new flags and whether `)` ended it. The
extended dialect has no CRLF flag `R` and cannot turn Unicode off. -/
def readFlags (src : Source) : Nat → Flags → List Char → Bool → Bool → ReadM (Flags × Bool)
  | 0, _, _, _, _ => refuse .invalid
  | fuel + 1, flags, seen, negating, dangling => do
    match ← peek src with
    | some ')' =>
      advance 1
      if dangling || seen.isEmpty && !negating then refuse .invalid else pure (flags, true)
    | some ':' =>
      advance 1
      if dangling then refuse .invalid else pure (flags, false)
    | some '-' =>
      advance 1
      if negating then refuse .invalid
      readFlags src fuel flags seen true true
    | some c =>
      advance 1
      if seen.contains c then refuse .invalid
      let v := !negating
      let flags ← match c with
        | 'i' => pure { flags with caseless := v }
        | 'm' => pure { flags with multiline := v }
        | 's' => pure { flags with dotAll := v }
        | 'U' => pure { flags with swapGreed := v }
        | 'u' =>
          if src.dialect == .extended && negating then refuse .invalid
          pure { flags with unicode := v }
        | 'x' => pure { flags with verbose := v }
        | 'R' =>
          if src.dialect == .extended then refuse .invalid
          pure { flags with crlf := v }
        | _ => refuse .invalid
      readFlags src fuel flags (c :: seen) negating false
    | none => refuse .invalid

/-- Reads the bounds of a counted repetition after its `{`, up to and including `}`. -/
def readCounted (src : Source) (flags : Flags) : ReadM (Nat × Option Nat) := do
  skipBlank src flags src.fuel
  let (n, least) ← readDecimal src src.fuel 0 0
  if n == 0 && (src.dialect == .strict || (← peek src) != some ',') then refuse .invalid
  if least ≥ Nat.pow 2 32 then refuse .invalid
  skipBlank src flags src.fuel
  match ← peek src with
  | some '}' =>
    advance 1
    pure (least, some least)
  | some ',' =>
    advance 1
    skipBlank src flags src.fuel
    if (← peek src) == some '}' then
      advance 1
      pure (least, none)
    else
      let (m, most) ← readDecimal src src.fuel 0 0
      if m == 0 || most ≥ Nat.pow 2 32 then refuse .invalid
      skipBlank src flags src.fuel
      if (← peek src) != some '}' then refuse .invalid
      advance 1
      if most < least then refuse .invalid
      pure (least, some most)
  | _ => refuse .invalid

/-- Whether a piece may take a repetition. -/
def repeatable (dialect : Dialect) (quantified : Bool) : Node → Bool
  | .empty => false
  | .assert _ _ => dialect == .strict
  | .look _ _ _ => false
  | _ => !(dialect == .extended && quantified)

/-- A sequence of pieces as one node. -/
def Node.ofSeq : List Node → Node
  | [] => .empty
  | [n] => n
  | ns => .seq ns

/-- Branches as one node. -/
def Node.ofBranches : List Node → Node
  | [n] => n
  | ns => .alt ns

/-- Applies a repetition to the last piece read, reading what may follow it: `?` for the
lazy form and, in the extended dialect, `+` for the possessive form. -/
def repeatLast (src : Source) (flags : Flags) (items : List Node) (quantified : Bool)
    (least : Nat) (most : Option Nat) : ReadM (List Node) := do
  match items with
  | [] => refuse .invalid
  | last :: rest =>
    if !repeatable src.dialect quantified last then refuse .invalid
    if src.dialect == .extended then skipBlank src flags src.fuel
    let lazy ← if (← peek src) == some '?' then do
        advance 1
        pure true
      else pure false
    let possessive ← if src.dialect == .extended && (← peek src) == some '+' then do
        advance 1
        pure true
      else pure false
    let greedy := lazy == flags.swapGreed
    pure (.loop last least most greedy possessive :: rest)

mutual
/-- Reads branches separated by `|` up to a `)` or the end, with the flags in effect after. -/
def readAlternation (src : Source) : Nat → Flags → List Node → ReadM (Node × Flags)
  | 0, _, _ => refuse .invalid
  | fuel + 1, flags, branches => do
    let (branch, flags) ← readSequence src fuel flags [] false
    if (← peek src) == some '|' then
      advance 1
      readAlternation src fuel flags (branch :: branches)
    else pure (Node.ofBranches (branch :: branches).reverse, flags)

/-- Reads pieces up to a `|`, a `)` or the end. `quantified` says whether the last piece has
just taken a repetition. -/
def readSequence (src : Source) : Nat → Flags → List Node → Bool → ReadM (Node × Flags)
  | 0, _, _, _ => refuse .invalid
  | fuel + 1, flags, items, quantified => do
    skipBlank src flags src.fuel
    match ← peek src with
    | none | some '|' | some ')' => pure (Node.ofSeq items.reverse, flags)
    | some c =>
      if c == '?' || c == '*' || c == '+' then
        advance 1
        let (least, most) := if c == '?' then (0, some 1) else if c == '*' then (0, none) else (1, none)
        let items ← repeatLast src flags items quantified least most
        readSequence src fuel flags items true
      else if c == '{' && src.dialect == .strict then
        advance 1
        let (least, most) ← readCounted src flags
        let items ← repeatLast src flags items quantified least most
        readSequence src fuel flags items true
      else if c == '{' && !quantified && !items.isEmpty then
        -- in the extended dialect a brace that does not make a repetition is a character
        let bounds ← tryCatch (do advance 1; some <$> readCounted src flags) fun _ => pure none
        match bounds with
        | some (least, most) =>
          let items ← repeatLast src flags items quantified least most
          readSequence src fuel flags items true
        | none =>
          advance 1
          readSequence src fuel flags (.char '{' flags.caseless :: items) false
      else
        let (node, flags) ← readAtom src fuel flags
        readSequence src fuel flags (node :: items) false

/-- Reads one piece without its repetition. A flag group `(?i)` reads as `empty` and changes
the flags for what follows. -/
def readAtom (src : Source) : Nat → Flags → ReadM (Node × Flags)
  | 0, _ => refuse .invalid
  | fuel + 1, flags => do
    match ← peek src with
    | some '(' =>
      advance 1
      readGroup src fuel flags
    | some '[' =>
      advance 1
      let s ← readBracket src fuel flags
      noteBytes flags s
      pure (.set s flags.caseless flags.unicode, flags)
    | some '\\' =>
      advance 1
      let kind ← peek src
      if kind == some 'a' then modify fun cur => { cur with bell := true }
      match ← readEscape src flags with
      | .literal c =>
        if !flags.unicode && kind == some 'x' && c.toNat ≥ 0x80 then
          modify fun cur => { cur with bytes := true }
        pure (.char c flags.caseless, flags)
      | .set s =>
        noteBytes flags s
        pure (.set s flags.caseless flags.unicode, flags)
      | .assert a => pure (.assert a flags.unicode, flags)
      | .backref n => pure (.backref n flags.caseless, flags)
    | some '.' =>
      advance 1
      if !flags.unicode then modify fun cur => { cur with bytes := true }
      pure (.dot flags.dotAll, flags)
    | some '^' =>
      advance 1
      pure (.assert (if flags.multiline then .lineStart else .textStart) flags.unicode, flags)
    | some '$' =>
      advance 1
      pure (.assert (if flags.multiline then .lineEnd else .textEnd) flags.unicode, flags)
    | some c =>
      advance 1
      pure (.char c flags.caseless, flags)
    | none => refuse .invalid

/-- Reads a group after its `(`, up to and including its `)`. -/
def readGroup (src : Source) : Nat → Flags → ReadM (Node × Flags)
  | 0, _ => refuse .invalid
  | fuel + 1, flags => do
    skipBlank src flags src.fuel
    let close (node : Node) : ReadM (Node × Flags) := do
      if (← peek src) == some ')' then
        advance 1
        pure (node, flags)
      else refuse .invalid
    let body (inner : Flags) : ReadM Node := do
      let (n, _) ← readAlternation src fuel inner []
      pure n
    let at1 ← peekAt src 1
    let at2 ← peekAt src 2
    let at3 ← peekAt src 3
    match ← peek src with
    | some '?' =>
      let look : Option (Bool × Bool × Nat) := match at1, at2, at3 with
        | some '=', _, _ => some (true, false, 2)
        | some '!', _, _ => some (true, true, 2)
        | some '<', some '=', _ => some (false, false, 3)
        | some '<', some '!', _ => some (false, true, 3)
        | _, _, _ => none
      match look with
      | some (ahead, negated, width) =>
        if src.dialect == .strict then refuse .needsExtended
        advance width
        close (.look ahead negated (← body flags))
      | none =>
        let named := if at1 == some '<' then some 2
          else if at1 == some 'P' && at2 == some '<' then some 3 else none
        match named with
        | some width =>
          advance width
          let name ← readGroupName src src.fuel []
          let cur ← get
          if (cur.names.lookup name).isSome then refuse .invalid
          let index := cur.groups + 1
          set { cur with groups := index, names := (name, index) :: cur.names }
          close (.group (some index) (← body flags))
        | none =>
          if at1 == some '>' then
            if src.dialect == .strict then refuse .invalid
            advance 2
            close (.atomic (← body flags))
          else
            advance 1
            let (inner, ended) ← readFlags src src.fuel flags [] false false
            if ended then pure (.empty, inner)
            else close (.group none (← body inner))
    | _ =>
      let cur ← get
      let index := cur.groups + 1
      set { cur with groups := index }
      close (.group (some index) (← body flags))
end

/-- Reads a whole pattern. -/
def Node.read (dialect : Dialect) (text : String) : Except Refusal (Node × Cursor) :=
  let src : Source := { text := text.toList.toArray, dialect := dialect }
  match (readAlternation src src.fuel {} []).run {} with
  | .error r => .error r
  | .ok ((node, _), cur) => if cur.pos < src.text.size then .error .invalid else .ok (node, cur)

end Covenant.Pattern
