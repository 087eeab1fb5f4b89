import Covenant.SourceIndex.Basic
import Covenant.Text.Blank

/-!
# Positions in JSON text

A lenient walk over JSON text that records where every object key (its opening quote) and
every array item begins. Columns count characters. The walk stops at the first thing it cannot
read and keeps what it recorded before; scalars other than strings are any run of characters
up to a blank, a comma or a closing bracket.
-/

namespace Covenant.SourceIndex.JsonText

/-- Unread characters and the position of the first of them. -/
structure Cursor where
  rest : List Char
  line : Int
  column : Int

namespace Cursor

def here (c : Cursor) : Location := ⟨c.line, c.column⟩

def peek (c : Cursor) : Option Char := c.rest.head?

/-- Reads one character; a line feed starts a new line. -/
def bump (c : Cursor) : Option (Char × Cursor) :=
  match c.rest with
  | [] => none
  | x :: xs => some (x, if x = '\n' then ⟨xs, c.line + 1, 1⟩ else ⟨xs, c.line, c.column + 1⟩)

def bumpOrStay (c : Cursor) : Cursor := ((c.bump).map (·.2)).getD c

/-- Skips spaces, tabs, line feeds and carriage returns. -/
def skipBlank (c : Cursor) : Cursor :=
  let rec go : Nat → Cursor → Cursor
    | 0, c => c
    | fuel + 1, c =>
      match c.peek with
      | some ' ' | some '\t' | some '\n' | some '\r' => go fuel c.bumpOrStay
      | _ => c
  go c.rest.length c

end Cursor

/-- The value of a hex digit. -/
def hexDigit? (c : Char) : Option Nat :=
  if c.isDigit then some (c.toNat - 48)
  else if 'a' ≤ c ∧ c ≤ 'f' then some (c.toNat - 87)
  else if 'A' ≤ c ∧ c ≤ 'F' then some (c.toNat - 55)
  else none

/-- Four hex digits of a `\u` escape; a surrogate becomes U+FFFD. -/
def unicodeEscape (c : Cursor) : Option (Char × Cursor) := do
  let (a, c) ← c.bump
  let (b, c) ← c.bump
  let (d, c) ← c.bump
  let (e, c) ← c.bump
  let code := (((← hexDigit? a) * 16 + (← hexDigit? b)) * 16 + (← hexDigit? d)) * 16 +
    (← hexDigit? e)
  let ch := if 0xD800 ≤ code ∧ code ≤ 0xDFFF then Char.ofNat 0xFFFD else Char.ofNat code
  return (ch, c)

/-- A quoted string with its escapes; unknown escapes stand for the escaped character. -/
def string (c : Cursor) : Option (String × Cursor) := do
  let (q, c) ← c.bump
  if q ≠ '"' then none
  let rec go : Nat → Cursor → List Char → Option (String × Cursor)
    | 0, _, _ => none
    | fuel + 1, c, acc => do
      let (x, c) ← c.bump
      if x = '"' then return (String.ofList acc.reverse, c)
      else if x = '\\' then
        let (y, c) ← c.bump
        if y = 'u' then
          let (ch, c) ← unicodeEscape c
          go fuel c (ch :: acc)
        else
          let ch := match y with
            | 'n' => '\n'
            | 't' => '\t'
            | 'r' => '\r'
            | 'b' => Char.ofNat 8
            | 'f' => Char.ofNat 12
            | other => other
          go fuel c (ch :: acc)
      else go fuel c (x :: acc)
  go c.rest.length c []

/-- A run of characters up to a blank, a comma or a closing bracket; at least one. -/
def scalar (c : Cursor) : Option Cursor :=
  let stops (x : Char) : Bool := x = ',' || x = '}' || x = ']' || Text.isBlank x
  let run := c.rest.takeWhile (fun x => !stops x)
  if run.isEmpty then none
  else some ⟨c.rest.drop run.length, c.line, c.column + run.length⟩

/-- The walk's outcome: the index so far, and the cursor when the walk may go on. -/
abbrev Walk := SourceIndex × Option Cursor

mutual

/-- One value at `path`, after optional blanks. -/
def value (fuel : Nat) (path : List String) (idx : SourceIndex) (c : Cursor) : Walk :=
  match fuel with
  | 0 => (idx, none)
  | fuel + 1 =>
    let c := c.skipBlank
    match c.peek with
    | none => (idx, none)
    | some '{' => members fuel path idx c.bumpOrStay
    | some '[' => items fuel path 0 idx c.bumpOrStay
    | some '"' => (idx, (string c).map (·.2))
    | some _ => (idx, scalar c)

/-- Object members up to the closing brace. -/
def members (fuel : Nat) (path : List String) (idx : SourceIndex) (c : Cursor) : Walk :=
  match fuel with
  | 0 => (idx, none)
  | fuel + 1 =>
    let c := c.skipBlank
    match c.peek with
    | none => (idx, none)
    | some '}' => (idx, some c.bumpOrStay)
    | some ',' => members fuel path idx c.bumpOrStay
    | some '"' =>
      let keyAt := c.here
      match string c with
      | none => (idx, none)
      | some (key, c) =>
        let c := c.skipBlank
        match c.bump with
        | some (':', c) =>
          let idx := idx.record (path ++ [key]) keyAt
          match value fuel (path ++ [key]) idx c with
          | (idx, none) => (idx, none)
          | (idx, some c) => members fuel path idx c
        | _ => (idx, none)
    | some _ => (idx, none)

/-- Array items up to the closing bracket; `position` counts the items read. -/
def items (fuel : Nat) (path : List String) (position : Nat) (idx : SourceIndex)
    (c : Cursor) : Walk :=
  match fuel with
  | 0 => (idx, none)
  | fuel + 1 =>
    let c := c.skipBlank
    match c.peek with
    | none => (idx, none)
    | some ']' => (idx, some c.bumpOrStay)
    | some ',' => items fuel path position idx c.bumpOrStay
    | some _ =>
      let here := path ++ [toString position]
      let idx := idx.record here c.here
      match value fuel here idx c with
      | (idx, none) => (idx, none)
      | (idx, some c) => items fuel path (position + 1) idx c

end

/-- The index of a JSON text. -/
def scan (source : String) : SourceIndex :=
  let chars := source.toList
  (value (2 * chars.length + 2) [] {} ⟨chars, 1, 1⟩).1

end Covenant.SourceIndex.JsonText
