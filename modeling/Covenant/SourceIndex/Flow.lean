import Covenant.SourceIndex.Basic
import Covenant.Text.Blank

/-!
# Positions in one-line YAML flow collections

A walk over a flow collection such as `{type: integer}` or `[a, b]` written on one line. It
records where each key and each item begins. A plain key ends at a `:` followed by a blank, an
indicator or the end of the text; a plain value ends at an indicator. The walk stops at the
first thing it cannot read and keeps what it recorded before.
-/

namespace Covenant.SourceIndex.Flow

/-- Unread characters and their offset in the line (from 0). -/
structure Cursor where
  rest : List Char
  offset : Nat

namespace Cursor

def peek (c : Cursor) : Option Char := c.rest.head?

def bump (c : Cursor) : Cursor := ⟨c.rest.drop 1, c.offset + 1⟩

def skipSpaces (c : Cursor) : Cursor :=
  let n := (c.rest.takeWhile (fun x => x = ' ' || x = '\t')).length
  ⟨c.rest.drop n, c.offset + n⟩

end Cursor

/-- Flow indicators that end a plain scalar. -/
def isIndicator (x : Char) : Bool := x = ',' || x = '{' || x = '}' || x = '[' || x = ']'

/-- A quoted scalar after its opening quote: a backslash in double quotes takes the next
character as it is, and two single quotes in single quotes stand for one. -/
def quotedBody (quote : Char) : Nat → Cursor → List Char → Option (String × Cursor)
  | 0, _, _ => none
  | fuel + 1, c, acc =>
    match c.rest with
    | [] => none
    | x :: rest =>
      let c : Cursor := ⟨rest, c.offset + 1⟩
      if x = '\\' ∧ quote = '"' then
        match c.rest with
        | [] => none
        | y :: _ => quotedBody quote fuel c.bump (y :: acc)
      else if x = '\'' ∧ quote = '\'' ∧ c.peek = some '\'' then
        quotedBody quote fuel c.bump ('\'' :: acc)
      else if x = quote then some (String.ofList acc.reverse, c)
      else quotedBody quote fuel c (x :: acc)

/-- A quoted or plain scalar; a plain one is trimmed at its end. -/
def scalar (key : Bool) (c : Cursor) : Option (String × Cursor) :=
  match c.rest with
  | [] => none
  | q :: _ =>
    if q = '"' ∨ q = '\'' then quotedBody q c.rest.length c.bump []
    else
      let rec plain : List Char → List Char
        | [] => []
        | x :: rest =>
          let endsKey := key && x = ':' &&
            (match rest.head? with
             | none => true
             | some n => n = ' ' || n = '\t' || isIndicator n)
          if isIndicator x || endsKey then [] else x :: plain rest
      let run := plain c.rest
      some (Text.trimEnd (String.ofList run), ⟨c.rest.drop run.length, c.offset + run.length⟩)

/-- The walk's outcome: the index so far, and the cursor when the walk may go on. -/
abbrev Walk := SourceIndex × Option Cursor

mutual

/-- One value at `path`; `line` and `column` place offset 0 of the text. -/
def value (fuel : Nat) (line : Int) (column : Nat) (path : List String) (idx : SourceIndex)
    (c : Cursor) : Walk :=
  match fuel with
  | 0 => (idx, none)
  | fuel + 1 =>
    let c := c.skipSpaces
    match c.peek with
    | none => (idx, none)
    | some '{' => members fuel line column path idx c.bump
    | some '[' => items fuel line column path 0 idx c.bump
    | some _ => (idx, (scalar false c).map (·.2))

/-- Mapping entries up to the closing brace. -/
def members (fuel : Nat) (line : Int) (column : Nat) (path : List String)
    (idx : SourceIndex) (c : Cursor) : Walk :=
  match fuel with
  | 0 => (idx, none)
  | fuel + 1 =>
    let c := c.skipSpaces
    match c.peek with
    | none => (idx, none)
    | some '}' => (idx, some c.bump)
    | some ',' => members fuel line column path idx c.bump
    | some _ =>
      let start := c.offset
      let keyAt : Location := ⟨line, (column + c.offset + 1 : Nat)⟩
      match scalar true c with
      | none => (idx, none)
      | some (key, c) =>
        let c := c.skipSpaces
        let idx := idx.record (path ++ [key]) keyAt
        let (idx, next) :=
          if c.peek = some ':' then value fuel line column (path ++ [key]) idx c.bump
          else (idx, some c)
        match next with
        | none => (idx, none)
        | some c =>
          if c.offset = start then (idx, none) else members fuel line column path idx c

/-- Sequence items up to the closing bracket; `position` counts the items read. -/
def items (fuel : Nat) (line : Int) (column : Nat) (path : List String) (position : Nat)
    (idx : SourceIndex) (c : Cursor) : Walk :=
  match fuel with
  | 0 => (idx, none)
  | fuel + 1 =>
    let c := c.skipSpaces
    match c.peek with
    | none => (idx, none)
    | some ']' => (idx, some c.bump)
    | some ',' => items fuel line column path position idx c.bump
    | some _ =>
      let start := c.offset
      let here := path ++ [toString position]
      let idx := idx.record here ⟨line, (column + c.offset + 1 : Nat)⟩
      match value fuel line column here idx c with
      | (idx, none) => (idx, none)
      | (idx, some c) =>
        if c.offset = start then (idx, none)
        else items fuel line column path (position + 1) idx c

end

/-- Records the keys and items of a flow collection written at `line`, its first character at
the 0-based `column`, under `path`. -/
def scan (text : String) (line : Int) (column : Nat) (path : List String)
    (idx : SourceIndex) : SourceIndex :=
  let chars := text.toList
  (value (2 * chars.length + 2) line column path idx ⟨chars, 0⟩).1

end Covenant.SourceIndex.Flow
