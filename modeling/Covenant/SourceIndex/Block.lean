import Covenant.SourceIndex.Flow

/-!
# Positions in block YAML

A line-by-line walk over block YAML. Each line that is not blank, a comment or a document
marker gives entries: one item per leading `- `, then a key (`name: value`), or a scalar.
Nesting follows indentation: an entry belongs to the nearest open entry indented less, and a
key also owns a sequence written at its own indentation. The first child of a node fixes the
indentation and kind (items or keys) of its addressable children. A one-line flow collection
after a key or an item is walked as well.
-/

namespace Covenant.SourceIndex.Block

/-- What one entry of a line is. -/
inductive Kind where
  | key (name : String)
  | item
  | scalar
  deriving BEq

/-- An entry: its line, the column of its first character (from 0), its kind, and a flow
collection holding its value with the column it opens at. -/
structure Entry where
  line : Nat
  indent : Nat
  kind : Kind
  flow : Option (Nat × String) := none

/-- A quoted key after its opening double quote; `\n` and `\t` are escapes and any other
escaped character stands for itself. Returns the key and the text after the closing quote. -/
def doubleQuoted : List Char → List Char → Option (String × List Char)
  | [], _ => none
  | '\\' :: x :: rest, acc =>
    doubleQuoted rest ((if x = 'n' then '\n' else if x = 't' then '\t' else x) :: acc)
  | '\\' :: [], _ => none
  | '"' :: rest, acc => some (String.ofList acc.reverse, rest)
  | x :: rest, acc => doubleQuoted rest (x :: acc)

/-- A quoted key after its opening single quote; two quotes stand for one. -/
def singleQuoted : List Char → List Char → Option (String × List Char)
  | [], _ => none
  | '\'' :: '\'' :: rest, acc => singleQuoted rest ('\'' :: acc)
  | '\'' :: rest, acc => some (String.ofList acc.reverse, rest)
  | x :: rest, acc => singleQuoted rest (x :: acc)

/-- The value text after a quoted key: a colon must follow, blanks aside. -/
def afterQuotedKey (key : String) (rest : List Char) : Option (String × List Char) :=
  match rest.dropWhile Text.isBlank with
  | ':' :: value => some (key, value)
  | _ => none

/-- The index of the first occurrence of a two-character pattern. -/
def findPair (a b : Char) : List Char → Nat → Option Nat
  | x :: y :: rest, i => if x = a ∧ y = b then some i else findPair a b (y :: rest) (i + 1)
  | _, _ => none

/-- The key of a line's text and the text after its colon, if the text is a key. -/
def keyOf (text : List Char) : Option (String × List Char) :=
  match text with
  | [] => none
  | '"' :: rest => (doubleQuoted rest []).bind (fun (k, r) => afterQuotedKey k r)
  | '\'' :: rest => (singleQuoted rest []).bind (fun (k, r) => afterQuotedKey k r)
  | c :: _ =>
    if c = '{' ∨ c = '[' ∨ c = '|' ∨ c = '>' ∨ c = '&' ∨ c = '*' ∨ c = '!' ∨ c = '?' then none
    else
      let stop :=
        match findPair ':' ' ' text 0 with
        | some i => some i
        | none =>
          match findPair ':' '\t' text 0 with
          | some i => some i
          | none => if text.getLast? = some ':' then some (text.length - 1) else none
      stop.map (fun i => (Text.trimEnd (String.ofList (text.take i)), text.drop (i + 1)))

/-- Whether a text opens a flow collection. -/
def opensFlow (text : List Char) : Bool := text.head? = some '{' ∨ text.head? = some '['

/-- The entries of one line, appended to those of the lines before. -/
def lineEntries (out : List Entry) (line : Nat) (raw : String) : List Entry :=
  let chars := raw.toList
  let trimmed := chars.dropWhile (· = ' ')
  let trimmedText := String.ofList trimmed
  if (trimmed.all Text.isBlank) || trimmedText.startsWith "#" || trimmedText.startsWith "---" ||
      trimmedText.startsWith "..." then out
  else
    -- leading items, each `-` followed by a space or ending the line
    let rec items (fuel : Nat) (out : List Entry) (indent : Nat) (rest : List Char) :
        List Entry × Nat × List Char :=
      match fuel with
      | 0 => (out, indent, rest)
      | fuel + 1 =>
        match rest with
        | ['-'] | '-' :: ' ' :: _ =>
          let after := (rest.drop 1).dropWhile (· = ' ')
          items fuel (out ++ [⟨line, indent, .item, none⟩])
            (indent + (rest.length - after.length)) after
        | _ => (out, indent, rest)
    let (out, indent, rest) := items chars.length out (chars.length - trimmed.length) trimmed
    let column (text : List Char) : Nat := chars.length - text.length
    if rest.isEmpty then out
    else if opensFlow rest then
      match out.getLast? with
      | some last =>
        if last.line = line ∧ last.kind == .item then
          out.dropLast ++ [{ last with flow := some (column rest, String.ofList rest) }]
        else out ++ [⟨line, indent, .scalar, none⟩]
      | none => out ++ [⟨line, indent, .scalar, none⟩]
    else
      match keyOf rest with
      | some (key, value) =>
        let value := value.dropWhile Text.isBlank
        let flow := if opensFlow value then some (column value, String.ofList value) else none
        out ++ [⟨line, indent, .key key, flow⟩]
      | none => out ++ [⟨line, indent, .scalar, none⟩]

/-- The entries of a whole text, lines numbered from 1. -/
def entries (source : String) : List Entry :=
  ((Text.lines source).zipIdx 1).foldl (fun out (raw, n) => lineEntries out n raw) []

/-- An open node: its indentation (none for the document), whether it owns items at its own
indentation, its path when addressable, the level and kind fixed by its first child, and the
number of items seen. -/
structure Frame where
  indent : Option Nat
  ownsItems : Bool
  path : Option (List String)
  level : Option (Nat × Bool) := none
  items : Nat := 0

/-- Whether an entry is a descendant of an open node. -/
def Frame.contains (f : Frame) (e : Entry) : Bool :=
  match f.indent with
  | none => true
  | some i => e.indent > i || (f.ownsItems && e.indent == i && e.kind == .item)

/-- The path of an entry under its parent, and the parent updated. -/
def Frame.childPath (f : Frame) (e : Entry) : Option (List String) × Frame :=
  let (level, sequence) := f.level.getD (e.indent, e.kind == .item)
  let f := { f with level := some (level, sequence) }
  if e.indent ≠ level then (none, f)
  else
    match e.kind, sequence with
    | .item, true =>
      let f := { f with items := f.items + 1 }
      (f.path.map (· ++ [toString (f.items - 1)]), f)
    | .key name, false => (f.path.map (· ++ [name]), f)
    | _, _ => (none, f)

/-- Closes the open nodes that do not contain the entry; the document node stays. -/
def closeUntil (e : Entry) : List Frame → List Frame
  | [] => []
  | [root] => [root]
  | top :: rest => if top.contains e then top :: rest else closeUntil e rest

/-- Places one entry: records its path and the positions inside its flow collection. -/
def place (state : List Frame × SourceIndex) (e : Entry) : List Frame × SourceIndex :=
  let (stack, idx) := state
  match closeUntil e stack with
  | [] => ([], idx)
  | parent :: rest =>
    let (path, parent) := parent.childPath e
    let idx :=
      match path with
      | none => idx
      | some p =>
        let idx := idx.record p ⟨e.line, e.indent + 1⟩
        match e.flow with
        | some (column, text) => Flow.scan text e.line column p idx
        | none => idx
    let isKey := match e.kind with
      | .key _ => true
      | _ => false
    (⟨some e.indent, isKey, path, none, 0⟩ :: parent :: rest, idx)

/-- The index of a block YAML text. -/
def scan (source : String) : SourceIndex :=
  ((entries source).foldl place ([⟨none, false, some [], none, 0⟩], {})).2

end Covenant.SourceIndex.Block
