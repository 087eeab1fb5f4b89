import Covenant.Yaml.Emit
import Covenant.SourceIndex.Basic
import Covenant.Text.Blank

/-!
# The line layout of rendered YAML

The rendering of a value, read line by line. A line of a mapping or a sequence starts with a
`Lead`: its indentation and the `- ` of each item opened on it, so that `- - k: v` opens two
items and a key. A key's line carries the key as written, a colon and what follows; an item
whose value is a scalar or an empty collection ends with that value; and the content of a
literal block is a line of its own, indented one level inside its owner.

`rows v` lays a value out this way, following the writer's recursion: a mapping that is an
item's value and a sequence that is an item's value start on the item's line, a sequence that
is a key's value starts on the next line at the key's own indentation, and a mapping that is a
key's value one level deeper. Each item and key is marked with the line and column (both from
1) where its `-` or its written key begins (`marks`).

`Locatable` collects what a value must satisfy for its keys and items to be found again in this
text: distinct keys, keys written as one-line simple keys that a reader decodes back, and no
line or paragraph separator inside strings.
-/

namespace Covenant.Yaml

open Emit

/-- The style a scalar value is written in. -/
def valueStyle (s : String) (req : RequestedStyle) : WrittenStyle :=
  selectStyle req (analyze s) s false

/-- The style a key is written in. -/
def keyStyle (key : String) : WrittenStyle :=
  selectStyle (requestedStyle key) (analyze key) key true

/-- Whether a character is escaped between double quotes. -/
def needsEscape (c : Char) : Bool :=
  !isPrintable c || c.toNat == 0xFEFF || isBreak c || decide (c = '"') || decide (c = '\\')

/-- A character between single quotes: a quote is doubled. -/
def singleQuotedChar (c : Char) : String := if c = '\'' then "''" else c.toString

/-- A character between double quotes: escaped, or as it is. -/
def doubleQuotedChar (c : Char) : String :=
  if needsEscape c then "\\" ++ escapeOf c else c.toString

/-- A one-line string between single quotes. -/
def singleQuotedText (s : String) : String :=
  "'" ++ String.join (s.toList.map singleQuotedChar) ++ "'"

/-- A string between double quotes, with its escapes. -/
def doubleQuotedText (s : String) : String :=
  "\"" ++ String.join (s.toList.map doubleQuotedChar) ++ "\""

/-- A scalar as written in a style; for a literal block, its header. -/
def scalarText (s : String) : WrittenStyle → String
  | .plain => s
  | .singleQuoted => singleQuotedText s
  | .doubleQuoted => doubleQuotedText s
  | .literal => "|" ++ (blockHints s).1

/-- A key as written. -/
def keyText (key : String) : String := scalarText key (keyStyle key)

def spaces (n : Nat) : String := String.ofList (List.replicate n ' ')

/-- The content lines of a literal block indented by `inner`; an empty line stays empty. -/
def literalLines (inner : Nat) (s : String) : List String :=
  (Text.lines s).map fun l => if l.isEmpty then "" else spaces inner ++ l

/-- The text and requested style of a scalar, as the writer gives them. -/
def scalarOf : Json → Option (String × RequestedStyle)
  | .null => some ("null", .plain)
  | .bool b => some (if b then "true" else "false", .plain)
  | .num n => some (numberText n, .plain)
  | .str s => some (s, requestedStyle s)
  | _ => none

namespace Layout

/-- The start of a line: its indentation and the paths of the items whose `- ` open it. -/
structure Lead where
  indent : Nat
  items : List (List String)

namespace Lead

/-- A line that opens no item. -/
def fresh (indent : Nat) : Lead := ⟨indent, []⟩

/-- The column after the lead, where its line's key or value begins. -/
def column (lead : Lead) : Nat := lead.indent + 2 * lead.items.length

/-- The lead with one more item. -/
def push (lead : Lead) (path : List String) : Lead := ⟨lead.indent, lead.items ++ [path]⟩

def text (lead : Lead) : String :=
  spaces lead.indent ++ String.join (lead.items.map fun _ => "- ")

/-- Each item's path with the line and the column of its `-`. -/
def marks (lead : Lead) (line : Nat) : List (List String × Location) :=
  lead.items.mapIdx fun j path => (path, ⟨line, (lead.indent + 2 * j + 1 : Nat)⟩)

end Lead

/-- A line of the rendering. -/
inductive Row where
  /-- A key at `path`, as written, then a colon and the rest of the line. -/
  | key (lead : Lead) (path : List String) (written after : String)
  /-- An item's scalar or empty collection, as written. -/
  | value (lead : Lead) (written : String)
  /-- A line of a literal block, or the document end marker. -/
  | raw (line : String)

namespace Row

def text : Row → String
  | .key lead _ written after => lead.text ++ written ++ ":" ++ after
  | .value lead written => lead.text ++ written
  | .raw line => line

/-- The items and the key that begin on a row at `line`. -/
def marks (line : Nat) : Row → List (List String × Location)
  | .key lead path _ _ => lead.marks line ++ [(path, ⟨line, (lead.column + 1 : Nat)⟩)]
  | .value lead _ => lead.marks line
  | .raw _ => []

end Row

/-- Rows as text, each ended by a line feed. -/
def rowsText (rows : List Row) : String := String.join (rows.map fun r => r.text ++ "\n")

/-- A scalar on its owner's row, then the content of a literal block indented by `inner`. -/
def scalarRows (row : String → Row) (s : String) (req : RequestedStyle) (inner : Nat) :
    List Row :=
  row (scalarText s (valueStyle s req)) ::
    if valueStyle s req == .literal then (literalLines inner s).map .raw else []

mutual

/-- The rows of an item's value; the lead ends with the item. -/
def itemRows (lead : Lead) (path : List String) : Json → List Row
  | .arr [] => [.value lead "[]"]
  | .arr (x :: xs) => seqRows lead path 0 (x :: xs)
  | .obj [] => [.value lead "\x7b\x7d"]
  | .obj (f :: fs) => mapRows lead path (f :: fs)
  | v =>
    match scalarOf v with
    | some (s, req) => scalarRows (.value lead) s req lead.column
    | none => []

/-- The rows of a mapping entry whose key begins after the lead. -/
def keyRows (lead : Lead) (path : List String) (key : String) : Json → List Row
  | .arr [] => [.key lead path (keyText key) " []"]
  | .arr (x :: xs) =>
    .key lead path (keyText key) "" :: seqRows (.fresh lead.column) path 0 (x :: xs)
  | .obj [] => [.key lead path (keyText key) " \x7b\x7d"]
  | .obj (f :: fs) =>
    .key lead path (keyText key) "" :: mapRows (.fresh (lead.column + 2)) path (f :: fs)
  | v =>
    match scalarOf v with
    | some (s, req) =>
      scalarRows (fun t => .key lead path (keyText key) (" " ++ t)) s req (lead.column + 2)
    | none => []

/-- The rows of sequence items from `index` on; the first item opens after the lead. -/
def seqRows (lead : Lead) (path : List String) (index : Nat) : List Json → List Row
  | [] => []
  | x :: xs =>
    itemRows (lead.push (path ++ [toString index])) (path ++ [toString index]) x ++
      seqRows (.fresh lead.column) path (index + 1) xs

/-- The rows of mapping entries; the first key begins after the lead. -/
def mapRows (lead : Lead) (path : List String) : List (String × Json) → List Row
  | [] => []
  | (k, v) :: fs => keyRows lead (path ++ [k]) k v ++ mapRows (.fresh lead.column) path fs

end

/-- Whether a string is written as a literal block that keeps its final line breaks, which
leaves the stream open. -/
def keepsBreaks (s : String) : Bool :=
  valueStyle s (requestedStyle s) == .literal && (blockHints s).2

mutual

/-- Whether a value holds a literal block that keeps its final line breaks. -/
def keepsOpen : Json → Bool
  | .str s => keepsBreaks s
  | .arr xs => keepsOpenItems xs
  | .obj fs => keepsOpenFields fs
  | _ => false

def keepsOpenItems : List Json → Bool
  | [] => false
  | x :: xs => keepsOpen x || keepsOpenItems xs

def keepsOpenFields : List (String × Json) → Bool
  | [] => false
  | (_, v) :: fs => keepsOpen v || keepsOpenFields fs

end

/-- The rows of a whole document, with the end marker when a literal block left it open. -/
def rows (v : Json) : List Row :=
  let body := match v with
    | .arr [] => [.value (.fresh 0) "[]"]
    | .arr (x :: xs) => seqRows (.fresh 0) [] 0 (x :: xs)
    | .obj [] => [.value (.fresh 0) "\x7b\x7d"]
    | .obj (f :: fs) => mapRows (.fresh 0) [] (f :: fs)
    | v =>
      match scalarOf v with
      | some (s, req) => scalarRows (.value (.fresh 0)) s req 2
      | none => []
  body ++ if keepsOpen v then [.raw "..."] else []

/-- Each item and key of the rendering with the line and column where it begins. -/
def marks (v : Json) : List (List String × Location) :=
  ((rows v).zipIdx 1).flatMap fun (r, n) => r.marks n

/-- Where the item or key at a token path begins in the rendering. -/
def position (v : Json) (path : List String) : Option Location := (marks v).lookup path

end Layout

/-- A key that the block scanner reads back as it is: a one-line simple key with no escape
besides `\t`, `\"` and `\\`; written plain, it neither starts with `?` nor ends with a blank,
and its first visible character opens no flow collection. -/
structure ReadableKey (key : String) : Prop where
  simple : isSimpleKey key = true
  printable : ∀ c ∈ key.toList, c = '\t' ∨ isPrintable c = true
  plain : keyStyle key = .plain →
    key.toList.head? ≠ some '?' ∧ (∀ c ∈ key.toList.getLast?, Text.isBlank c = false) ∧
      (key.toList.dropWhile Text.isBlank).head? ≠ some '\x7b' ∧
      (key.toList.dropWhile Text.isBlank).head? ≠ some '['

/-- A value whose keys and items can be found again in its rendering: keys are distinct in
each object and readable, and no string holds a line or paragraph separator. -/
structure Locatable (v : Json) : Prop where
  distinct : ∀ fields, Json.Occurs (.obj fields) v → (fields.map Prod.fst).Nodup
  keys : ∀ fields, Json.Occurs (.obj fields) v → ∀ e ∈ fields, ReadableKey e.1
  separators : ∀ s, Json.Occurs (.str s) v → '\u2028' ∉ s.toList ∧ '\u2029' ∉ s.toList

end Covenant.Yaml
