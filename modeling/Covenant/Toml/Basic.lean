/-!
# TOML documents: values and failures

A TOML document reads into a tree of tables, arrays and scalars, each with the span of text
it came from, so that later checks can point at the offending text.

Tables come in three kinds that behave differently when later lines extend them: tables
opened by a header, tables made implicitly by a dotted key or a longer header, and inline
tables written `{ ... }`, which are values and are never extended.

A failure names a place and a message in up to three parts: what was being read (`invalid
key`, `invalid table header`, ...), what was expected there, and why a value was refused.
A failure is *recoverable* when the text simply does not start with what was tried, so that
an enclosing reader may still expect something else there (an array's closing bracket, say).
-/

namespace Covenant.Toml

/-- Character positions `[start, stop)` of a piece of text. -/
structure Span where
  start : Nat
  stop : Nat
  deriving Inhabited, BEq, Repr

/-- A value read from a document, with the span of its text. A table opened by a header
has the header's span; a table made implicitly has none. -/
inductive Node where
  | string (s : String) (span : Span)
  | integer (i : Int) (span : Span)
  | float (f : Float) (span : Span)
  | boolean (b : Bool) (span : Span)
  | datetime (text : String) (span : Span)
  | array (items : List Node) (span : Span)
  | table (entries : List (String × Span × Node)) (span : Option Span)
  | inline (entries : List (String × Span × Node)) (span : Span)

instance : Inhabited Node := ⟨.table [] none⟩

/-- The span of a node's text, when it has one. -/
def Node.span? : Node → Option Span
  | .string _ s | .integer _ s | .float _ s | .boolean _ s | .datetime _ s | .array _ s => some s
  | .inline _ s => some s
  | .table _ s => s

/-- The name of a node's kind, as used in messages about extending it. -/
def Node.kindName : Node → String
  | .string .. => "string"
  | .integer .. => "integer"
  | .float .. => "float"
  | .boolean .. => "boolean"
  | .datetime .. => "datetime"
  | .array .. => "array"
  | .table .. => "table"
  | .inline .. => "inline table"

/-- A failure to read or decode a document: where (when known), why, and whether an
enclosing reader may still try something else at that place. -/
structure Failure where
  span : Option Span
  message : String
  recoverable : Bool := false

/-- The text being read. -/
abbrev Text := Array Char

/-- The outcome of reading one piece: the piece and the position after it. -/
abbrev Read (α : Type) := Except Failure (α × Nat)

/-- The place of a failure at a position: one character wide, or empty at the end of the
text. -/
def spanAt (t : Text) (pos : Nat) : Span :=
  if pos ≥ t.size then ⟨t.size, t.size⟩ else ⟨pos, pos + 1⟩

/-- A failure at a position. -/
def failAt {α : Type} (t : Text) (pos : Nat) (message : String) : Except Failure α :=
  .error { span := some (spanAt t pos), message := message }

/-- A recoverable failure at a position: the text does not start with what was tried. -/
def missAt {α : Type} (t : Text) (pos : Nat) (message : String) : Except Failure α :=
  .error { span := some (spanAt t pos), message := message, recoverable := true }

def isWs (c : Char) : Bool := c == ' ' || c == '\t'

/-- Characters allowed in comments and literal strings besides the quote. -/
def isNonEol (c : Char) : Bool := c == '\t' || (' ' ≤ c && c.toNat ≤ 0x7E) || c.toNat ≥ 0x80

def isBareKeyChar (c : Char) : Bool :=
  ('a' ≤ c && c ≤ 'z') || ('A' ≤ c && c ≤ 'Z') || ('0' ≤ c && c ≤ '9') || c == '-' || c == '_'

/-- Whether a key may start with a character: a bare key character or a quote. -/
def isKeyStart (c : Char) : Bool := isBareKeyChar c || c == '"' || c == '\''

def isDigit (c : Char) : Bool := '0' ≤ c && c ≤ '9'

/-- The first position at or after `pos` whose character fails `p`. -/
def skipWhile (t : Text) (p : Char → Bool) (pos : Nat) : Nat :=
  let rec go : Nat → Nat → Nat
    | 0, i => i
    | fuel + 1, i => if (t[i]?.map p).getD false then go fuel (i + 1) else i
  go (t.size + 1) pos

def skipWs (t : Text) (pos : Nat) : Nat := skipWhile t isWs pos

/-- The position after a comment starting at `pos`, or `pos` when none starts there. -/
def skipComment (t : Text) (pos : Nat) : Nat :=
  if t[pos]? == some '#' then skipWhile t isNonEol (pos + 1) else pos

/-- The position after a line break at `pos`, if one is there. -/
def lineBreak? (t : Text) (pos : Nat) : Option Nat :=
  match t[pos]? with
  | some '\n' => some (pos + 1)
  | some '\r' => if t[pos + 1]? == some '\n' then some (pos + 2) else none
  | _ => none

/-- Blanks, comments and line breaks, as allowed inside arrays. -/
def skipBlankLines (t : Text) (pos : Nat) : Nat :=
  let rec go : Nat → Nat → Nat
    | 0, i => i
    | fuel + 1, i =>
      let j := skipComment t (skipWs t i)
      match lineBreak? t j with
      | some k => go fuel k
      | none => j
  go (t.size + 1) pos

/-- The end of a line after a value or header: blanks, an optional comment, then a line
break or the end of the text. -/
def lineTrailing (t : Text) (pos : Nat) (label : String) : Except Failure Nat :=
  let p := skipComment t (skipWs t pos)
  if p ≥ t.size then .ok p
  else
    match lineBreak? t p with
    | some q => .ok q
    | none => failAt t p (label ++ "expected newline, `#`")

/-- The word `w` at `pos`. -/
def wordAt (t : Text) (w : String) (pos : Nat) : Bool :=
  (List.range w.length).all fun i => t[pos + i]? == w.toList[i]?

end Covenant.Toml
