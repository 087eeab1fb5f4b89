import Covenant.Yaml.Document
import Covenant.Binary64.Text

/-!
# Writing JSON values as YAML

Block YAML with two-space indentation. Mappings put each entry on its own line, `key: value`;
a sequence that is a mapping value starts its `- ` items at the key's own indentation. Empty
collections are written `[]` and `{}`.

Each string picks a style:

* a string holding a line feed is a literal block (`|`), with an indentation hint when it
  starts with a space or break and a chomping hint `-` or `+` for its trailing breaks;
* a string that would read back as something else (null, a boolean, a number, or digits with
  a leading zero) is single-quoted;
* other strings are plain when nothing in them is special to YAML, single-quoted when only
  plain style is ruled out, and double-quoted with escapes when they hold characters that
  cannot be written as they are.

A key is written inline when it is a one-line scalar of at most 128 bytes, and otherwise as an
explicit `? key` followed by `: value`. Doubles use their shortest digits, with `.inf`,
`-.inf` and `.nan` for the special values.
-/

namespace Covenant.Yaml

/-- How YAML writes doubles. -/
def yamlNotation : Binary64.Notation :=
  { pointAbove := -5, pointAtMost := 16, plusExponent := false,
    nan := ".nan", infinity := ".inf", negInfinity := "-.inf" }

/-- The style a scalar asks for; the writer may override it. -/
inductive RequestedStyle where
  | any | plain | singleQuoted | literal
  deriving BEq

/-- The style a scalar is written in. -/
inductive WrittenStyle where
  | plain | singleQuoted | doubleQuoted | literal
  deriving BEq

namespace Emit

def isSpace (c : Char) : Bool := c = ' '

def isBreak (c : Char) : Bool := Scan.isBreakChar c

def isBlankOrEnd (c : Option Char) : Bool :=
  match c with
  | none => true
  | some c => c = ' ' || c = '\t' || isBreak c

/-- Characters that can be written inside a scalar as they are. -/
def isPrintable (c : Char) : Bool :=
  let v := c.toNat
  v == 0x0A || (0x20 ≤ v && v ≤ 0x7E) || (0xA0 ≤ v && v ≤ 0xD7FF) ||
    (0xE000 ≤ v && v ≤ 0xFFFD && v != 0xFEFF) || (0x10000 ≤ v && v ≤ 0x10FFFF)

/-- What a scalar's text allows. -/
structure Analysis where
  multiline : Bool
  blockPlainAllowed : Bool
  singleQuotedAllowed : Bool
  blockAllowed : Bool

/-- Examines a scalar's characters: indicators that rule out plain style, line breaks, leading
and trailing blanks, and characters that need escaping. -/
def analyze (s : String) : Analysis :=
  let cs := s.toList
  if cs.isEmpty then
    { multiline := false, blockPlainAllowed := true, singleQuotedAllowed := true,
      blockAllowed := false }
  else
    let n := cs.length
    let arr := cs.toArray
    let docMarker := (cs.take 3 == ['-', '-', '-']) || (cs.take 3 == ['.', '.', '.'])
    let step := fun (acc : Bool × Bool × Bool × Bool × Bool × Bool × Bool × Bool × Bool × Bool)
        (i : Nat) =>
      let (blockInd, lineBreaks, special, leadSpace, leadBreak, trailSpace, trailBreak,
        breakSpace, spaceBreak, _) := acc
      let c := arr.getD i ' '
      let prev := if i == 0 then none else arr[i - 1]?
      let next := arr[i + 1]?
      let precededByBlank := i == 0 || isBlankOrEnd prev
      let followedByBlank := isBlankOrEnd next
      let indicator :=
        if i == 0 then
          "#,[]\x7b\x7d&*!|>'\"%@`".toList.contains c ||
            ((c = '?' || c = ':') && followedByBlank) || (c = '-' && followedByBlank)
        else (c = ':' && followedByBlank) || (c = '#' && precededByBlank)
      let prevSpace := i > 0 && prev == some ' '
      let prevBreak := i > 0 && (prev.map isBreak).getD false
      let last := i + 1 == n
      (blockInd || indicator,
       lineBreaks || isBreak c,
       special || !isPrintable c,
       leadSpace || (i == 0 && isSpace c),
       leadBreak || (i == 0 && isBreak c),
       trailSpace || (last && isSpace c),
       trailBreak || (last && isBreak c),
       breakSpace || (isSpace c && prevBreak),
       spaceBreak || (isBreak c && prevSpace),
       false)
    let (blockInd, lineBreaks, special, leadSpace, leadBreak, trailSpace, trailBreak,
      breakSpace, spaceBreak, _) :=
      (List.range n).foldl step (docMarker, false, false, false, false, false, false, false,
        false, false)
    let edge := leadSpace || leadBreak || trailSpace || trailBreak
    { multiline := lineBreaks,
      blockPlainAllowed := !(edge || breakSpace || spaceBreak || special || lineBreaks ||
        blockInd),
      singleQuotedAllowed := !(breakSpace || spaceBreak || special),
      blockAllowed := !(trailSpace || spaceBreak || special) }

/-- The style a string asks for: literal with a line feed, single-quoted when it would read
back as another kind of value, and free otherwise. -/
def requestedStyle (s : String) : RequestedStyle :=
  if s.contains '\n' then .literal
  else if s.isEmpty || Scalar.isNull s || (Scalar.bool? s).isSome || (Scalar.int? s).isSome then
    .singleQuoted
  else if Scalar.digitsButNotNumber s then .singleQuoted
  else if (Scalar.float? s).isSome then .singleQuoted
  else .any

/-- The style a scalar is written in, given what it asks for, what its text allows, and
whether it is an inline key. -/
def selectStyle (req : RequestedStyle) (a : Analysis) (s : String) (simpleKey : Bool) :
    WrittenStyle :=
  let style : WrittenStyle :=
    match req with
    | .any | .plain =>
      if !a.blockPlainAllowed || (s.isEmpty && simpleKey) then .singleQuoted else .plain
    | .singleQuoted => .singleQuoted
    | .literal => .literal
  match style with
  | .singleQuoted => if a.singleQuotedAllowed then .singleQuoted else .doubleQuoted
  | .literal => if !a.blockAllowed || simpleKey then .doubleQuoted else .literal
  | other => other

/-- The writer's state: the text so far, the column, whether the last thing written was
blank space or indentation, and whether the stream ended open with a kept block scalar. -/
structure Writer where
  out : String := ""
  column : Nat := 0
  whitespace : Bool := true
  indention : Bool := true
  openEnded : Bool := false

abbrev EmitM := StateM Writer

def put (c : Char) : EmitM Unit :=
  modify fun w => { w with out := w.out.push c, column := w.column + 1 }

def putStr (s : String) : EmitM Unit :=
  modify fun w => { w with out := w.out ++ s, column := w.column + s.length }

def putBreak : EmitM Unit :=
  modify fun w => { w with out := w.out.push '\n', column := 0 }

/-- Writes a line break character: a line feed as such, others copied. -/
def writeBreak (c : Char) : EmitM Unit :=
  if c = '\n' then putBreak else modify fun w => { w with out := w.out.push c, column := 0 }

/-- Moves to a fresh line at the indentation, unless already there. -/
def writeIndent (indent : Int) : EmitM Unit := do
  let i := indent.toNat
  let w ← get
  if !w.indention || w.column > i || (w.column == i && !w.whitespace) then putBreak
  let w ← get
  putStr (String.ofList (List.replicate (i - w.column) ' '))
  modify fun w => { w with whitespace := true, indention := true }

/-- Writes an indicator, with a space before it when one is needed. -/
def writeIndicator (s : String) (needWhitespace isWhitespace isIndention : Bool) :
    EmitM Unit := do
  if needWhitespace && !(← get).whitespace then put ' '
  putStr s
  modify fun w => { w with whitespace := isWhitespace, indention := w.indention && isIndention }

def writePlain (s : String) : EmitM Unit := do
  if !(← get).whitespace && !s.isEmpty then put ' '
  putStr s
  modify fun w => { w with whitespace := false, indention := false }

def writeSingleQuoted (s : String) (indent : Int) : EmitM Unit := do
  writeIndicator "'" true false false
  let mut breaks := false
  for c in s.toList do
    if isBreak c then
      if !breaks && c = '\n' then putBreak
      writeBreak c
      modify fun w => { w with indention := true }
      breaks := true
    else
      if breaks then writeIndent indent
      if c = '\'' then put '\''
      put c
      modify fun w => { w with indention := false }
      breaks := false
  if breaks then writeIndent indent
  writeIndicator "'" false false false
  modify fun w => { w with whitespace := false, indention := false }

def hexUpper (width value : Nat) : String :=
  let digits := (List.range width).reverse.map fun k =>
    let d := value / Nat.pow 16 k % 16
    if d < 10 then Char.ofNat (48 + d) else Char.ofNat (55 + d)
  String.ofList digits

/-- The escape of a character in a double-quoted scalar, after the backslash. -/
def escapeOf (c : Char) : String :=
  match c.toNat with
  | 0x00 => "0"
  | 0x07 => "a"
  | 0x08 => "b"
  | 0x09 => "t"
  | 0x0A => "n"
  | 0x0B => "v"
  | 0x0C => "f"
  | 0x0D => "r"
  | 0x1B => "e"
  | 0x22 => "\""
  | 0x5C => "\\"
  | 0x85 => "N"
  | 0xA0 => "_"
  | 0x2028 => "L"
  | 0x2029 => "P"
  | v =>
    if v ≤ 0xFF then "x" ++ hexUpper 2 v
    else if v ≤ 0xFFFF then "u" ++ hexUpper 4 v
    else "U" ++ hexUpper 8 v

def writeDoubleQuoted (s : String) : EmitM Unit := do
  writeIndicator "\"" true false false
  for c in s.toList do
    if !isPrintable c || c.toNat == 0xFEFF || isBreak c || c = '"' || c = '\\' then
      putStr ("\\" ++ escapeOf c)
    else put c
  writeIndicator "\"" false false false
  modify fun w => { w with whitespace := false, indention := false }

/-- The indentation and chomping hints of a block scalar. -/
def blockHints (s : String) : String × Bool :=
  let cs := s.toList
  let indentHint := match cs.head? with
    | some c => if isSpace c || isBreak c then "2" else ""
    | none => ""
  let rev := cs.reverse
  let (chomp, keep) := match rev with
    | [] => ("-", false)
    | last :: rest =>
      if !isBreak last then ("-", false)
      else match rest with
        | [] => ("+", true)
        | prev :: _ => if isBreak prev then ("+", true) else ("", false)
  (indentHint ++ chomp, keep)

def writeLiteral (s : String) (indent : Int) : EmitM Unit := do
  writeIndicator "|" true false false
  let (hints, keep) := blockHints s
  if !hints.isEmpty then writeIndicator hints false false false
  if keep then modify fun w => { w with openEnded := true }
  putBreak
  modify fun w => { w with indention := true, whitespace := true }
  let mut breaks := true
  for c in s.toList do
    if isBreak c then
      writeBreak c
      modify fun w => { w with indention := true }
      breaks := true
    else
      if breaks then writeIndent indent
      put c
      modify fun w => { w with indention := false }
      breaks := false

/-- The indentation one level inside `indent`; the top level starts at `top`. -/
def deeper (indent : Int) (top : Int) : Int := if indent < 0 then top else indent + 2

/-- Writes a scalar with the style it asks for, at the indentation of its parent. -/
def scalar (s : String) (req : RequestedStyle) (indent : Int) (simpleKey : Bool) :
    EmitM Unit := do
  let a := analyze s
  let inner := deeper indent 2
  match selectStyle req a s simpleKey with
  | .plain => writePlain s
  | .singleQuoted => writeSingleQuoted s inner
  | .doubleQuoted => writeDoubleQuoted s
  | .literal => writeLiteral s inner

/-- Whether a key can be written inline: a one-line scalar of at most 128 bytes. -/
def isSimpleKey (key : String) : Bool :=
  let multiline := (requestedStyle key == .literal) || (analyze key).multiline
  !multiline && key.utf8ByteSize ≤ 128

def numberText (n : Number) : String :=
  match n with
  | .nat k => toString k
  | .neg k => toString k
  | .float f => yamlNotation.render f

mutual

/-- Writes a value. `mapValue` tells that it is the value of a mapping entry. -/
def node (indent : Int) (mapValue : Bool) : Json → EmitM Unit
  | .null => scalar "null" .plain indent false
  | .bool b => scalar (if b then "true" else "false") .plain indent false
  | .num n => scalar (numberText n) .plain indent false
  | .str s => scalar s (requestedStyle s) indent false
  | .arr [] => do
    writeIndicator "[" true true false
    writeIndicator "]" false false false
  | .arr items => do
    let indentless := mapValue && !(← get).indention
    let inner := if indent < 0 then 0 else if indentless then indent else indent + 2
    sequenceItems inner items
  | .obj [] => do
    writeIndicator "\x7b" true true false
    writeIndicator "\x7d" false false false
  | .obj fields => mappingEntries (deeper indent 0) fields

def sequenceItems (indent : Int) : List Json → EmitM Unit
  | [] => pure ()
  | v :: rest => do
    writeIndent indent
    writeIndicator "-" true false true
    node indent false v
    sequenceItems indent rest

def mappingEntries (indent : Int) : List (String × Json) → EmitM Unit
  | [] => pure ()
  | (k, v) :: rest => do
    writeIndent indent
    if isSimpleKey k then
      scalar k (requestedStyle k) indent true
      writeIndicator ":" false false false
    else
      writeIndicator "?" true false true
      scalar k (requestedStyle k) indent false
      writeIndent indent
      writeIndicator ":" true false true
    node indent true v
    mappingEntries indent rest

end

/-- Writes a whole document: the value, a final line break, and the end marker `...` when a
kept block scalar left the stream open. -/
def document (v : Json) : EmitM Unit := do
  node (-1) false v
  writeIndent 0
  if (← get).openEnded then
    writeIndicator "..." true false false
    writeIndent 0

end Emit

/-- The YAML text of a JSON value. -/
def render (v : Json) : String := ((Emit.document v).run {}).2.out

end Covenant.Yaml
