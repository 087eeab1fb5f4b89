/-!
# YAML tokens

The first stage of reading YAML: characters become tokens. Block structure is made explicit:
an increase of indentation opens a block collection and a decrease closes it. A scalar that
turns out to be followed by `:` becomes a key after the fact, so tokens wait in a queue while
such a "simple key" is still possible. Positions are marks of character index, line and
column, all from 0.
-/

namespace Covenant.Yaml

/-- A position in the text: character index, line and column, from 0. -/
structure Mark where
  index : Nat := 0
  line : Nat := 0
  column : Nat := 0
  deriving Inhabited, BEq, Repr

/-- How a scalar was written. -/
inductive ScalarStyle where
  | plain | singleQuoted | doubleQuoted | literal | folded
  deriving Inhabited, BEq, Repr

/-- The kinds of token. -/
inductive TokenKind where
  | streamStart | streamEnd
  | versionDirective (major minor : Nat)
  | tagDirective (handle pre : String)
  | documentStart | documentEnd
  | blockSequenceStart | blockMappingStart | blockEnd
  | flowSequenceStart | flowSequenceEnd | flowMappingStart | flowMappingEnd
  | blockEntry | flowEntry | key | value
  | alias (name : String)
  | anchor (name : String)
  | tag (handle suffix : String)
  | scalar (text : String) (style : ScalarStyle)
  deriving Inhabited, BEq, Repr

/-- A token with the marks where it starts and ends. -/
structure Token where
  kind : TokenKind
  start : Mark
  stop : Mark
  deriving Inhabited, Repr

/-- A reading error: what went wrong and where, and what was being read when it did. Errors
found before any token (characters that may not appear) carry a byte offset instead. -/
structure Problem where
  problem : String
  mark : Mark := {}
  context : Option (String × Mark) := none
  offset : Nat := 0
  deriving Inhabited, Repr

/-- A mark in words, lines and columns counted from 1. -/
def Mark.render (m : Mark) : String := s!"line {m.line + 1} column {m.column + 1}"

/-- The text of a reading error. A position is named only when it is not the very start,
and the context's position only when it differs from the problem's. -/
def Problem.message (p : Problem) : String :=
  let atProblem :=
    if p.mark.line ≠ 0 ∨ p.mark.column ≠ 0 then " at " ++ p.mark.render
    else if p.offset ≠ 0 then s!" at position {p.offset}"
    else ""
  let ctx :=
    match p.context with
    | none => ""
    | some (c, m) =>
      if (m.line ≠ 0 ∨ m.column ≠ 0) ∧ (m.line ≠ p.mark.line ∨ m.column ≠ p.mark.column) then
        ", " ++ c ++ " at " ++ m.render
      else ", " ++ c
  p.problem ++ atProblem ++ ctx

/-- A place where a simple key could start. -/
structure SimpleKey where
  possible : Bool := false
  required : Bool := false
  tokenNumber : Nat := 0
  mark : Mark := {}
  deriving Inhabited

/-- The scanner's state. `chars` is the whole text; the character after its end reads as
NUL. `indent` is the current block indentation (-1 outside any block). -/
structure Scanner where
  chars : Array Char
  pos : Nat := 0
  mark : Mark := {}
  tokens : List Token := []
  tokensParsed : Nat := 0
  streamStartProduced : Bool := false
  streamEndProduced : Bool := false
  indent : Int := -1
  indents : List Int := []
  simpleKeyAllowed : Bool := false
  simpleKeys : List SimpleKey := []
  flowLevel : Nat := 0

abbrev ScanM := StateT Scanner (Except Problem)

namespace Scan

def eof : Char := Char.ofNat 0

def isBreakChar (c : Char) : Bool :=
  c = '\r' || c = '\n' || c.toNat = 0x85 || c.toNat = 0x2028 || c.toNat = 0x2029

def isBlankChar (c : Char) : Bool := c = ' ' || c = '\t'

def isBreakOrEnd (c : Char) : Bool := isBreakChar c || c = eof

def isBlankOrEnd (c : Char) : Bool := isBlankChar c || isBreakOrEnd c

/-- Letters, digits, `_` and `-`. -/
def isWordChar (c : Char) : Bool := c.isAlphanum && c.toNat < 128 || c = '_' || c = '-'

def isHexChar (c : Char) : Bool :=
  c.isDigit || ('a' ≤ c && c ≤ 'f') || ('A' ≤ c && c ≤ 'F')

def hexValue (c : Char) : Nat :=
  if c.isDigit then c.toNat - 48 else if 'a' ≤ c && c ≤ 'f' then c.toNat - 87 else c.toNat - 55

/-- The character `k` places ahead; NUL past the end. -/
def peekAt (k : Nat) : ScanM Char := do
  let s ← get
  return s.chars.getD (s.pos + k) eof

def peek : ScanM Char := peekAt 0

def fail {α : Type} (context : Option String) (contextMark : Mark) (problem : String) :
    ScanM α := do
  let s ← get
  throw { problem := problem, mark := s.mark, context := context.map (·, contextMark) }

/-- Moves past one character on the same line. -/
def skip : ScanM Unit :=
  modify fun s =>
    { s with
      pos := s.pos + 1
      mark := { s.mark with index := s.mark.index + 1, column := s.mark.column + 1 } }

/-- Moves past one line break (a CR LF pair counts as one). -/
def skipLine : ScanM Unit := do
  let c ← peek
  let d ← peekAt 1
  if c = '\r' && d = '\n' then
    modify fun s =>
      { s with
        pos := s.pos + 2
        mark := { index := s.mark.index + 2, line := s.mark.line + 1, column := 0 } }
  else if isBreakChar c then
    modify fun s =>
      { s with
        pos := s.pos + 1
        mark := { index := s.mark.index + 1, line := s.mark.line + 1, column := 0 } }

/-- Copies one character into `acc` and moves past it. -/
def readChar (acc : String) : ScanM String := do
  let c ← peek
  skip
  return acc.push c

/-- Copies one line break into `acc`: CR LF, CR, LF and NEL become a line feed; the line and
paragraph separators are kept. -/
def readLine (acc : String) : ScanM String := do
  let c ← peek
  let d ← peekAt 1
  if c = '\r' && d = '\n' then
    skipLine
    return acc.push '\n'
  else if c = '\r' || c = '\n' || c.toNat = 0x85 then
    skipLine
    return acc.push '\n'
  else if c.toNat = 0x2028 || c.toNat = 0x2029 then
    skipLine
    return acc.push c
  else return acc

/-- A bound on the number of steps of any loop over the remaining text. -/
def budget : ScanM Nat := do
  let s ← get
  return s.chars.size - s.pos + 2

def enqueue (t : Token) : ScanM Unit := modify fun s => { s with tokens := s.tokens ++ [t] }

/-- Inserts a token at a position of the queue, counted from its head. -/
def insertToken (at_ : Nat) (t : Token) : ScanM Unit :=
  modify fun s => { s with tokens := s.tokens.take at_ ++ [t] ++ s.tokens.drop at_ }

/-- A token of the given kind over the next `n` characters. -/
def punct (kind : TokenKind) (n : Nat) : ScanM Unit := do
  let start := (← get).mark
  for _ in [0:n] do skip
  let stop := (← get).mark
  enqueue ⟨kind, start, stop⟩

/-! ## Simple keys -/

/-- Drops the simple key of the current level; a required one is an error. -/
def removeSimpleKey : ScanM Unit := do
  let s ← get
  match s.simpleKeys with
  | k :: rest =>
    if k.possible && k.required then
      fail (some "while scanning a simple key") k.mark "could not find expected ':'"
    else set { s with simpleKeys := { k with possible := false } :: rest }
  | [] => pure ()

/-- Keys that can no longer be simple keys: on an earlier line, or too far back. -/
def staleSimpleKeys : ScanM Unit := do
  let s ← get
  let mut keys : List SimpleKey := []
  for k in s.simpleKeys do
    if k.possible && (k.mark.line < s.mark.line || k.mark.index + 1024 < s.mark.index) then
      if k.required then
        fail (some "while scanning a simple key") k.mark "could not find expected ':'"
      keys := keys ++ [{ k with possible := false }]
    else keys := keys ++ [k]
  set { s with simpleKeys := keys }

/-- Remembers that a simple key may start here. -/
def saveSimpleKey : ScanM Unit := do
  let s ← get
  let required := s.flowLevel == 0 && s.indent == (s.mark.column : Int)
  if s.simpleKeyAllowed then
    let key : SimpleKey :=
      { possible := true, required := required,
        tokenNumber := s.tokensParsed + s.tokens.length, mark := s.mark }
    removeSimpleKey
    modify fun s => { s with simpleKeys := key :: s.simpleKeys.drop 1 }

def increaseFlowLevel : ScanM Unit :=
  modify fun s => { s with simpleKeys := {} :: s.simpleKeys, flowLevel := s.flowLevel + 1 }

def decreaseFlowLevel : ScanM Unit :=
  modify fun s =>
    if s.flowLevel > 0 then { s with flowLevel := s.flowLevel - 1, simpleKeys := s.simpleKeys.drop 1 }
    else s

/-! ## Indentation -/

/-- Opens a block collection when `column` is deeper than the current indentation. The
token goes last, or at a queue position given by a token number. -/
def rollIndent (column : Int) (number : Option Nat) (kind : TokenKind) (mark : Mark) :
    ScanM Unit := do
  let s ← get
  if s.flowLevel == 0 && s.indent < column then
    set { s with indents := s.indent :: s.indents, indent := column }
    match number with
    | none => enqueue ⟨kind, mark, mark⟩
    | some n => insertToken (n - s.tokensParsed) ⟨kind, mark, mark⟩

/-- Closes the block collections deeper than `column`. -/
def unrollIndent (column : Int) : ScanM Unit := do
  let s ← get
  if s.flowLevel == 0 then
    for _ in [0:s.indents.length + 1] do
      let s ← get
      if s.indent > column then
        enqueue ⟨.blockEnd, s.mark, s.mark⟩
        match s.indents with
        | i :: rest => modify fun s => { s with indent := i, indents := rest }
        | [] => modify fun s => { s with indent := -1 }
      else break

/-! ## Scalars and other token bodies -/

/-- Whether the next four characters are a document marker `---` or `...` at column 0. -/
def atDocumentIndicator : ScanM Bool := do
  let s ← get
  let c0 ← peekAt 0
  let c1 ← peekAt 1
  let c2 ← peekAt 2
  let c3 ← peekAt 3
  return s.mark.column == 0 &&
    ((c0 = '-' && c1 = '-' && c2 = '-') || (c0 = '.' && c1 = '.' && c2 = '.')) &&
    isBlankOrEnd c3

/-- Folds a line break into a scalar: a lone break becomes a space, further breaks stay. -/
def foldBreaks (text leadingBreak trailingBreaks : String) : String :=
  if leadingBreak.startsWith "\n" then
    if trailingBreaks.isEmpty then text.push ' ' else text ++ trailingBreaks
  else text ++ leadingBreak ++ trailingBreaks

/-- A plain scalar: runs of characters joined across blanks and folded line breaks, ended
by `: `, a comment, a flow indicator inside a flow collection, or a line indented too little. -/
def plainScalar : ScanM Unit := do
  let startMark := (← get).mark
  let indent := (← get).indent + 1
  let mut text := ""
  let mut leadingBreak := ""
  let mut trailingBreaks := ""
  let mut whitespaces := ""
  let mut leadingBlanks := false
  let mut endMark := startMark
  let n ← budget
  for _ in [0:n] do
    if ← atDocumentIndicator then break
    if (← peek) = '#' then break
    -- the characters of one run
    for _ in [0:n] do
      let c ← peek
      if isBlankOrEnd c then break
      let d ← peekAt 1
      let flow := (← get).flowLevel > 0
      if flow && c = ':' && (d = ',' || d = '?' || d = '[' || d = ']' || d = '{' || d = '}') then
        fail (some "while scanning a plain scalar") startMark "found unexpected ':'"
      if (c = ':' && isBlankOrEnd d) ||
          (flow && (c = ',' || c = '[' || c = ']' || c = '{' || c = '}')) then
        break
      if leadingBlanks || !whitespaces.isEmpty then
        if leadingBlanks then
          text := foldBreaks text leadingBreak trailingBreaks
          leadingBreak := ""
          trailingBreaks := ""
          leadingBlanks := false
        else
          text := text ++ whitespaces
          whitespaces := ""
      text ← readChar text
      endMark := (← get).mark
    let c ← peek
    if !(isBlankChar c || isBreakChar c) then break
    -- blanks and line breaks between runs
    for _ in [0:n] do
      let c ← peek
      if isBlankChar c then
        if leadingBlanks && (((← get).mark.column : Int) < indent) && c = '\t' then
          fail (some "while scanning a plain scalar") startMark
            "found a tab character that violates indentation"
        if !leadingBlanks then whitespaces ← readChar whitespaces
        else skip
      else if isBreakChar c then
        if !leadingBlanks then
          whitespaces := ""
          leadingBreak ← readLine leadingBreak
          leadingBlanks := true
        else trailingBreaks ← readLine trailingBreaks
      else break
    let s ← get
    if s.flowLevel == 0 && (s.mark.column : Int) < indent then break
  enqueue ⟨.scalar text .plain, startMark, endMark⟩
  if leadingBlanks then modify fun s => { s with simpleKeyAllowed := true }

/-- The character an escape letter stands for, or the number of hex digits it takes. -/
def escapeOf (c : Char) : Option (Sum Char Nat) :=
  match c with
  | '0' => some (.inl (Char.ofNat 0))
  | 'a' => some (.inl (Char.ofNat 7))
  | 'b' => some (.inl (Char.ofNat 8))
  | 't' | '\t' => some (.inl '\t')
  | 'n' => some (.inl '\n')
  | 'v' => some (.inl (Char.ofNat 11))
  | 'f' => some (.inl (Char.ofNat 12))
  | 'r' => some (.inl '\r')
  | 'e' => some (.inl (Char.ofNat 27))
  | ' ' => some (.inl ' ')
  | '"' => some (.inl '"')
  | '/' => some (.inl '/')
  | '\'' => some (.inl '\'')
  | '\\' => some (.inl '\\')
  | 'N' => some (.inl (Char.ofNat 0x85))
  | '_' => some (.inl (Char.ofNat 0xA0))
  | 'L' => some (.inl (Char.ofNat 0x2028))
  | 'P' => some (.inl (Char.ofNat 0x2029))
  | 'x' => some (.inr 2)
  | 'u' => some (.inr 4)
  | 'U' => some (.inr 8)
  | _ => none

/-- A single- or double-quoted scalar, with escapes and folded line breaks. -/
def quotedScalar (single : Bool) : ScanM Unit := do
  let startMark := (← get).mark
  let quote := if single then '\'' else '"'
  skip
  let mut text := ""
  let n ← budget
  for _ in [0:n] do
    if ← atDocumentIndicator then
      fail (some "while scanning a quoted scalar") startMark "found unexpected document indicator"
    if (← peek) = eof then
      fail (some "while scanning a quoted scalar") startMark "found unexpected end of stream"
    let mut leadingBlanks := false
    -- non-blank characters
    for _ in [0:n] do
      let c ← peek
      if isBlankOrEnd c then break
      let d ← peekAt 1
      if single && c = '\'' && d = '\'' then
        text := text.push '\''
        skip
        skip
      else if c = quote then break
      else if !single && c = '\\' && isBreakChar d then
        skip
        skipLine
        leadingBlanks := true
        break
      else if !single && c = '\\' then
        match escapeOf d with
        | none =>
          fail (some "while parsing a quoted scalar") startMark "found unknown escape character"
        | some (.inl ch) =>
          text := text.push ch
          skip
          skip
        | some (.inr len) =>
          skip
          skip
          let mut code := 0
          for k in [0:len] do
            let h ← peekAt k
            if !isHexChar h then
              fail (some "while parsing a quoted scalar") startMark
                "did not find expected hexdecimal number"
            code := code * 16 + hexValue h
          if (0xD800 ≤ code && code ≤ 0xDFFF) || code > 0x10FFFF then
            fail (some "while parsing a quoted scalar") startMark
              "found invalid Unicode character escape code"
          text := text.push (Char.ofNat code)
          for _ in [0:len] do skip
      else text ← readChar text
    if (← peek) = quote then break
    -- blanks and line breaks
    let mut whitespaces := ""
    let mut leadingBreak := ""
    let mut trailingBreaks := ""
    for _ in [0:n] do
      let c ← peek
      if isBlankChar c then
        if !leadingBlanks then whitespaces ← readChar whitespaces
        else skip
      else if isBreakChar c then
        if !leadingBlanks then
          whitespaces := ""
          leadingBreak ← readLine leadingBreak
          leadingBlanks := true
        else trailingBreaks ← readLine trailingBreaks
      else break
    if leadingBlanks then text := foldBreaks text leadingBreak trailingBreaks
    else text := text ++ whitespaces
  skip
  let endMark := (← get).mark
  enqueue ⟨.scalar text (if single then .singleQuoted else .doubleQuoted), startMark, endMark⟩

/-- Indentation spaces and empty lines inside a block scalar; fixes the indentation from the
first non-empty line when it is not given. -/
def blockScalarBreaks (indent : Nat) (startMark : Mark) (breaks : String) :
    ScanM (Nat × String × Mark) := do
  let mut indent := indent
  let mut breaks := breaks
  let mut maxIndent := 0
  let mut endMark := (← get).mark
  let n ← budget
  for _ in [0:n] do
    for _ in [0:n] do
      let col := (← get).mark.column
      if (indent == 0 || col < indent) && (← peek) = ' ' then skip else break
    let col := (← get).mark.column
    if col > maxIndent then maxIndent := col
    if (indent == 0 || col < indent) && (← peek) = '\t' then
      fail (some "while scanning a block scalar") startMark
        "found a tab character where an indentation space is expected"
    if !isBreakChar (← peek) then break
    breaks ← readLine breaks
    endMark := (← get).mark
  if indent == 0 then
    let s ← get
    let least := (s.indent + 1).toNat
    indent := max (max maxIndent least) 1
  return (indent, breaks, endMark)

/-- A literal (`|`) or folded (`>`) block scalar with its chomping and indentation
indicators. -/
def blockScalar (literal : Bool) : ScanM Unit := do
  let startMark := (← get).mark
  skip
  let mut chomping : Int := 0
  let mut increment := 0
  let c ← peek
  if c = '+' || c = '-' then
    chomping := if c = '+' then 1 else -1
    skip
    let d ← peek
    if d.isDigit then
      if d = '0' then
        fail (some "while scanning a block scalar") startMark
          "found an indentation indicator equal to 0"
      increment := d.toNat - 48
      skip
  else if c.isDigit then
    if c = '0' then
      fail (some "while scanning a block scalar") startMark
        "found an indentation indicator equal to 0"
    increment := c.toNat - 48
    skip
    let d ← peek
    if d = '+' || d = '-' then
      chomping := if d = '+' then 1 else -1
      skip
  let n ← budget
  for _ in [0:n] do
    if isBlankChar (← peek) then skip else break
  if (← peek) = '#' then
    for _ in [0:n] do
      if isBreakOrEnd (← peek) then break
      skip
  if !isBreakOrEnd (← peek) then
    fail (some "while scanning a block scalar") startMark
      "did not find expected comment or line break"
  if isBreakChar (← peek) then skipLine
  let mut endMark := (← get).mark
  let s ← get
  let mut indent : Nat :=
    if increment ≠ 0 then (if s.indent ≥ 0 then (s.indent + increment).toNat else increment) else 0
  let mut text := ""
  let mut leadingBreak := ""
  let (i, tb, em) ← blockScalarBreaks indent startMark ""
  indent := i
  let mut trailingBreaks := tb
  endMark := em
  let mut leadingBlank := false
  for _ in [0:n] do
    if !((← get).mark.column == indent && (← peek) ≠ eof) then break
    let trailingBlank := isBlankChar (← peek)
    if !literal && leadingBreak.startsWith "\n" && !leadingBlank && !trailingBlank then
      if trailingBreaks.isEmpty then text := text.push ' '
      leadingBreak := ""
    else
      text := text ++ leadingBreak
      leadingBreak := ""
    text := text ++ trailingBreaks
    trailingBreaks := ""
    leadingBlank := isBlankChar (← peek)
    for _ in [0:n] do
      if isBreakOrEnd (← peek) then break
      text ← readChar text
    leadingBreak ← readLine leadingBreak
    let (i, tb, em) ← blockScalarBreaks indent startMark trailingBreaks
    indent := i
    trailingBreaks := tb
    endMark := em
  if chomping ≠ -1 then text := text ++ leadingBreak
  if chomping == 1 then text := text ++ trailingBreaks
  enqueue ⟨.scalar text (if literal then .literal else .folded), startMark, endMark⟩

/-- An anchor (`&name`) or alias (`*name`). -/
def anchorOrAlias (isAlias : Bool) : ScanM Unit := do
  let startMark := (← get).mark
  skip
  let mut name := ""
  let n ← budget
  for _ in [0:n] do
    if isWordChar (← peek) then name ← readChar name else break
  let endMark := (← get).mark
  let c ← peek
  if name.isEmpty || !(isBlankOrEnd c || c = '?' || c = ':' || c = ',' || c = ']' ||
      c = '}' || c = '%' || c = '@' || c = '`') then
    fail (some (if isAlias then "while scanning an alias" else "while scanning an anchor"))
      startMark "did not find expected alphabetic or numeric character"
  enqueue ⟨if isAlias then .alias name else .anchor name, startMark, endMark⟩

/-- Characters a tag URI may hold; inside `!<...>` also `,`, `[` and `]`. -/
def isUriChar (verbatim : Bool) (c : Char) : Bool :=
  isWordChar c || ";/?:@&=+$.%!~*'()".toList.contains c ||
    (verbatim && (c = ',' || c = '[' || c = ']'))

/-- Decodes `%XX` escapes of a tag URI as UTF-8. -/
def uriEscapes (directive : Bool) (startMark : Mark) : ScanM String := do
  let context := if directive then "while parsing a %TAG directive" else "while parsing a tag"
  let mut bytes : List UInt8 := []
  let mut width := 0
  for _ in [0:4] do
    let c0 ← peekAt 0
    let c1 ← peekAt 1
    let c2 ← peekAt 2
    if !(c0 = '%' && isHexChar c1 && isHexChar c2) then
      fail (some context) startMark "did not find URI escaped octet"
    let octet := hexValue c1 * 16 + hexValue c2
    if width == 0 then
      width := if octet &&& 0x80 == 0 then 1 else if octet &&& 0xE0 == 0xC0 then 2
        else if octet &&& 0xF0 == 0xE0 then 3 else if octet &&& 0xF8 == 0xF0 then 4 else 0
      if width == 0 then
        fail (some context) startMark "found an incorrect leading UTF-8 octet"
    else if octet &&& 0xC0 != 0x80 then
      fail (some context) startMark "found an incorrect trailing UTF-8 octet"
    bytes := bytes ++ [octet.toUInt8]
    skip
    skip
    skip
    if bytes.length == width then break
  return (String.fromUTF8? (ByteArray.mk bytes.toArray)).getD ""

/-- The URI part of a tag, after an optional head that has already been read. -/
def tagUri (verbatim directive : Bool) (head : String) (startMark : Mark) : ScanM String := do
  let mut text := String.ofList (head.toList.drop 1)
  let mut length := head.length
  let n ← budget
  for _ in [0:n] do
    let c ← peek
    if !isUriChar verbatim c then break
    if c = '%' then text := text ++ (← uriEscapes directive startMark)
    else text ← readChar text
    length := length + 1
  if length == 0 then
    fail (some (if directive then "while parsing a %TAG directive" else "while parsing a tag"))
      startMark "did not find expected tag URI"
  return text

/-- A tag handle: `!`, `!!` or `!word!`. -/
def tagHandle (directive : Bool) (startMark : Mark) : ScanM String := do
  if (← peek) ≠ '!' then
    fail (some (if directive then "while scanning a tag directive" else "while scanning a tag"))
      startMark "did not find expected '!'"
  let mut text ← readChar ""
  let n ← budget
  for _ in [0:n] do
    if isWordChar (← peek) then text ← readChar text else break
  if (← peek) = '!' then text ← readChar text
  else if directive && text != "!" then
    fail (some "while parsing a tag directive") startMark "did not find expected '!'"
  return text

/-- A tag: verbatim `!<uri>`, `!handle!suffix`, or `!suffix`. -/
def tagToken : ScanM Unit := do
  let startMark := (← get).mark
  let (handle, suffix) ← do
    if (← peekAt 1) = '<' then
      skip
      skip
      let suffix ← tagUri true false "" startMark
      if (← peek) ≠ '>' then
        fail (some "while scanning a tag") startMark "did not find the expected '>'"
      skip
      pure ("", suffix)
    else
      let handle ← tagHandle false startMark
      if handle.length > 1 && handle.startsWith "!" && handle.endsWith "!" then
        pure (handle, ← tagUri false false "" startMark)
      else
        let suffix ← tagUri false false handle startMark
        if suffix.isEmpty then pure ("", "!") else pure ("!", suffix)
  let c ← peek
  if !isBlankOrEnd c then
    if (← get).flowLevel == 0 || c ≠ ',' then
      fail (some "while scanning a tag") startMark "did not find expected whitespace or line break"
  let endMark := (← get).mark
  enqueue ⟨.tag handle suffix, startMark, endMark⟩

/-- A directive line: `%YAML major.minor` or `%TAG handle prefix`. -/
def directive : ScanM Unit := do
  let startMark := (← get).mark
  skip
  let mut name := ""
  let n ← budget
  for _ in [0:n] do
    if isWordChar (← peek) then name ← readChar name else break
  if name.isEmpty then
    fail (some "while scanning a directive") startMark "could not find expected directive name"
  if !isBlankOrEnd (← peek) then
    fail (some "while scanning a directive") startMark
      "found unexpected non-alphabetical character"
  let skipBlanks : ScanM Unit := do
    for _ in [0:n] do
      if isBlankChar (← peek) then skip else break
  let number : ScanM Nat := do
    let mut value := 0
    let mut length := 0
    for _ in [0:n] do
      let c ← peek
      if !c.isDigit then break
      length := length + 1
      if length > 9 then
        fail (some "while scanning a %YAML directive") startMark
          "found extremely long version number"
      value := value * 10 + (c.toNat - 48)
      skip
    if length == 0 then
      fail (some "while scanning a %YAML directive") startMark
        "did not find expected version number"
    return value
  let kind ← do
    if name == "YAML" then
      skipBlanks
      let major ← number
      if (← peek) ≠ '.' then
        fail (some "while scanning a %YAML directive") startMark
          "did not find expected digit or '.' character"
      skip
      let minor ← number
      pure (TokenKind.versionDirective major minor)
    else if name == "TAG" then
      skipBlanks
      let handle ← tagHandle true startMark
      if !isBlankChar (← peek) then
        fail (some "while scanning a %TAG directive") startMark
          "did not find expected whitespace"
      skipBlanks
      let pre ← tagUri true true "" startMark
      if !isBlankOrEnd (← peek) then
        fail (some "while scanning a %TAG directive") startMark
          "did not find expected whitespace or line break"
      pure (TokenKind.tagDirective handle pre)
    else
      fail (some "while scanning a directive") startMark "found unknown directive name"
  let endMark := (← get).mark
  enqueue ⟨kind, startMark, endMark⟩
  skipBlanks
  if (← peek) = '#' then
    for _ in [0:n] do
      if isBreakOrEnd (← peek) then break
      skip
  if !isBreakOrEnd (← peek) then
    fail (some "while scanning a directive") startMark "did not find expected comment or line break"
  if isBreakChar (← peek) then skipLine

/-- Skips blanks, comments and line breaks up to the next token. Tabs are skipped only in a
flow collection or where no simple key may start. -/
def toNextToken : ScanM Unit := do
  let n ← budget
  for _ in [0:n] do
    let s ← get
    if s.mark.column == 0 && (← peek).toNat = 0xFEFF then skip
    for _ in [0:n] do
      let s ← get
      let c ← peek
      if c = ' ' || ((s.flowLevel > 0 || !s.simpleKeyAllowed) && c = '\t') then skip else break
    if (← peek) = '#' then
      for _ in [0:n] do
        if isBreakOrEnd (← peek) then break
        skip
    if isBreakChar (← peek) then
      skipLine
      if (← get).flowLevel == 0 then modify fun s => { s with simpleKeyAllowed := true }
    else break

/-! ## Fetching tokens -/

def fetchStreamStart : ScanM Unit := do
  modify fun s =>
    { s with
      indent := -1, simpleKeys := [{}], simpleKeyAllowed := true, streamStartProduced := true }
  let m := (← get).mark
  enqueue ⟨.streamStart, m, m⟩

def fetchStreamEnd : ScanM Unit := do
  let s ← get
  if s.mark.column ≠ 0 then
    set { s with mark := { s.mark with column := 0, line := s.mark.line + 1 } }
  unrollIndent (-1)
  removeSimpleKey
  modify fun s => { s with simpleKeyAllowed := false, streamEndProduced := true }
  let m := (← get).mark
  enqueue ⟨.streamEnd, m, m⟩

def fetchDirective : ScanM Unit := do
  unrollIndent (-1)
  removeSimpleKey
  modify fun s => { s with simpleKeyAllowed := false }
  directive

def fetchDocumentIndicator (kind : TokenKind) : ScanM Unit := do
  unrollIndent (-1)
  removeSimpleKey
  modify fun s => { s with simpleKeyAllowed := false }
  punct kind 3

def fetchFlowCollectionStart (kind : TokenKind) : ScanM Unit := do
  saveSimpleKey
  increaseFlowLevel
  modify fun s => { s with simpleKeyAllowed := true }
  punct kind 1

def fetchFlowCollectionEnd (kind : TokenKind) : ScanM Unit := do
  removeSimpleKey
  decreaseFlowLevel
  modify fun s => { s with simpleKeyAllowed := false }
  punct kind 1

def fetchFlowEntry : ScanM Unit := do
  removeSimpleKey
  modify fun s => { s with simpleKeyAllowed := true }
  punct .flowEntry 1

def fetchBlockEntry : ScanM Unit := do
  let s ← get
  if s.flowLevel == 0 then
    if !s.simpleKeyAllowed then
      fail none s.mark "block sequence entries are not allowed in this context"
    rollIndent s.mark.column none .blockSequenceStart s.mark
  removeSimpleKey
  modify fun s => { s with simpleKeyAllowed := true }
  punct .blockEntry 1

def fetchKey : ScanM Unit := do
  let s ← get
  if s.flowLevel == 0 then
    if !s.simpleKeyAllowed then
      fail none s.mark "mapping keys are not allowed in this context"
    rollIndent s.mark.column none .blockMappingStart s.mark
  removeSimpleKey
  modify fun s => { s with simpleKeyAllowed := s.flowLevel == 0 }
  punct .key 1

def fetchValue : ScanM Unit := do
  let s ← get
  match s.simpleKeys with
  | k :: rest =>
    if k.possible then
      insertToken (k.tokenNumber - s.tokensParsed) ⟨.key, k.mark, k.mark⟩
      rollIndent k.mark.column (some k.tokenNumber) .blockMappingStart k.mark
      modify fun s =>
        { s with simpleKeys := { k with possible := false } :: rest, simpleKeyAllowed := false }
    else
      if s.flowLevel == 0 then
        if !s.simpleKeyAllowed then
          fail none s.mark "mapping values are not allowed in this context"
        rollIndent s.mark.column none .blockMappingStart s.mark
      modify fun s => { s with simpleKeyAllowed := s.flowLevel == 0 }
  | [] => pure ()
  punct .value 1

def fetchAnchor (isAlias : Bool) : ScanM Unit := do
  saveSimpleKey
  modify fun s => { s with simpleKeyAllowed := false }
  anchorOrAlias isAlias

def fetchTag : ScanM Unit := do
  saveSimpleKey
  modify fun s => { s with simpleKeyAllowed := false }
  tagToken

def fetchBlockScalar (literal : Bool) : ScanM Unit := do
  removeSimpleKey
  modify fun s => { s with simpleKeyAllowed := true }
  blockScalar literal

def fetchFlowScalar (single : Bool) : ScanM Unit := do
  saveSimpleKey
  modify fun s => { s with simpleKeyAllowed := false }
  quotedScalar single

def fetchPlainScalar : ScanM Unit := do
  saveSimpleKey
  modify fun s => { s with simpleKeyAllowed := false }
  plainScalar

/-- Characters that cannot start a plain scalar. -/
def isIndicator (c : Char) : Bool := "-?:,[]\x7b\x7d#&*!|>'\"%@`".toList.contains c

/-- Scans the next token (or tokens, when indentation closes collections). -/
def fetchNextToken : ScanM Unit := do
  if !(← get).streamStartProduced then fetchStreamStart
  else
    toNextToken
    staleSimpleKeys
    unrollIndent (← get).mark.column
    let s ← get
    let c ← peek
    let d ← peekAt 1
    let col0 := s.mark.column == 0
    let flow := s.flowLevel > 0
    if c = eof then fetchStreamEnd
    else if col0 && c = '%' then fetchDirective
    else if col0 && c = '-' && d = '-' && (← peekAt 2) = '-' && isBlankOrEnd (← peekAt 3) then
      fetchDocumentIndicator .documentStart
    else if col0 && c = '.' && d = '.' && (← peekAt 2) = '.' && isBlankOrEnd (← peekAt 3) then
      fetchDocumentIndicator .documentEnd
    else if c = '[' then fetchFlowCollectionStart .flowSequenceStart
    else if c = '{' then fetchFlowCollectionStart .flowMappingStart
    else if c = ']' then fetchFlowCollectionEnd .flowSequenceEnd
    else if c = '}' then fetchFlowCollectionEnd .flowMappingEnd
    else if c = ',' then fetchFlowEntry
    else if c = '-' && isBlankOrEnd d then fetchBlockEntry
    else if c = '?' && (flow || isBlankOrEnd d) then fetchKey
    else if c = ':' && (flow || isBlankOrEnd d) then fetchValue
    else if c = '*' then fetchAnchor true
    else if c = '&' then fetchAnchor false
    else if c = '!' then fetchTag
    else if c = '|' && !flow then fetchBlockScalar true
    else if c = '>' && !flow then fetchBlockScalar false
    else if c = '\'' then fetchFlowScalar true
    else if c = '"' then fetchFlowScalar false
    else if !(isBlankOrEnd c || isIndicator c) || (c = '-' && !isBlankChar d) ||
        (!flow && (c = '?' || c = ':') && !isBlankOrEnd d) then
      fetchPlainScalar
    else
      fail (some "while scanning for the next token") s.mark
        "found character that cannot start any token"

/-- Scans until the head of the queue can no longer become a key. -/
def fetchMoreTokens : ScanM Unit := do
  let n ← budget
  for _ in [0:4 * n + 8] do
    let s ← get
    let need ←
      if s.tokens.isEmpty then pure true
      else
        staleSimpleKeys
        let s ← get
        pure (s.simpleKeys.any fun k => k.possible && k.tokenNumber == s.tokensParsed)
    if !need then break
    if (← get).streamEndProduced then break
    fetchNextToken

end Scan

/-- The next token, scanning as needed; `none` after the end of the stream. -/
def Scanner.peekToken : ScanM (Option Token) := do
  Scan.fetchMoreTokens
  return (← get).tokens.head?

/-- Consumes the head token. -/
def Scanner.skipToken : ScanM Unit :=
  modify fun s => { s with tokens := s.tokens.drop 1, tokensParsed := s.tokensParsed + 1 }

end Covenant.Yaml
