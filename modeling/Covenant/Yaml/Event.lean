import Covenant.Yaml.Token

/-!
# YAML events

The second stage of reading YAML: tokens become a stream of events (document and collection
boundaries, scalars and aliases) by a state machine over the token stream. A state names what
may come next; a stack of states remembers where to return after a nested node. Each call of
`Parser.next` yields one event with the mark where it starts.
-/

namespace Covenant.Yaml

/-- The events of a YAML stream. Tags are resolved against the document's tag directives. -/
inductive Event where
  | streamStart | streamEnd | documentStart | documentEnd
  | alias (name : String)
  | scalar (anchor tag : Option String) (value : String) (style : ScalarStyle)
  | sequenceStart (anchor tag : Option String)
  | sequenceEnd
  | mappingStart (anchor tag : Option String)
  | mappingEnd
  deriving Inhabited, Repr

/-- What the parser expects next. -/
inductive ParseState where
  | streamStart | implicitDocumentStart | documentStart | documentContent | documentEnd
  | blockNode
  | blockSequenceFirstEntry | blockSequenceEntry | indentlessSequenceEntry
  | blockMappingFirstKey | blockMappingKey | blockMappingValue
  | flowSequenceFirstEntry | flowSequenceEntry
  | flowSequenceEntryMappingKey | flowSequenceEntryMappingValue | flowSequenceEntryMappingEnd
  | flowMappingFirstKey | flowMappingKey | flowMappingValue | flowMappingEmptyValue
  | finished
  deriving Inhabited, BEq, Repr

/-- The parser: the scanner, the current state, the states to return to, the start marks of
open collections, and the tag directives of the current document. -/
structure Parser where
  scanner : Scanner
  state : ParseState := .streamStart
  states : List ParseState := []
  marks : List Mark := []
  tagDirectives : List (String × String) := []

abbrev ParseM := StateT Parser (Except Problem)

namespace Parse

/-- Runs a scanner step inside the parser. -/
def scan {α : Type} (m : ScanM α) : ParseM α := fun p => do
  let (a, s) ← m.run p.scanner
  pure (a, { p with scanner := s })

/-- The next token; past the end of the stream, a stream end at the last mark. -/
def peek : ParseM Token := do
  match ← scan Scanner.peekToken with
  | some t => pure t
  | none =>
    let m := (← get).scanner.mark
    pure ⟨.streamEnd, m, m⟩

def skip : ParseM Unit := scan Scanner.skipToken

def setState (s : ParseState) : ParseM Unit := modify fun p => { p with state := s }

def push (s : ParseState) : ParseM Unit := modify fun p => { p with states := s :: p.states }

/-- Returns to the state on top of the stack. -/
def pop : ParseM Unit :=
  modify fun p =>
    match p.states with
    | s :: rest => { p with state := s, states := rest }
    | [] => { p with state := .finished }

def pushMark (m : Mark) : ParseM Unit := modify fun p => { p with marks := m :: p.marks }

def popMark : ParseM Mark := do
  let p ← get
  match p.marks with
  | m :: rest =>
    set { p with marks := rest }
    pure m
  | [] => pure {}

/-- A parser error at a mark, without context. -/
def fail {α : Type} (problem : String) (mark : Mark) : ParseM α :=
  throw { problem := problem, mark := mark }

/-- A parser error at a mark, with what was being parsed and where it started. -/
def failIn {α : Type} (context : String) (contextMark : Mark) (problem : String) (mark : Mark) :
    ParseM α :=
  throw { problem := problem, mark := mark, context := some (context, contextMark) }

/-- The empty plain scalar that stands for a missing node. -/
def emptyScalar (m : Mark) : Event × Mark := (.scalar none none "" .plain, m)

def isKind (t : Token) (p : TokenKind → Bool) : Bool := p t.kind

def isDirective : TokenKind → Bool
  | .versionDirective .. | .tagDirective .. => true
  | _ => false

/-- Reads `%YAML` and `%TAG` directives, then adds the default tag handles. -/
def directives : ParseM Unit := do
  let mut seenVersion := false
  let n := (← get).scanner.chars.size + 2
  for _ in [0:n] do
    let t ← peek
    match t.kind with
    | .versionDirective major minor =>
      if seenVersion then fail "found duplicate %YAML directive" t.start
      if major ≠ 1 || (minor ≠ 1 && minor ≠ 2) then
        fail "found incompatible YAML document" t.start
      seenVersion := true
      skip
    | .tagDirective handle pre =>
      if (← get).tagDirectives.any (·.1 == handle) then
        fail "found duplicate %TAG directive" t.start
      modify fun p => { p with tagDirectives := p.tagDirectives ++ [(handle, pre)] }
      skip
    | _ => break
  for (handle, pre) in [("!", "!"), ("!!", "tag:yaml.org,2002:")] do
    if !(← get).tagDirectives.any (·.1 == handle) then
      modify fun p => { p with tagDirectives := p.tagDirectives ++ [(handle, pre)] }

def streamStart : ParseM (Event × Mark) := do
  let t ← peek
  match t.kind with
  | .streamStart =>
    setState .implicitDocumentStart
    skip
    pure (.streamStart, t.start)
  | _ => fail "did not find expected <stream-start>" t.start

def documentStart (implicit : Bool) : ParseM (Event × Mark) := do
  let mut t ← peek
  if !implicit then
    let n := (← get).scanner.chars.size + 2
    for _ in [0:n] do
      match t.kind with
      | .documentEnd =>
        skip
        t ← peek
      | _ => break
  let startsExplicit : Bool :=
    match t.kind with
    | .versionDirective .. | .tagDirective .. | .documentStart | .streamEnd => true
    | _ => false
  let atEnd : Bool := match t.kind with | .streamEnd => true | _ => false
  if implicit && !startsExplicit then
    directives
    push .documentEnd
    setState .blockNode
    pure (.documentStart, t.start)
  else if !atEnd then
    let start := t.start
    directives
    let u ← peek
    match u.kind with
    | .documentStart =>
      push .documentEnd
      setState .documentContent
      skip
      pure (.documentStart, start)
    | _ => fail "did not find expected <document start>" u.start
  else
    setState .finished
    skip
    pure (.streamEnd, t.start)

def documentEnd : ParseM (Event × Mark) := do
  let t ← peek
  match t.kind with
  | .documentEnd => skip
  | _ => pure ()
  modify fun p => { p with tagDirectives := [], state := .documentStart }
  pure (.documentEnd, t.start)

/-- A node: an alias, or optional anchor and tag followed by a scalar or a collection start.
`block` allows block collections; `indentless` allows a sequence without indentation. -/
def node (block indentless : Bool) : ParseM (Event × Mark) := do
  let t ← peek
  match t.kind with
  | .alias name =>
    pop
    skip
    pure (.alias name, t.start)
  | _ =>
    let mut startMark := t.start
    let mut tagMark := t.start
    let mut anchor : Option String := none
    let mut tagParts : Option (String × String) := none
    let mut t := t
    match t.kind with
    | .anchor name =>
      anchor := some name
      skip
      t ← peek
      match t.kind with
      | .tag h s =>
        tagParts := some (h, s)
        tagMark := t.start
        skip
        t ← peek
      | _ => pure ()
    | .tag h s =>
      tagParts := some (h, s)
      tagMark := t.start
      skip
      t ← peek
      match t.kind with
      | .anchor name =>
        anchor := some name
        skip
        t ← peek
      | _ => pure ()
    | _ => pure ()
    let tag ← match tagParts with
      | none => pure none
      | some (h, s) =>
        if h.isEmpty then pure (some s)
        else
          match (← get).tagDirectives.find? (·.1 == h) with
          | some (_, pre) => pure (some (pre ++ s))
          | none => failIn "while parsing a node" startMark "found undefined tag handle" tagMark
    match t.kind with
    | .blockEntry =>
      if indentless then
        setState .indentlessSequenceEntry
        return (.sequenceStart anchor tag, startMark)
    | _ => pure ()
    match t.kind with
    | .scalar value style =>
      pop
      skip
      pure (.scalar anchor tag value style, startMark)
    | .flowSequenceStart =>
      setState .flowSequenceFirstEntry
      pure (.sequenceStart anchor tag, startMark)
    | .flowMappingStart =>
      setState .flowMappingFirstKey
      pure (.mappingStart anchor tag, startMark)
    | .blockSequenceStart =>
      if block then
        setState .blockSequenceFirstEntry
        pure (.sequenceStart anchor tag, startMark)
      else if anchor.isSome || tag.isSome then
        pop
        pure (.scalar anchor tag "" .plain, startMark)
      else failIn "while parsing a flow node" startMark "did not find expected node content" t.start
    | .blockMappingStart =>
      if block then
        setState .blockMappingFirstKey
        pure (.mappingStart anchor tag, startMark)
      else if anchor.isSome || tag.isSome then
        pop
        pure (.scalar anchor tag "" .plain, startMark)
      else failIn "while parsing a flow node" startMark "did not find expected node content" t.start
    | _ =>
      if anchor.isSome || tag.isSome then
        pop
        pure (.scalar anchor tag "" .plain, startMark)
      else
        failIn (if block then "while parsing a block node" else "while parsing a flow node")
          startMark "did not find expected node content" t.start

def blockSequenceEntry (first : Bool) : ParseM (Event × Mark) := do
  if first then
    pushMark (← peek).start
    skip
  let t ← peek
  match t.kind with
  | .blockEntry =>
    let m := t.stop
    skip
    let t ← peek
    match t.kind with
    | .blockEntry | .blockEnd =>
      setState .blockSequenceEntry
      pure (emptyScalar m)
    | _ =>
      push .blockSequenceEntry
      node true false
  | .blockEnd =>
    pop
    let _ ← popMark
    skip
    pure (.sequenceEnd, t.start)
  | _ =>
    let m ← popMark
    failIn "while parsing a block collection" m "did not find expected '-' indicator" t.start

def indentlessSequenceEntry : ParseM (Event × Mark) := do
  let t ← peek
  match t.kind with
  | .blockEntry =>
    let m := t.stop
    skip
    let t ← peek
    match t.kind with
    | .blockEntry | .key | .value | .blockEnd =>
      setState .indentlessSequenceEntry
      pure (emptyScalar m)
    | _ =>
      push .indentlessSequenceEntry
      node true false
  | _ =>
    pop
    pure (.sequenceEnd, t.start)

def blockMappingKey (first : Bool) : ParseM (Event × Mark) := do
  if first then
    pushMark (← peek).start
    skip
  let t ← peek
  match t.kind with
  | .key =>
    let m := t.stop
    skip
    let t ← peek
    match t.kind with
    | .key | .value | .blockEnd =>
      setState .blockMappingValue
      pure (emptyScalar m)
    | _ =>
      push .blockMappingValue
      node true true
  | .blockEnd =>
    pop
    let _ ← popMark
    skip
    pure (.mappingEnd, t.start)
  | _ =>
    let m ← popMark
    failIn "while parsing a block mapping" m "did not find expected key" t.start

def blockMappingValue : ParseM (Event × Mark) := do
  let t ← peek
  match t.kind with
  | .value =>
    let m := t.stop
    skip
    let t ← peek
    match t.kind with
    | .key | .value | .blockEnd =>
      setState .blockMappingKey
      pure (emptyScalar m)
    | _ =>
      push .blockMappingKey
      node true true
  | _ =>
    setState .blockMappingKey
    pure (emptyScalar t.start)

def flowSequenceEntry (first : Bool) : ParseM (Event × Mark) := do
  if first then
    pushMark (← peek).start
    skip
  let mut t ← peek
  let isEnd : TokenKind → Bool := fun k => match k with | .flowSequenceEnd => true | _ => false
  if !isEnd t.kind then
    if !first then
      match t.kind with
      | .flowEntry =>
        skip
        t ← peek
      | _ =>
        let m ← popMark
        failIn "while parsing a flow sequence" m "did not find expected ',' or ']'" t.start
    match t.kind with
    | .key =>
      setState .flowSequenceEntryMappingKey
      skip
      return (.mappingStart none none, t.start)
    | _ => pure ()
    if !isEnd t.kind then
      push .flowSequenceEntry
      return ← node false false
  pop
  let _ ← popMark
  skip
  pure (.sequenceEnd, t.start)

def flowSequenceEntryMappingKey : ParseM (Event × Mark) := do
  let t ← peek
  match t.kind with
  | .value | .flowEntry | .flowSequenceEnd =>
    let m := t.stop
    skip
    setState .flowSequenceEntryMappingValue
    pure (emptyScalar m)
  | _ =>
    push .flowSequenceEntryMappingValue
    node false false

def flowSequenceEntryMappingValue : ParseM (Event × Mark) := do
  let t ← peek
  match t.kind with
  | .value =>
    skip
    let t ← peek
    match t.kind with
    | .flowEntry | .flowSequenceEnd =>
      setState .flowSequenceEntryMappingEnd
      pure (emptyScalar t.start)
    | _ =>
      push .flowSequenceEntryMappingEnd
      node false false
  | _ =>
    setState .flowSequenceEntryMappingEnd
    pure (emptyScalar t.start)

def flowSequenceEntryMappingEnd : ParseM (Event × Mark) := do
  let t ← peek
  setState .flowSequenceEntry
  pure (.mappingEnd, t.start)

def flowMappingKey (first : Bool) : ParseM (Event × Mark) := do
  if first then
    pushMark (← peek).start
    skip
  let mut t ← peek
  let isEnd : TokenKind → Bool := fun k => match k with | .flowMappingEnd => true | _ => false
  if !isEnd t.kind then
    if !first then
      match t.kind with
      | .flowEntry =>
        skip
        t ← peek
      | _ =>
        let m ← popMark
        failIn "while parsing a flow mapping" m "did not find expected ',' or '\x7d'" t.start
    match t.kind with
    | .key =>
      skip
      let u ← peek
      match u.kind with
      | .value | .flowEntry | .flowMappingEnd =>
        setState .flowMappingValue
        return emptyScalar u.start
      | _ =>
        push .flowMappingValue
        return ← node false false
    | _ => pure ()
    if !isEnd t.kind then
      push .flowMappingEmptyValue
      return ← node false false
  pop
  let _ ← popMark
  skip
  pure (.mappingEnd, t.start)

def flowMappingValue (empty : Bool) : ParseM (Event × Mark) := do
  let t ← peek
  if empty then
    setState .flowMappingKey
    return emptyScalar t.start
  match t.kind with
  | .value =>
    skip
    let t ← peek
    match t.kind with
    | .flowEntry | .flowMappingEnd =>
      setState .flowMappingKey
      pure (emptyScalar t.start)
    | _ =>
      push .flowMappingKey
      node false false
  | _ =>
    setState .flowMappingKey
    pure (emptyScalar t.start)

/-- One step of the state machine. -/
def step : ParseState → ParseM (Option (Event × Mark))
  | .streamStart => some <$> streamStart
  | .implicitDocumentStart => some <$> documentStart true
  | .documentStart => some <$> documentStart false
  | .documentContent => do
    let t ← peek
    match t.kind with
    | .versionDirective .. | .tagDirective .. | .documentStart | .documentEnd | .streamEnd =>
      pop
      pure (some (emptyScalar t.start))
    | _ => some <$> node true false
  | .documentEnd => some <$> documentEnd
  | .blockNode => some <$> node true false
  | .blockSequenceFirstEntry => some <$> blockSequenceEntry true
  | .blockSequenceEntry => some <$> blockSequenceEntry false
  | .indentlessSequenceEntry => some <$> indentlessSequenceEntry
  | .blockMappingFirstKey => some <$> blockMappingKey true
  | .blockMappingKey => some <$> blockMappingKey false
  | .blockMappingValue => some <$> blockMappingValue
  | .flowSequenceFirstEntry => some <$> flowSequenceEntry true
  | .flowSequenceEntry => some <$> flowSequenceEntry false
  | .flowSequenceEntryMappingKey => some <$> flowSequenceEntryMappingKey
  | .flowSequenceEntryMappingValue => some <$> flowSequenceEntryMappingValue
  | .flowSequenceEntryMappingEnd => some <$> flowSequenceEntryMappingEnd
  | .flowMappingFirstKey => some <$> flowMappingKey true
  | .flowMappingKey => some <$> flowMappingKey false
  | .flowMappingValue => some <$> flowMappingValue false
  | .flowMappingEmptyValue => some <$> flowMappingValue true
  | .finished => pure none

end Parse

/-- A parser over a text. -/
def Parser.ofString (text : String) : Parser := { scanner := { chars := text.toList.toArray } }

/-- The next event, or `none` after the end of the stream. -/
def Parser.next : ParseM (Option (Event × Mark)) := do
  Parse.step (← get).state

end Covenant.Yaml
