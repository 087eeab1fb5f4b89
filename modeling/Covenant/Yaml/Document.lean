import Covenant.Yaml.Event
import Covenant.Json.Value
import Covenant.Binary64.Parse
import Covenant.Text.Escape

/-!
# YAML documents as JSON values

The last stage of reading YAML: the events of the first document become a JSON value.

* A plain scalar is resolved: empty, `~` and `null` in three spellings are null; `true` and
  `false` in three spellings are booleans; integers may be written in hexadecimal, octal or
  binary with `0x`, `0o`, `0b`; decimal digits with a leading zero stay strings; other numbers
  are doubles, and the non-finite ones become null. Quoted and block scalars are strings.
* Mapping keys are taken as the text of their scalar; a collection as a key is an error.
  A repeated key keeps its first position and takes its last value.
* Anchors name nodes; an alias repeats the named node. A name used before it is defined is an
  error, and so is a node reached through more than a hundred times as many alias jumps as
  there are events.
* Collections nest at most 128 deep.
* A text holding a second document is refused.

Errors read like `path: message at line L column C`, where the path names the value being
read (`a.b`, `[0]`) and is left out at the top.
-/

namespace Covenant.Yaml

/-- Whether the reader accepts a character: tab, line feed, carriage return, printable ASCII,
NEL, and the printable planes outside the surrogates. -/
def isReadable (c : Char) : Bool :=
  let v := c.toNat
  v == 0x09 || v == 0x0A || v == 0x0D || (0x20 ≤ v && v ≤ 0x7E) || v == 0x85 ||
    (0xA0 ≤ v && v ≤ 0xD7FF) || (0xE000 ≤ v && v ≤ 0xFFFD) || (0x10000 ≤ v && v ≤ 0x10FFFF)

/-- The reader's complaint about the first character it refuses, with its byte offset. -/
def unreadable? (text : String) : Option Problem :=
  let rec go : List Char → Nat → Option Problem
    | [], _ => none
    | c :: rest, offset =>
      if isReadable c then go rest (offset + c.utf8Size)
      else some { problem := "control characters are not allowed", offset := offset }
  go text.toList 0

/-- A node event of a loaded document; aliases refer to anchors by number. -/
inductive Item where
  | alias (id : Nat)
  | scalar (tag : Option String) (value : String) (style : ScalarStyle)
  | sequenceStart (tag : Option String)
  | sequenceEnd
  | mappingStart (tag : Option String)
  | mappingEnd
  /-- The whole document is empty. -/
  | void
  deriving Inhabited

/-- The first document of a text: its node events with their marks, where each anchor
number points, the error that ended it early, and whether another document follows. -/
structure Loaded where
  items : Array (Item × Mark) := #[]
  targets : List (Nat × Nat) := []
  error : Option String := none
  more : Bool := false
  deriving Inhabited

/-- The position part of a message: nothing at the very start. -/
def Mark.suffix (m : Mark) : String :=
  if m.line ≠ 0 ∨ m.column ≠ 0 then " at " ++ m.render else ""

namespace Load

/-- What collecting events has gathered so far. -/
structure Gathered where
  loaded : Loaded := {}
  anchors : List (String × Nat) := []

/-- Registers an anchor on the event about to be added. A name defined again points to the
new node; the numbering counts distinct names. -/
def anchor (g : Gathered) (name : Option String) : Gathered :=
  match name with
  | none => g
  | some n =>
    let id := g.anchors.length
    let anchors := if g.anchors.any (·.1 == n) then
        g.anchors.map fun p => if p.1 == n then (n, id) else p
      else g.anchors ++ [(n, id)]
    let targets := (g.loaded.targets.filter (·.1 != id)) ++ [(id, g.loaded.items.size)]
    { anchors := anchors, loaded := { g.loaded with targets := targets } }

def add (g : Gathered) (item : Item) (m : Mark) : Gathered :=
  { g with loaded := { g.loaded with items := g.loaded.items.push (item, m) } }

/-- Collects the events of the first document, then looks one event past its end. -/
def first : Nat → Parser → Gathered → Gathered
  | 0, _, g => g
  | fuel + 1, p, g =>
    match Parser.next.run p with
    | .error e => { g with loaded := { g.loaded with error := some e.message } }
    | .ok (none, _) => g
    | .ok (some (ev, m), p) =>
      match ev with
      | .streamStart | .documentStart => first fuel p g
      | .streamEnd =>
        if g.loaded.items.isEmpty then add g .void m else g
      | .documentEnd =>
        let more := match Parser.next.run p with
          | .ok (some (.streamEnd, _), _) => false
          | .ok (none, _) => false
          | _ => true
        { g with loaded := { g.loaded with more := more } }
      | .alias name =>
        match g.anchors.find? (·.1 == name) with
        | some (_, id) => first fuel p (add g (.alias id) m)
        | none => { g with loaded := { g.loaded with error := some ("unknown anchor" ++ m.suffix) } }
      | .scalar a tag value style => first fuel p (add (anchor g a) (.scalar tag value style) m)
      | .sequenceStart a tag => first fuel p (add (anchor g a) (.sequenceStart tag) m)
      | .sequenceEnd => first fuel p (add g .sequenceEnd m)
      | .mappingStart a tag => first fuel p (add (anchor g a) (.mappingStart tag) m)
      | .mappingEnd => first fuel p (add g .mappingEnd m)

end Load

/-- Reads the first document of a text into events. -/
def Loaded.ofString (text : String) : Loaded :=
  match unreadable? text with
  | some problem => { error := some problem.message }
  | none =>
    let p := Parser.ofString text
    (Load.first (8 * (p.scanner.chars.size + 8)) p {}).loaded

/-- Where a value sits in the document being read. -/
inductive Path where
  | root
  | seq (parent : Path) (index : Nat)
  | map (parent : Path) (key : String)
  | unknown (parent : Path)

/-- The path in words: keys joined by dots, indexes in brackets right after their parent,
`?` for a key that is not a scalar, and `.` for the top. -/
def Path.render : Path → String
  | .root => "."
  | .seq parent index => parent.render ++ s!"[{index}]"
  | .map parent key => parentPrefix parent ++ key
  | .unknown parent => parentPrefix parent ++ "?"
where
  parentPrefix : Path → String
    | .root => ""
    | p => p.render ++ "."

def Path.isRoot : Path → Bool
  | .root => true
  | _ => false

/-- A message about the value at a path and mark. -/
def located (path : Path) (m : Mark) (message : String) : String :=
  (if path.isRoot then "" else path.render ++ ": ") ++ message ++ m.suffix

namespace Scalar

def isNull (s : String) : Bool := s == "null" || s == "Null" || s == "NULL" || s == "~"

def bool? (s : String) : Option Bool :=
  if s == "true" || s == "True" || s == "TRUE" then some true
  else if s == "false" || s == "False" || s == "FALSE" then some false
  else none

/-- Digits with a leading zero, after an optional sign: a string, not a number. -/
def digitsButNotNumber (s : String) : Bool :=
  let cs := match s.toList with
    | '-' :: rest | '+' :: rest => rest
    | cs => cs
  cs.length > 1 && cs.head? == some '0' && (cs.drop 1).all Char.isDigit

def digitValue (radix : Nat) (c : Char) : Option Nat :=
  let v :=
    if c.isDigit then some (c.toNat - 48)
    else if 'a' ≤ c && c ≤ 'z' then some (c.toNat - 87)
    else if 'A' ≤ c && c ≤ 'Z' then some (c.toNat - 55)
    else none
  v.bind fun d => if d < radix then some d else none

/-- Digits in a radix with an optional sign, as integer parsing reads them; `signed` allows a
minus sign. The range check is left to the caller. -/
def radixInt? (radix : Nat) (signed : Bool) (s : String) : Option Int :=
  let (neg, cs) := match s.toList with
    | '+' :: rest => (false, rest)
    | '-' :: rest => (signed, if signed then rest else '-' :: rest)
    | cs => (false, cs)
  if cs.isEmpty then none
  else
    (cs.foldlM (fun acc c => (digitValue radix c).map (acc * radix + ·)) 0).map fun n =>
      if neg then -(n : Int) else n

/-- An unsigned integer below `bound`, with an optional plus sign and radix prefix. -/
def unsigned? (bound : Nat) (s : String) : Option Nat :=
  let inRange (v : Option Int) : Option Nat :=
    v.bind fun i => if 0 ≤ i && i < bound then some i.toNat else none
  let unpositive := if s.startsWith "+" then s.drop 1 |>.toString else s
  let signed (rest : String) : Bool := rest.startsWith "+" || rest.startsWith "-"
  let prefixed (p : String) (radix : Nat) : Option (Option Nat) :=
    if unpositive.startsWith p then
      let rest := (unpositive.drop 2).toString
      if signed rest then some none
      else (inRange (radixInt? radix false rest)).map some
    else none
  match prefixed "0x" 16 with
  | some r => r
  | none =>
    match prefixed "0o" 8 with
    | some r => r
    | none =>
      match prefixed "0b" 2 with
      | some r => r
      | none =>
        if signed unpositive then none
        else if digitsButNotNumber s then none
        else inRange (radixInt? 10 false unpositive)

/-- A signed integer in `[-bound, upper)`, with a radix prefix after the minus sign. -/
def negative? (bound : Nat) (upper : Nat) (s : String) : Option Int :=
  let inRange (v : Option Int) : Option Int :=
    v.bind fun i => if -(bound : Int) ≤ i && i < upper then some i else none
  let prefixed (p : String) (radix : Nat) : Option Int :=
    if s.startsWith p then inRange (radixInt? radix true ("-" ++ (s.drop 3).toString)) else none
  match prefixed "-0x" 16 with
  | some r => some r
  | none =>
    match prefixed "-0o" 8 with
    | some r => some r
    | none =>
      match prefixed "-0b" 2 with
      | some r => some r
      | none =>
        if digitsButNotNumber s then none
        else inRange (radixInt? 10 true s)

/-- A double in the YAML spellings `.inf`, `-.inf`, `.nan`, or any float literal that is
finite. -/
def float? (s : String) : Option Float :=
  let unpositive :=
    if s.startsWith "+" then
      let rest := (s.drop 1).toString
      if rest.startsWith "+" || rest.startsWith "-" then none else some rest
    else some s
  match unpositive with
  | none => none
  | some u =>
    if u == ".inf" || u == ".Inf" || u == ".INF" then some (Binary64.infinity false)
    else if s == "-.inf" || s == "-.Inf" || s == "-.INF" then some (Binary64.infinity true)
    else if s == ".nan" || s == ".NaN" || s == ".NAN" then some (0.0 / 0.0)
    else
      match Binary64.decimalLiteral? u.toList with
      | some (neg, m, e) =>
        let f := Binary64.ofDecimal neg m e
        if Binary64.isFinite f then some f else none
      | none => none

/-- A double as a JSON value: non-finite doubles become null. -/
def floatJson (f : Float) : Json :=
  if Binary64.isFinite f then .num (.float f) else .null

def twoTo64 : Nat := Nat.pow 2 64
def twoTo63 : Nat := Nat.pow 2 63
def twoTo128 : Nat := Nat.pow 2 128
def twoTo127 : Nat := Nat.pow 2 127

/-- An integer spelling as a JSON number: 64-bit values are numbers, wider ones that fit in
128 bits are out of range, and others are not integers. -/
def int? (s : String) : Option (Except String Json) :=
  match unsigned? twoTo64 s with
  | some n => some (.ok (.num (.nat n)))
  | none =>
    match negative? twoTo63 twoTo63 s with
    | some i => some (.ok (.num (Number.ofInt i)))
    | none =>
      match unsigned? twoTo128 s with
      | some _ => some (.error "JSON number out of range")
      | none =>
        match negative? twoTo127 twoTo127 s with
        | some _ => some (.error "JSON number out of range")
        | none => none

/-- The value of a plain scalar without a tag. -/
def untagged (s : String) : Except String Json :=
  if s.isEmpty || isNull s then .ok .null
  else match bool? s with
    | some b => .ok (.bool b)
    | none =>
      match int? s with
      | some r => r
      | none =>
        if digitsButNotNumber s then .ok (.str s)
        else match float? s with
          | some f => .ok (floatJson f)
          | none => .ok (.str s)

def coreTag (name : String) : String := "tag:yaml.org,2002:" ++ name

def invalidValue (s expected : String) : String :=
  "invalid value: string " ++ Text.quoteForMessage s ++ ", expected " ++ expected

/-- The value of a scalar with its tag and style. -/
def resolve (tag : Option String) (s : String) (style : ScalarStyle) : Except String Json :=
  match tag with
  | some t =>
    if t == coreTag "bool" then
      match bool? s with
      | some b => .ok (.bool b)
      | none => .error (invalidValue s "a boolean")
    else if t == coreTag "int" then
      match int? s with
      | some r => r
      | none => .error (invalidValue s "an integer")
    else if t == coreTag "float" then
      match float? s with
      | some f => .ok (floatJson f)
      | none => .error (invalidValue s "a float")
    else if t == coreTag "null" then
      if isNull s then .ok .null else .error (invalidValue s "null")
    else if t.startsWith "!" && style == .plain then untagged s
    else .ok (.str s)
  | none => if style == .plain then untagged s else .ok (.str s)

end Scalar

/-- Whether a tag names a local type, which a JSON value cannot hold. -/
def isLocalTag : Option String → Bool
  | some t => t.startsWith "!"
  | none => false

/-- The limit on alias jumps for a document of `n` events. -/
def jumpLimit (n : Nat) : Nat := n * 100

/-- The error when the events run out: the document's own error, or the end of input. -/
def Loaded.endError (d : Loaded) : String := d.error.getD "EOF while parsing a value"

/-- Where an anchor number points. -/
def Loaded.target (d : Loaded) (id : Nat) : Nat :=
  ((d.targets.find? (·.1 == id)).map (·.2)).getD 0

mutual

/-- Reads the value whose event is at `pos`, returning it with the position after it and the
alias jumps made so far. `depth` is the nesting still allowed. -/
def readNode (d : Loaded) : Nat → Nat → Path → Nat → Nat → Except String (Json × Nat × Nat)
  | 0, _, _, _, _ => .error "recursion limit exceeded"
  | fuel + 1, pos, path, depth, jumps =>
    match d.items[pos]? with
    | none => .error d.endError
    | some (item, m) =>
      match item with
      | .alias id =>
        if jumps + 1 > jumpLimit d.items.size then .error "repetition limit exceeded"
        else do
          let (v, _, jumps) ← readNode d fuel (d.target id) path depth (jumps + 1)
          pure (v, pos + 1, jumps)
      | .scalar tag value style =>
        if isLocalTag tag then
          .error (located path m "invalid type: enum, expected any valid JSON value")
        else
          match Scalar.resolve tag value style with
          | .ok v => .ok (v, pos + 1, jumps)
          | .error e => .error (located path m e)
      | .sequenceStart tag =>
        if isLocalTag tag then
          .error (located path m "invalid type: enum, expected any valid JSON value")
        else if depth == 0 then .error ("recursion limit exceeded" ++ m.suffix)
        else do
          let (vs, pos, jumps) ← readItems d fuel (pos + 1) path (depth - 1) jumps 0 []
          pure (.arr vs, pos + 1, jumps)
      | .mappingStart tag =>
        if isLocalTag tag then
          .error (located path m "invalid type: enum, expected any valid JSON value")
        else if depth == 0 then .error ("recursion limit exceeded" ++ m.suffix)
        else do
          let (fs, pos, jumps) ← readEntries d fuel (pos + 1) path (depth - 1) jumps true []
          pure (.obj fs, pos + 1, jumps)
      | .void => .ok (.null, pos + 1, jumps)
      | .sequenceEnd | .mappingEnd => .error d.endError

/-- Reads sequence items up to the end of the sequence. -/
def readItems (d : Loaded) : Nat → Nat → Path → Nat → Nat → Nat → List Json →
    Except String (List Json × Nat × Nat)
  | 0, _, _, _, _, _, _ => .error "recursion limit exceeded"
  | fuel + 1, pos, path, depth, jumps, index, acc =>
    match d.items[pos]? with
    | none => .error d.endError
    | some (.sequenceEnd, _) | some (.void, _) => .ok (acc.reverse, pos, jumps)
    | some _ => do
      let (v, pos, jumps) ← readNode d fuel pos (.seq path index) depth jumps
      readItems d fuel pos path depth jumps (index + 1) (v :: acc)

/-- Reads a mapping key as text: a scalar's value, possibly through an alias. -/
def readKey (d : Loaded) : Nat → Nat → Path → Nat → Bool → Except String (String × Nat × Nat)
  | 0, _, _, _, _ => .error "recursion limit exceeded"
  | fuel + 1, pos, path, jumps, first =>
    let expected := if first then "a string key" else "a string"
    match d.items[pos]? with
    | none => .error d.endError
    | some (item, m) =>
      match item with
      | .scalar _ value _ => .ok (value, pos + 1, jumps)
      | .alias id =>
        if jumps + 1 > jumpLimit d.items.size then .error "repetition limit exceeded"
        else do
          let (k, _, jumps) ← readKey d fuel (d.target id) path (jumps + 1) first
          pure (k, pos + 1, jumps)
      | .sequenceStart _ =>
        .error (located path m ("invalid type: sequence, expected " ++ expected))
      | .mappingStart _ => .error (located path m ("invalid type: map, expected " ++ expected))
      | _ => .error d.endError

/-- Reads mapping entries up to the end of the mapping. -/
def readEntries (d : Loaded) : Nat → Nat → Path → Nat → Nat → Bool → List (String × Json) →
    Except String (List (String × Json) × Nat × Nat)
  | 0, _, _, _, _, _, _ => .error "recursion limit exceeded"
  | fuel + 1, pos, path, depth, jumps, first, acc =>
    match d.items[pos]? with
    | none => .error d.endError
    | some (.mappingEnd, _) | some (.void, _) => .ok (acc, pos, jumps)
    | some (item, _) => do
      let (key, pos, jumps) ← readKey d fuel pos path jumps first
      let valuePath := match item with
        | .scalar _ text _ => Path.map path text
        | _ => Path.unknown path
      let (v, pos, jumps) ← readNode d fuel pos valuePath depth jumps
      readEntries d fuel pos path depth jumps false (Json.setField acc key v)

end

/-- Reads a YAML text holding one document as a JSON value. -/
def read (text : String) : Except String Json := do
  let d := Loaded.ofString text
  let fuel := (d.items.size + 2) * 140 + 300
  let (v, _, _) ← readNode d fuel 0 .root 128 0
  match d.error with
  | some e => .error e
  | none =>
    if d.more then
      .error "deserializing from YAML containing more than one document is not supported"
    else .ok v

end Covenant.Yaml
