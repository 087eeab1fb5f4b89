import Covenant.Toml.Scalar

/-!
# TOML documents

Reading TOML text into its root table. A document is a sequence of lines: key/value pairs,
table headers `[a.b]`, array-of-table headers `[[a]]`, comments and blank lines.

Pairs go to the table of the last header. A dotted key makes the tables it passes through;
a header makes its parents. Neither may pass through a value that is not a table, and no
key or header may be given twice. Arrays and inline tables nest at most 79 deep.

`Failure.render` lays a failure out with the offending line and a caret under its span.
-/

namespace Covenant.Toml

/-! ## Values -/

def stringExpectation : String := "invalid string\nexpected `\"`, `'`"

/-- How deep arrays and inline tables may nest: the one that would be this deep is
refused. -/
def nestingLimit : Nat := 80

/-- The name of a table in messages: the document root, or its dotted path. -/
def tableName (path : List String) : String :=
  if path.isEmpty then "document root"
  else
    let dotted := ".".intercalate path
    s!"table `{dotted}`"

/-- Where pairs are added: a table of the document (named by its path), or an inline table.
They differ in what a dotted key may pass through and in how a repeated key is reported. -/
inductive Place where
  | document (table : List String)
  | inline

/-- The refusal of a key given twice. -/
def Place.duplicate (place : Place) (k : String) : String :=
  match place with
  | .document table => s!"duplicate key `{k}` in {tableName table}"
  | .inline => s!"duplicate key `{k}`"

/-- The refusal of a dotted key that passes through a value that is not a table. -/
def extendMessage (path : List String) (kind : String) : String :=
  let dotted := ".".intercalate path
  s!"dotted key `{dotted}` attempted to extend non-table type ({kind})"

/-- Adds a value under a dotted key to a table's entries, making the intermediate tables.
`seen` is the part of the key already passed. A key already present is refused, and so is
passing through a value that is not a table; in a table of the document, also through a
table opened by a header, and in an inline table, through an inline table written out. -/
def insertDotted (place : Place) (seen : List String) (entries : List (String × Span × Node)) :
    List (String × Span) → Node → Except String (List (String × Span × Node))
  | [], _ => .ok entries
  | [(k, span)], v =>
    if entries.any (·.1 == k) then .error (place.duplicate k)
    else .ok (entries ++ [(k, span, v)])
  | (k, span) :: rest, v =>
    let path := seen ++ [k]
    match entries.find? (·.1 == k) with
    | none =>
      match insertDotted place path [] rest v with
      | .ok inner => .ok (entries ++ [(k, span, .table inner none)])
      | .error e => .error e
    | some (_, _, .table inner s) =>
      match place, s with
      | .document _, some _ => .error s!"duplicate key `{k}`"
      | _, _ =>
        match insertDotted place path inner rest v with
        | .ok inner' =>
          .ok (entries.map fun e => if e.1 == k then (k, e.2.1, .table inner' s) else e)
        | .error e => .error e
    | some (_, _, other) =>
      match place, other with
      | .inline, .inline .. => .error s!"duplicate key `{k}`"
      | _, _ => .error (extendMessage path other.kindName)

/-- The failure where an inline table's closing brace is expected. -/
def inlineCloseExpected : String := "invalid inline table\nexpected `\x7d`"

mutual

/-- One value starting at `pos`, inside `depth` arrays and inline tables. `fuel` bounds the
steps of reading; each one reads at least a character. -/
def value (t : Text) : Nat → Nat → Nat → Read Node
  | 0, _, pos => failAt t pos "recursion limit exceeded"
  | fuel + 1, depth, pos =>
    match t[pos]? with
    | none => missAt t pos ""
    | some '"' =>
      let r := if wordAt t "\"\"\"" pos then multilineString t '"' pos else basicString t pos
      r.map fun (s, j) => (.string s ⟨pos, j⟩, j)
    | some '\'' =>
      let r := if wordAt t "'''" pos then multilineString t '\'' pos else literalString t pos
      r.map fun (s, j) => (.string s ⟨pos, j⟩, j)
    | some '[' =>
      if depth + 1 ≥ nestingLimit then failAt t pos "recursion limit exceeded"
      else array t fuel (depth + 1) (pos + 1) pos []
    | some '\x7b' =>
      if depth + 1 ≥ nestingLimit then failAt t pos "recursion limit exceeded"
      else inlineTable t fuel (depth + 1) pos
    | some 't' =>
      if wordAt t "true" pos then .ok (.boolean true ⟨pos, pos + 4⟩, pos + 4)
      else missAt t pos stringExpectation
    | some 'f' =>
      if wordAt t "false" pos then .ok (.boolean false ⟨pos, pos + 5⟩, pos + 5)
      else missAt t pos stringExpectation
    | some 'i' | some 'n' =>
      match float? t pos with
      | some r => r
      | none => missAt t pos stringExpectation
    | some '_' => missAt t pos "invalid integer\nexpected leading digit"
    | some '.' => missAt t pos "invalid floating-point number\nexpected leading digit"
    | some c =>
      if c == '+' || c == '-' || isDigit c then
        match dateTime? t pos with
        | some r => r
        | none =>
          match float? t pos with
          | some r => r
          | none =>
            match integer? t pos with
            | some r => r
            | none => missAt t (signAt t pos).2 "invalid integer"
      else missAt t pos stringExpectation
termination_by structural fuel => fuel

/-- Array items after the opening bracket at `opening`; `pos` is past what was read. Where
an item does not start, the closing bracket is expected. -/
def array (t : Text) : Nat → Nat → Nat → Nat → List Node → Read Node
  | 0, _, pos, _, _ => failAt t pos "recursion limit exceeded"
  | fuel + 1, depth, pos, opening, acc =>
    let p := skipBlankLines t pos
    if t[p]? == some ']' then .ok (.array acc.reverse ⟨opening, p + 1⟩, p + 1)
    else
      match value t fuel depth p with
      | .error e =>
        if e.recoverable then failAt t p "invalid array\nexpected `]`" else .error e
      | .ok (item, q) =>
        let r := skipBlankLines t q
        match t[r]? with
        | some ',' => array t fuel depth (r + 1) opening (item :: acc)
        | some ']' => .ok (.array (item :: acc).reverse ⟨opening, r + 1⟩, r + 1)
        | _ => failAt t r "invalid array\nexpected `]`"
termination_by structural fuel => fuel

/-- An inline table whose opening brace is at `pos`. Where a pair does not start, the
closing brace is expected: after a comma, at the comma. -/
def inlineTable (t : Text) : Nat → Nat → Nat → Read Node
  | 0, _, pos => failAt t pos "recursion limit exceeded"
  | fuel + 1, depth, pos =>
    let first := skipWs t (pos + 1)
    if t[first]? == some '\x7d' then .ok (.inline [] ⟨pos, first + 1⟩, first + 1)
    else if !(t[first]?.map isKeyStart).getD false then failAt t first inlineCloseExpected
    else inlineMembers t fuel depth pos first []
termination_by structural fuel => fuel

/-- The pairs of an inline table whose opening brace is at `opening`, from `pos`. -/
def inlineMembers (t : Text) : Nat → Nat → Nat → Nat → List (String × Span × Node) → Read Node
  | 0, _, _, pos, _ => failAt t pos inlineCloseExpected
  | fuel + 1, depth, opening, pos, acc =>
    match dottedKey t pos with
    | .error e => .error e
    | .ok (keys, j) =>
      if t[j]? != some '=' then failAt t j "expected `.`, `=`"
      else
        match value t fuel depth (skipWs t (j + 1)) with
        | .error e => .error { e with recoverable := false }
        | .ok (v, k) =>
          match insertDotted .inline [] acc keys v with
          | .error m => failAt t (opening + 1) m
          | .ok acc =>
            let k := skipWs t k
            match t[k]? with
            | some ',' =>
              let next := skipWs t (k + 1)
              if (t[next]?.map isKeyStart).getD false then
                inlineMembers t fuel depth opening (k + 1) acc
              else failAt t k inlineCloseExpected
            | some '\x7d' => .ok (.inline acc ⟨opening, k + 1⟩, k + 1)
            | _ => failAt t k inlineCloseExpected
termination_by structural fuel => fuel

end

/-! ## Documents -/

/-- Applies `f` to the entries of the table at `path`, making missing tables on the way; a
path through an array goes into its last table. `seen` is the part of the path already
passed. -/
def updateAt (f : List (String × Span × Node) → Except String (List (String × Span × Node))) :
    List String → List (String × Span × Node) → List (String × Span) →
    Except String (List (String × Span × Node))
  | _, entries, [] => f entries
  | seen, entries, (k, span) :: rest =>
    let path := seen ++ [k]
    match entries.find? (·.1 == k) with
    | none =>
      match updateAt f path [] rest with
      | .ok inner => .ok (entries ++ [(k, span, .table inner none)])
      | .error e => .error e
    | some (_, _, .table inner s) =>
      match updateAt f path inner rest with
      | .ok inner' => .ok (entries.map fun e => if e.1 == k then (k, e.2.1, .table inner' s) else e)
      | .error e => .error e
    | some (_, _, .array items s) =>
      match items.getLast? with
      | some (.table inner ts) =>
        match updateAt f path inner rest with
        | .ok inner' =>
          .ok (entries.map fun e =>
            if e.1 == k then (k, e.2.1, .array (items.dropLast ++ [.table inner' ts]) s) else e)
        | .error e => .error e
      | _ => .error (extendMessage path "array")
    | some (_, _, other) => .error (extendMessage path other.kindName)

/-- What is being built: the root entries, the table pairs go to, the headers seen, and the
arrays made of array-table headers. -/
structure Builder where
  root : List (String × Span × Node) := []
  current : List (String × Span) := []
  headers : List (List String) := []
  tableArrays : List (List String) := []

/-- The value at a key path of the root, if any. -/
def lookupPath (entries : List (String × Span × Node)) : List String → Option Node
  | [] => none
  | [k] => (entries.find? (·.1 == k)).map (·.2.2)
  | k :: rest =>
    let found : Option Node := (entries.find? (·.1 == k)).map (·.2.2)
    match found with
    | some (.table inner _) => lookupPath inner rest
    | some (.array items _) =>
      match items.getLast? with
      | some (.table inner _) => lookupPath inner rest
      | _ => none
    | _ => none

/-- Opens a table header `[path]` spanning `span`. -/
def Builder.header (b : Builder) (path : List (String × Span)) (span : Span) :
    Except String Builder :=
  let names := path.map (·.1)
  let parent := path.dropLast
  match path.getLast? with
  | none => .error "invalid key"
  | some (k, _) =>
    let dup := s!"invalid table header\nduplicate key `{k}` in {tableName (parent.map (·.1))}"
    if b.headers.contains names then .error dup
    else
      match lookupPath b.root names with
      | some (.table _ _) =>
        match updateAt (fun es => .ok (es.map fun (e : String × Span × Node) =>
            match e with
            | (n, ks, .table inner _) => if n == k then (n, ks, .table inner (some span)) else e
            | _ => e)) [] b.root parent with
        | .ok root => .ok { b with root := root, current := path, headers := names :: b.headers }
        | .error e => .error ("invalid table header\n" ++ e)
      | some _ => .error dup
      | none =>
        match updateAt (fun es => .ok (es ++ [(k, (path.getLast?.map (·.2)).getD span,
            .table [] (some span))])) [] b.root parent with
        | .ok root => .ok { b with root := root, current := path, headers := names :: b.headers }
        | .error e => .error ("invalid table header\n" ++ e)

/-- Opens an array-table header `[[path]]` spanning `span`: a new table at the end of the
array at `path`. -/
def Builder.arrayHeader (b : Builder) (path : List (String × Span)) (span : Span) :
    Except String Builder :=
  let names := path.map (·.1)
  let parent := path.dropLast
  match path.getLast? with
  | none => .error "invalid key"
  | some (k, ks) =>
    let dup := s!"invalid table header\nduplicate key `{k}` in {tableName (parent.map (·.1))}"
    let fresh := Node.table [] (some span)
    match lookupPath b.root names with
    | some (.array items s) =>
      if b.tableArrays.contains names then
        match updateAt (fun es => .ok (es.map fun e =>
            if e.1 == k then (k, e.2.1, .array (items ++ [fresh]) s) else e)) [] b.root parent with
        | .ok root => .ok { b with root := root, current := path }
        | .error e => .error ("invalid table header\n" ++ e)
      else .error dup
    | some _ => .error dup
    | none =>
      match updateAt (fun es => .ok (es ++ [(k, ks, .array [fresh] span)])) [] b.root parent with
      | .ok root =>
        .ok { b with root := root, current := path, tableArrays := names :: b.tableArrays }
      | .error e => .error ("invalid table header\n" ++ e)

/-- Adds a key/value pair to the current table. -/
def Builder.pair (b : Builder) (keys : List (String × Span)) (v : Node) : Except String Builder :=
  let here := b.current.map (·.1)
  match updateAt (fun es => insertDotted (.document here) [] es keys v) [] b.root b.current with
  | .ok root => .ok { b with root := root }
  | .error e => .error e

/-- Reads a table header at `pos` (its opening bracket). -/
def readHeader (t : Text) (b : Builder) (pos : Nat) : Except Failure (Builder × Nat) :=
  let arrayTable := t[pos + 1]? == some '['
  let keyStart := if arrayTable then pos + 2 else pos + 1
  match dottedKey t keyStart with
  | .error e => .error e
  | .ok (path, j) =>
    let closed := if arrayTable then wordAt t "]]" j else t[j]? == some ']'
    if !closed then
      let closing := if arrayTable then "`]]`" else "`]`"
      failAt t j s!"invalid table header\nexpected `.`, {closing}"
    else
      let stop := if arrayTable then j + 2 else j + 1
      let span : Span := ⟨pos, stop⟩
      let r := if arrayTable then b.arrayHeader path span else b.header path span
      match r with
      | .error m => failAt t pos m
      | .ok b =>
        match lineTrailing t stop "invalid table header\n" with
        | .ok q => .ok (b, q)
        | .error e => .error e

/-- Reads a key/value line at `pos`. -/
def readPair (t : Text) (b : Builder) (pos : Nat) : Except Failure (Builder × Nat) :=
  match dottedKey t pos with
  | .error e => .error e
  | .ok (keys, j) =>
    if t[j]? != some '=' then failAt t j "expected `.`, `=`"
    else
      match value t (2 * t.size + 4) 0 (skipWs t (j + 1)) with
      | .error e => .error { e with recoverable := false }
      | .ok (v, k) =>
        match lineTrailing t k "" with
        | .error e => .error e
        | .ok q =>
          match b.pair keys v with
          | .ok b => .ok (b, q)
          | .error m => failAt t pos m

/-- Reads a whole document into its root table. -/
def read (text : String) : Except Failure Node :=
  let t : Text := text.toList.toArray
  let start := if t[0]? == some '﻿' then 1 else 0
  let rec go : Nat → Builder → Nat → Except Failure Builder
    | 0, b, _ => .ok b
    | fuel + 1, b, pos =>
      let p := skipWs t pos
      match t[p]? with
      | none => .ok b
      | some '#' =>
        let q := skipComment t p
        match lineBreak? t q with
        | some r => go fuel b r
        | none => if q ≥ t.size then .ok b else failAt t q ""
      | some '\n' => go fuel b (p + 1)
      | some '\r' =>
        match lineBreak? t p with
        | some r => go fuel b r
        | none => failAt t p ""
      | some '[' =>
        match readHeader t b p with
        | .ok (b, q) => go fuel b q
        | .error e => .error e
      | some _ =>
        match readPair t b p with
        | .ok (b, q) => go fuel b q
        | .error e => .error e
  (go (t.size + 1) {} start).map fun b => .table b.root none

/-! ## Messages -/

/-- The number of bytes the characters before a position take in UTF-8. -/
def byteOffset (t : Text) (pos : Nat) : Nat :=
  (t.toList.take pos).foldl (fun acc c => acc + c.utf8Size) 0

/-- Whether a byte continues a character begun by an earlier byte. -/
def isContinuation (b : UInt8) : Bool := b &&& 0xC0 == 0x80

/-- Line (from 0) and column (from 0) of a byte position in a text, as messages place them.
A position past the end is placed on the last byte and as many columns further. The column
counts characters when the line up to and including the byte ends on a character boundary,
and bytes when the byte starts or sits inside a longer character. -/
def lineColumn (bytes : Array UInt8) (index : Nat) : Nat × Nat :=
  if bytes.size == 0 then (0, index)
  else
    let safe := min index (bytes.size - 1)
    let extra := index - safe
    let lineStart := match (List.range safe).reverse.find? (fun i => bytes.getD i 0 == 10) with
      | some i => i + 1
      | none => 0
    let line := ((List.range lineStart).filter fun i => bytes.getD i 0 == 10).length
    let boundary := safe + 1 == bytes.size || !isContinuation (bytes.getD (safe + 1) 0)
    let column :=
      if boundary then
        ((List.range (safe + 1 - lineStart)).filter fun j =>
          !isContinuation (bytes.getD (lineStart + j) 0)).length - 1
      else safe - lineStart
    (line, column + extra)

/-- A failure laid out for a reader: the position, the line with carets under the span (one
per byte, at least one, not past the end of the line), and the message. -/
def Failure.render (f : Failure) (text : String) : String :=
  match f.span with
  | none => f.message ++ "\n"
  | some span =>
    let t : Text := text.toList.toArray
    let start := byteOffset t span.start
    let stop := byteOffset t span.stop
    let (line, column) := lineColumn text.toUTF8.data start
    let lineNum := line + 1
    let colNum := column + 1
    let gutter := (toString lineNum).length
    let content := ((text.splitOn "\n")[line]?).getD ""
    let width := min (stop - start) (content.utf8ByteSize - column)
    let pad := String.ofList (List.replicate (gutter + 1) ' ')
    let carets := String.ofList (List.replicate (max width 1) '^')
    let under := String.ofList (List.replicate (column + 1) ' ')
    s!"TOML parse error at line {lineNum}, column {colNum}\n{pad}|\n{lineNum} | {content}\n{pad}|{under}{carets}\n" ++
      f.message ++ "\n"

end Covenant.Toml
