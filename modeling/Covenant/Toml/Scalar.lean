import Covenant.Binary64.Parse
import Covenant.Toml.Basic

/-!
# TOML scalars and keys

Strings (basic, literal, and their multi-line forms), keys (bare, quoted, dotted), numbers
and date-times, each read from a position of the text.

Numbers and date-times are tried in turn at a value that starts with a sign or a digit: a
date-time, a float, an integer. Each attempt either does not apply (the text does not start
that way) or commits, after which a malformed piece is refused at the first character that
does not fit:

* a date commits after four digits and a dash; its month, day, and a time's minute and
  second, must be two digits within range;
* a float needs a fraction or an exponent after its integer part, and digits after the point
  or the exponent mark; it may not round to positive infinity;
* an integer is decimal (no leading zero), or hexadecimal, octal or binary after `0x`, `0o`,
  `0b`; it must fit in 64 signed bits;
* in every run of digits an underscore stands between two digits.
-/

namespace Covenant.Toml

/-! ## Strings -/

def hexDigitValue (c : Char) : Option Nat :=
  if '0' ≤ c && c ≤ '9' then some (c.toNat - 48)
  else if 'a' ≤ c && c ≤ 'f' then some (c.toNat - 87)
  else if 'A' ≤ c && c ≤ 'F' then some (c.toNat - 55)
  else none

/-- The character of a `\u` or `\U` escape with `n` hex digits starting at `pos`. -/
def hexEscape (t : Text) (n : Nat) (pos : Nat) : Read Char :=
  let digits := (List.range n).map fun i => t[pos + i]?.bind hexDigitValue
  let label := if n == 4 then "invalid unicode 4-digit hex code" else "invalid unicode 8-digit hex code"
  if digits.all Option.isSome then
    let v := digits.foldl (fun acc d => acc * 16 + d.getD 0) 0
    if v < 0xD800 || (0xDFFF < v && v ≤ 0x10FFFF) then .ok (Char.ofNat v, pos + n)
    else failAt t pos (label ++ "\nvalue is out of range")
  else failAt t pos label

def escapeExpectation : String :=
  "invalid escape sequence\nexpected `b`, `f`, `n`, `r`, `t`, `u`, `U`, `\\`, `\"`"

/-- The character an escape stands for, the backslash at `pos`. -/
def escape (t : Text) (pos : Nat) : Read Char :=
  match t[pos + 1]? with
  | some 'b' => .ok (Char.ofNat 8, pos + 2)
  | some 'f' => .ok (Char.ofNat 12, pos + 2)
  | some 'n' => .ok ('\n', pos + 2)
  | some 'r' => .ok ('\r', pos + 2)
  | some 't' => .ok ('\t', pos + 2)
  | some 'u' => hexEscape t 4 (pos + 2)
  | some 'U' => hexEscape t 8 (pos + 2)
  | some '\\' => .ok ('\\', pos + 2)
  | some '"' => .ok ('"', pos + 2)
  | _ => failAt t (pos + 2) escapeExpectation

/-- Whether a character may stand unescaped in a basic string. -/
def isBasicChar (c : Char) : Bool :=
  c == '\t' || (' ' ≤ c && c != '"' && c != '\\' && c.toNat != 0x7F)

/-- A basic string, its opening quote at `pos`. -/
def basicString (t : Text) (pos : Nat) : Read String :=
  let rec go : Nat → Nat → List Char → Read String
    | 0, i, _ => failAt t i "invalid basic string"
    | fuel + 1, i, acc =>
      match t[i]? with
      | some '"' => .ok (String.ofList acc.reverse, i + 1)
      | some '\\' =>
        match escape t i with
        | .ok (c, j) => go fuel j (c :: acc)
        | .error e => .error e
      | some c => if isBasicChar c then go fuel (i + 1) (c :: acc)
        else failAt t i "invalid basic string"
      | none => failAt t i "invalid basic string"
  go (t.size + 1) (pos + 1) []

/-- A literal string, its opening quote at `pos`. -/
def literalString (t : Text) (pos : Nat) : Read String :=
  let stop := skipWhile t (fun c => isNonEol c && c != '\'') (pos + 1)
  if t[stop]? == some '\'' then .ok (String.ofList ((t.extract (pos + 1) stop).toList), stop + 1)
  else failAt t stop "invalid literal string"

/-- The number of `q` characters in a row from `pos`. -/
def runOf (t : Text) (q : Char) (pos : Nat) : Nat := skipWhile t (· == q) pos - pos

/-- A multi-line string whose three opening quotes `q` start at `pos`. Basic ones take
escapes and line-ending backslashes; a line break right after the opening is dropped. -/
def multilineString (t : Text) (q : Char) (pos : Nat) : Read String :=
  let basic := q == '"'
  let label := if basic then "invalid multiline basic string\nexpected `\"\"\"`"
    else "invalid multiline literal string\nexpected `'''`"
  let start := (lineBreak? t (pos + 3)).getD (pos + 3)
  let rec go : Nat → Nat → List Char → Read String
    | 0, i, _ => failAt t i label
    | fuel + 1, i, acc =>
      match t[i]? with
      | none => failAt t i label
      | some c =>
        if c == q then
          let n := runOf t q i
          if n ≥ 3 then
            let extra := min (n - 3) 2
            .ok (String.ofList (acc.reverse ++ List.replicate extra q), i + 3 + extra)
          else go fuel (i + n) (List.replicate n q ++ acc)
        else if c == '\\' && basic then
          let j := skipWs t (i + 1)
          match lineBreak? t j with
          | some _ =>
            let k := skipWhile t (fun d => isWs d || d == '\n' || d == '\r') j
            go fuel k acc
          | none =>
            match escape t i with
            | .ok (e, k) => go fuel k (e :: acc)
            | .error e => .error e
        else
          match lineBreak? t i with
          | some j => go fuel j ('\n' :: acc)
          | none =>
            if c == '\t' || (' ' ≤ c && c.toNat != 0x7F) then go fuel (i + 1) (c :: acc)
            else failAt t i label
  go (t.size + 1) start []

/-! ## Keys -/

/-- One key part: bare, basic-quoted or literal-quoted. -/
def simpleKey (t : Text) (pos : Nat) : Read (String × Span) :=
  match t[pos]? with
  | some '"' =>
    match basicString t pos with
    | .ok (s, j) => .ok ((s, ⟨pos, j⟩), j)
    | .error e => .error e
  | some '\'' =>
    match literalString t pos with
    | .ok (s, j) => .ok ((s, ⟨pos, j⟩), j)
    | .error e => .error e
  | _ =>
    let stop := skipWhile t isBareKeyChar pos
    if stop == pos then failAt t pos "invalid key"
    else .ok ((String.ofList (t.extract pos stop).toList, ⟨pos, stop⟩), stop)

/-- A dotted key: its parts with their spans, blanks around each part consumed. A dot not
followed by a key part is left unread, for the caller to refuse. -/
def dottedKey (t : Text) (pos : Nat) : Read (List (String × Span)) :=
  let rec go : Nat → Nat → List (String × Span) → Read (List (String × Span))
    | 0, i, _ => failAt t i "invalid key"
    | fuel + 1, i, acc =>
      match simpleKey t (skipWs t i) with
      | .error e => .error e
      | .ok (part, j) =>
        let k := skipWs t j
        let next := skipWs t (k + 1)
        if t[k]? == some '.' && (t[next]?.map isKeyStart).getD false then
          go fuel (k + 1) (part :: acc)
        else .ok ((part :: acc).reverse, k)
  go (t.size + 1) pos []

/-! ## Numbers and dates -/

/-- Digits accepted by `ok` from `pos`, the first already known to be one, with single
underscores between them; an underscore not followed by a digit is refused with
`underscore`. -/
def digitRun (t : Text) (ok : Char → Bool) (underscore : String) (pos : Nat) :
    Except Failure (List Char × Nat) :=
  let rec go : Nat → Nat → List Char → Except Failure (List Char × Nat)
    | 0, i, acc => .ok (acc.reverse, i)
    | fuel + 1, i, acc =>
      match t[i]? with
      | some c =>
        if ok c then go fuel (i + 1) (c :: acc)
        else if c == '_' then
          if (t[i + 1]?.map ok).getD false then go fuel (i + 1) acc
          else failAt t (i + 1) underscore
        else .ok (acc.reverse, i)
      | none => .ok (acc.reverse, i)
  go (t.size + 1) pos []

/-- The position after an optional sign at `pos`, and whether the sign is a minus. -/
def signAt (t : Text) (pos : Nat) : Bool × Nat :=
  match t[pos]? with
  | some '+' => (false, pos + 1)
  | some '-' => (true, pos + 1)
  | _ => (false, pos)

/-- The integer part of a decimal number at `pos`: a sign, then `0` alone or digits not
starting with `0`. `none` when no digit follows the sign. -/
def decimalPart (t : Text) (pos : Nat) : Option (Except Failure (Bool × List Char × Nat)) :=
  let (neg, p) := signAt t pos
  match t[p]? with
  | some '0' => some (.ok (neg, ['0'], p + 1))
  | some c =>
    if isDigit c then
      some ((digitRun t isDigit "invalid integer\nexpected digit" p).map fun (ds, j) => (neg, ds, j))
    else none
  | none => none

/-- The value of digits in a base. -/
def digitsValue (base : Nat) (ds : List Char) : Nat :=
  ds.foldl (fun acc c => acc * base + (hexDigitValue c).getD 0) 0

/-- What a float is called in messages. -/
def floatLabel : String := "invalid floating-point number"

/-- The digits of an exponent at `pos` (after its mark), with their sign. -/
def exponentAt (t : Text) (pos : Nat) : Except Failure (List Char × Nat) :=
  let (neg, p) := signAt t pos
  if (t[p]?.map isDigit).getD false then
    (digitRun t isDigit (floatLabel ++ "\nexpected digit") p).map fun (ds, j) =>
      ((if neg then ['-'] else []) ++ ds, j)
  else failAt t p floatLabel

/-- A float at `pos`: signed `inf` or `nan`, or an integer part followed by an exponent, or
by a fraction and perhaps an exponent. -/
def float? (t : Text) (pos : Nat) : Option (Read Node) :=
  let (neg, p) := signAt t pos
  let infinity := Binary64.infinity false
  if wordAt t "inf" p then
    some (.ok (.float (if neg then -infinity else infinity) ⟨pos, p + 3⟩, p + 3))
  else if wordAt t "nan" p then
    some (.ok (.float (infinity - infinity) ⟨pos, p + 3⟩, p + 3))
  else
    match decimalPart t pos with
    | none => none
    | some (.error e) => some (.error e)
    | some (.ok (_, whole, q)) =>
      let finish (fraction exponent : List Char) (stop : Nat) : Read Node :=
        let literal := whole ++ (if fraction.isEmpty then [] else '.' :: fraction) ++
          (if exponent.isEmpty then [] else 'e' :: exponent)
        match Binary64.ofString? (String.ofList literal) with
        | some f =>
          if !neg && f == infinity then failAt t pos floatLabel
          else .ok (.float (if neg then -f else f) ⟨pos, stop⟩, stop)
        | none => failAt t pos floatLabel
      let exponentThen (fraction : List Char) (at_ : Nat) : Read Node :=
        if t[at_]? == some 'e' || t[at_]? == some 'E' then
          match exponentAt t (at_ + 1) with
          | .ok (ds, stop) => finish fraction ds stop
          | .error e => .error e
        else finish fraction [] at_
      if t[q]? == some 'e' || t[q]? == some 'E' then some (exponentThen [] q)
      else if t[q]? == some '.' then
        if (t[q + 1]?.map isDigit).getD false then
          match digitRun t isDigit (floatLabel ++ "\nexpected digit, digit") (q + 1) with
          | .ok (ds, r) => some (exponentThen ds r)
          | .error e => some (.error e)
        else some (failAt t (q + 1) (floatLabel ++ "\nexpected digit"))
      else none

/-- The refusal of an integer beyond 64 signed bits. -/
def rangeCheck (t : Text) (pos : Nat) (v : Int) (stop : Nat) : Read Node :=
  let limit : Int := Int.pow 2 63
  if v ≥ limit then failAt t pos "number too large to fit in target type"
  else if v < -limit then failAt t pos "number too small to fit in target type"
  else .ok (.integer v ⟨pos, stop⟩, stop)

/-- An integer at `pos`: signed decimal, or `0x`, `0o`, `0b` with digits. -/
def integer? (t : Text) (pos : Nat) : Option (Read Node) :=
  let prefixed (base : Nat) (ok : Char → Bool) (name : String) : Read Node :=
    let label := s!"invalid {name} integer"
    if (t[pos + 2]?.map ok).getD false then
      match digitRun t ok (label ++ "\nexpected digit") (pos + 2) with
      | .ok (ds, j) => rangeCheck t pos (digitsValue base ds) j
      | .error e => .error e
    else failAt t (pos + 2) label
  match t[pos]?, t[pos + 1]? with
  | some '0', some 'x' => some (prefixed 16 (fun c => (hexDigitValue c).isSome) "hexadecimal")
  | some '0', some 'o' => some (prefixed 8 (fun c => '0' ≤ c && c ≤ '7') "octal")
  | some '0', some 'b' => some (prefixed 2 (fun c => c == '0' || c == '1') "binary")
  | _, _ =>
    match decimalPart t pos with
    | none => none
    | some (.error e) => some (.error e)
    | some (.ok (neg, ds, j)) =>
      let v : Int := digitsValue 10 ds
      some (rangeCheck t pos (if neg then -v else v) j)

/-- Exactly `n` digits at `pos`. -/
def fixedDigits (t : Text) (n : Nat) (pos : Nat) : Bool :=
  (List.range n).all fun i => (t[pos + i]?.map isDigit).getD false

/-- The value of two digits at `pos`, if both are digits. -/
def twoDigits (t : Text) (pos : Nat) : Option Nat :=
  if fixedDigits t 2 pos then some (digitsValue 10 [t[pos]?.getD '0', t[pos + 1]?.getD '0'])
  else none

/-- A two-digit field of a date or time at `pos`, within `[lo, hi]`; `label` names what is
being read when it is not. -/
def field (t : Text) (label : String) (lo hi : Nat) (pos : Nat) : Except Failure Nat :=
  match twoDigits t pos with
  | none => failAt t pos label
  | some v => if lo ≤ v && v ≤ hi then .ok v else failAt t pos (label ++ "\nvalue is out of range")

/-- What a date-time is called in messages. -/
def dateLabel : String := "invalid date-time"

/-- A character that a date or time must have at `pos`. -/
def expectChar (t : Text) (label : String) (c : Char) (pos : Nat) : Except Failure Unit :=
  if t[pos]? == some c then .ok () else failAt t pos label

/-- The days of a month. -/
def daysInMonth (year month : Nat) : Nat :=
  let leap := year % 4 == 0 && (year % 100 != 0 || year % 400 == 0)
  match month with
  | 2 => if leap then 29 else 28
  | 4 | 6 | 9 | 11 => 30
  | _ => 31

/-- A time at `pos`, once an hour in range and a colon start there: minutes, seconds, and
perhaps a fraction of a second. `none` when no such hour starts there. -/
def time? (t : Text) (pos : Nat) : Option (Except Failure Nat) :=
  match twoDigits t pos with
  | some h =>
    if h ≤ 23 && t[pos + 2]? == some ':' then
      some (do
        let _ ← field t dateLabel 0 59 (pos + 3)
        expectChar t dateLabel ':' (pos + 5)
        let _ ← field t dateLabel 0 60 (pos + 6)
        let j := pos + 8
        if t[j]? == some '.' && (t[j + 1]?.map isDigit).getD false then
          pure (skipWhile t isDigit (j + 1))
        else pure j)
    else none
  | none => none

/-- An offset at `pos` after a time: `Z`, or a signed hour and minute; nothing otherwise. -/
def offsetAt (t : Text) (pos : Nat) : Except Failure Nat :=
  let label := "invalid time offset"
  match t[pos]? with
  | some 'Z' | some 'z' => .ok (pos + 1)
  | some '+' | some '-' => do
    let _ ← field t label 0 23 (pos + 1)
    expectChar t label ':' (pos + 3)
    let _ ← field t label 0 59 (pos + 4)
    pure (pos + 6)
  | _ => .ok pos

/-- A date-time, local date or local time at `pos`, kept as text. -/
def dateTime? (t : Text) (pos : Nat) : Option (Read Node) :=
  let node (stop : Nat) : Node := .datetime (String.ofList (t.extract pos stop).toList) ⟨pos, stop⟩
  if fixedDigits t 4 pos && t[pos + 4]? == some '-' then
    let date : Except Failure (Node × Nat) := do
      let month ← field t dateLabel 1 12 (pos + 5)
      expectChar t dateLabel '-' (pos + 7)
      let day ← field t dateLabel 1 31 (pos + 8)
      let year := digitsValue 10 ((List.range 4).map fun i => t[pos + i]?.getD '0')
      if daysInMonth year month < day then failAt t (pos + 8) (dateLabel ++ "\nvalue is out of range")
      else
        let d := pos + 10
        let sep := t[d]?
        if sep == some 'T' || sep == some 't' || sep == some ' ' then
          match time? t (d + 1) with
          | some r =>
            let j ← r
            let k ← offsetAt t j
            pure (node k, k)
          | none => pure (node d, d)
        else pure (node d, d)
    some date
  else (time? t pos).map fun r => r.map fun j => (node j, j)

end Covenant.Toml
