import Covenant.Json.Value
import Covenant.Binary64.Round

/-!
# Reading JSON text

A reader over UTF-8 bytes that builds a `Json` value or stops at the first fault. A fault
carries its kind and a byte index; its position is the line of that index and the number of
bytes since the line began. Containers may nest 127 deep. An integer literal is kept exact
while it fits its kind; every other number becomes the double `s ⊗ 10^e` computed as the
nearest double to the significand `s` (at most 19 digits are kept) scaled by one rounded power
of ten at a time.
-/

namespace Covenant.Json

/-- What went wrong while reading JSON text. -/
inductive Fault where
  | eofList
  | eofObject
  | eofString
  | eofValue
  | expectedColon
  | expectedListCommaOrEnd
  | expectedObjectCommaOrEnd
  | expectedIdent
  | expectedValue
  | invalidEscape
  | invalidNumber
  | numberOutOfRange
  | invalidCodePoint
  | controlCharacter
  | keyMustBeString
  | loneLeadingSurrogate
  | trailingComma
  | trailingCharacters
  | unexpectedEndOfHexEscape
  | recursionLimit
  /-- A fault found by a decoder on top of the reader, with its own wording. -/
  | custom (message : String)
  deriving BEq, Repr

/-- The wording of each fault. -/
def Fault.text : Fault → String
  | .eofList => "EOF while parsing a list"
  | .eofObject => "EOF while parsing an object"
  | .eofString => "EOF while parsing a string"
  | .eofValue => "EOF while parsing a value"
  | .expectedColon => "expected `:`"
  | .expectedListCommaOrEnd => "expected `,` or `]`"
  | .expectedObjectCommaOrEnd => "expected `,` or `\x7d`"
  | .expectedIdent => "expected ident"
  | .expectedValue => "expected value"
  | .invalidEscape => "invalid escape"
  | .invalidNumber => "invalid number"
  | .numberOutOfRange => "number out of range"
  | .invalidCodePoint => "invalid unicode code point"
  | .controlCharacter => "control character (\\u0000-\\u001F) found while parsing a string"
  | .keyMustBeString => "key must be a string"
  | .loneLeadingSurrogate => "lone leading surrogate in hex escape"
  | .trailingComma => "trailing comma"
  | .trailingCharacters => "trailing characters"
  | .unexpectedEndOfHexEscape => "unexpected end of hex escape"
  | .recursionLimit => "recursion limit exceeded"
  | .custom message => message

/-- A fault at a byte index of the input. -/
structure Stop where
  fault : Fault
  index : Nat

/-- Line (from 1) and column (bytes since the line began) of a byte index. -/
def lineColumn (input : List UInt8) (index : Nat) : Nat × Nat :=
  let before := input.take index
  let lineStart := before.length - (before.reverse.takeWhile (· != 10)).length
  (1 + (before.take lineStart).count 10, index - lineStart)

/-- A reading fault with its position. -/
structure ReadError where
  fault : Fault
  line : Nat
  column : Nat

/-- The message of a reading fault: its wording and position. -/
def ReadError.message (e : ReadError) : String :=
  if e.line = 0 then e.fault.text
  else s!"{e.fault.text} at line {e.line} column {e.column}"

/-- The position of a stop in an input. -/
def Stop.locate (input : List UInt8) (s : Stop) : ReadError :=
  let (line, column) := lineColumn input s.index
  ⟨s.fault, line, column⟩

/-- The unread bytes and the index of the first of them. -/
structure Cursor where
  rest : List UInt8
  index : Nat

namespace Cursor

def peek (c : Cursor) : Option UInt8 := c.rest.head?

def bump (c : Cursor) : Cursor := ⟨c.rest.drop 1, c.index + 1⟩

/-- A fault positioned at the current index. -/
def stop (c : Cursor) (f : Fault) : Stop := ⟨f, c.index⟩

/-- A fault positioned one past the current index, or at the end of input. -/
def stopAhead (c : Cursor) (f : Fault) : Stop :=
  ⟨f, if c.rest.isEmpty then c.index else c.index + 1⟩

/-- Skips spaces, tabs, line feeds and carriage returns. -/
def skipBlank (c : Cursor) : Cursor :=
  let n := (c.rest.takeWhile (fun b => b == 32 || b == 10 || b == 9 || b == 13)).length
  ⟨c.rest.drop n, c.index + n⟩

end Cursor

/-- The result of one reading step: a value and the cursor after it, or a stop. -/
abbrev Step (α : Type) := Except Stop (α × Cursor)

def isDigit (b : UInt8) : Bool := 48 ≤ b && b ≤ 57

def hexValue (b : UInt8) : Option Nat :=
  if 48 ≤ b && b ≤ 57 then some (b - 48).toNat
  else if 97 ≤ b && b ≤ 102 then some (b - 87).toNat
  else if 65 ≤ b && b ≤ 70 then some (b - 55).toNat
  else none

/-- The UTF-8 bytes of a code point. -/
def utf8Bytes (n : Nat) : List UInt8 :=
  (String.singleton (Char.ofNat n)).toUTF8.toList

/-- Reads the keyword rest after its first letter. -/
def readIdent (word : List UInt8) (c : Cursor) : Except Stop Cursor :=
  match word with
  | [] => .ok c
  | w :: ws =>
    match c.peek with
    | none => .error (c.stop .eofValue)
    | some b => if b == w then readIdent ws c.bump else .error (c.bump.stop .expectedIdent)

/-- Four hex digits of a `\u` escape. -/
def readHex4 (c : Cursor) : Step Nat :=
  match c.rest with
  | a :: b :: d :: e :: rest =>
    let c' : Cursor := ⟨rest, c.index + 4⟩
    match hexValue a, hexValue b, hexValue d, hexValue e with
    | some a, some b, some d, some e => .ok (((a * 16 + b) * 16 + d) * 16 + e, c')
    | _, _, _, _ => .error (c'.stop .invalidEscape)
  | rest => .error (Cursor.stop ⟨[], c.index + rest.length⟩ .eofString)

/-- The bytes of the escape after a backslash. -/
def readEscape (c : Cursor) : Step (List UInt8) :=
  match c.peek with
  | none => .error (c.stop .eofString)
  | some ch =>
    let c := c.bump
    if ch == 34 then .ok ([34], c)
    else if ch == 92 then .ok ([92], c)
    else if ch == 47 then .ok ([47], c)
    else if ch == 98 then .ok ([8], c)
    else if ch == 102 then .ok ([12], c)
    else if ch == 110 then .ok ([10], c)
    else if ch == 114 then .ok ([13], c)
    else if ch == 116 then .ok ([9], c)
    else if ch == 117 then
      match readHex4 c with
      | .error e => .error e
      | .ok (n, c) =>
        if 0xDC00 ≤ n ∧ n ≤ 0xDFFF then .error (c.stop .loneLeadingSurrogate)
        else if n < 0xD800 ∨ n > 0xDBFF then .ok (utf8Bytes n, c)
        else
          -- a leading surrogate must be followed by an escaped trailing one
          match c.peek with
          | none => .error (c.stop .eofString)
          | some b1 =>
            if b1 != 92 then .error (c.bump.stop .unexpectedEndOfHexEscape)
            else
              let c := c.bump
              match c.peek with
              | none => .error (c.stop .eofString)
              | some b2 =>
                if b2 != 117 then .error (c.bump.stop .unexpectedEndOfHexEscape)
                else
                  match readHex4 c.bump with
                  | .error e => .error e
                  | .ok (n2, c) =>
                    if n2 < 0xDC00 ∨ n2 > 0xDFFF then .error (c.stop .loneLeadingSurrogate)
                    else
                      let cp := ((n - 0xD800) <<< 10 ||| (n2 - 0xDC00)) + 0x10000
                      .ok (utf8Bytes cp, c)
    else .error (c.stop .invalidEscape)

/-- The length of a well-formed UTF-8 sequence starting with `b0, b1, ...`, if it is one. -/
def utf8SequenceLength : List UInt8 → Option Nat
  | [] => none
  | b0 :: rest =>
    let cont (b : UInt8) : Bool := 0x80 ≤ b && b ≤ 0xBF
    let within (b lo hi : UInt8) : Bool := lo ≤ b && b ≤ hi
    if b0 < 0x80 then some 1
    else match rest with
      | b1 :: more =>
        if within b0 0xC2 0xDF then (if cont b1 then some 2 else none)
        else
          let second :=
            if b0 == 0xE0 then within b1 0xA0 0xBF
            else if b0 == 0xED then within b1 0x80 0x9F
            else if within b0 0xE1 0xEF then cont b1
            else if b0 == 0xF0 then within b1 0x90 0xBF
            else if b0 == 0xF4 then within b1 0x80 0x8F
            else if within b0 0xF1 0xF3 then cont b1
            else false
          if !second then none
          else if b0 < 0xF0 then
            match more with
            | b2 :: _ => if cont b2 then some 3 else none
            | [] => none
          else
            match more with
            | b2 :: b3 :: _ => if cont b2 && cont b3 then some 4 else none
            | _ => none
      | [] => none

/-- Where the first byte that does not begin a well-formed UTF-8 sequence sits, if any. -/
def firstInvalidUtf8 (bytes : List UInt8) : Option Nat :=
  let rec go : Nat → List UInt8 → Nat → Option Nat
    | 0, _, _ => none
    | _, [], _ => none
    | fuel + 1, bs, i =>
      match utf8SequenceLength bs with
      | some n => go fuel (bs.drop n) (i + n)
      | none => some i
  go (bytes.length + 1) bytes 0

/-- The bytes of a string body up to its closing quote (the opening quote already read),
decoded as UTF-8. Bytes that are not UTF-8 are reported once the whole body has been read,
just after the first byte of the first malformed sequence. -/
def readStringBody (c : Cursor) : Step String :=
  let rec go (fuel : Nat) (c : Cursor) (acc : List UInt8) (marks : List Nat) : Step String :=
    match fuel with
    | 0 => .error (c.stop .eofString)
    | fuel + 1 =>
      match c.peek with
      | none => .error (c.stop .eofString)
      | some b =>
        if b == 34 then
          match String.fromUTF8? (ByteArray.mk acc.reverse.toArray) with
          | some s => .ok (s, c.bump)
          | none =>
            let at_ := match firstInvalidUtf8 acc.reverse with
              | some k => (marks.reverse[k]?).getD c.index
              | none => c.index
            .error ⟨.invalidCodePoint, at_ + 1⟩
        else if b == 92 then
          match readEscape c.bump with
          | .error e => .error e
          | .ok (bytes, c') =>
            go fuel c' (bytes.reverse ++ acc) (List.replicate bytes.length c.index ++ marks)
        else if b < 32 then .error (c.bump.stop .controlCharacter)
        else go fuel c.bump (b :: acc) (c.index :: marks)
  go (c.rest.length + 1) c [] []

/-- The double `significand · 10^exponent` formed as the nearest double to the significand,
multiplied or divided by the rounded power of ten; beyond `10^308` the division is repeated
by `10^308`. An infinite product is out of range. -/
def scaleDecimal (significand : Nat) (exponent : Int) : Except Fault Float :=
  let rec go (fuel : Nat) (f : Float) (exponent : Int) : Except Fault Float :=
    match fuel with
    | 0 => .ok f
    | fuel + 1 =>
      if exponent.natAbs ≤ 308 then
        if exponent ≥ 0 then
          let g := f * Binary64.pow10 exponent.natAbs
          if g.isInf then .error .numberOutOfRange else .ok g
        else .ok (f / Binary64.pow10 exponent.natAbs)
      else if f == 0 then .ok f
      else if exponent ≥ 0 then .error .numberOutOfRange
      else go fuel (f / Binary64.pow10 308) (exponent + 308)
  go 8 significand.toUInt64.toFloat exponent

/-- The number kept from sign, significand and decimal exponent. -/
def finishFloat (positive : Bool) (significand : Nat) (exponent : Int) (c : Cursor) :
    Step Number :=
  match scaleDecimal significand exponent with
  | .error f => .error (c.stop f)
  | .ok f => .ok (.float (if positive then f else -f), c)

def maxI32 : Int := 2147483647

/-- Exponent digits folded while they fit 32 bits; on overflow, the number of digits read
up to and including the one that overflowed. -/
def foldExponent (exp : Int) (count : Nat) : List UInt8 → Except Nat Int
  | [] => .ok exp
  | d :: ds =>
    let next := exp * 10 + (d - 48).toNat
    if next > maxI32 then .error (count + 1) else foldExponent next (count + 1) ds

/-- Digits of an exponent after `e` or `E`. An exponent beyond 32 bits is out of range for a
non-zero number with a positive exponent, and gives zero otherwise. -/
def readExponent (positive : Bool) (significand : Nat) (start : Int) (c : Cursor) :
    Step Number :=
  let c := c.bump
  let (positiveExp, c) :=
    match c.peek with
    | some 43 => (true, c.bump)
    | some 45 => (false, c.bump)
    | _ => (true, c)
  match c.peek with
  | none => .error (c.stop .eofValue)
  | some d =>
    if !isDigit d then .error (c.bump.stop .invalidNumber)
    else
      let c := c.bump
      let digits := c.rest.takeWhile isDigit
      let after : Cursor := ⟨c.rest.drop digits.length, c.index + digits.length⟩
      match foldExponent (d - 48).toNat 0 digits with
      | .error n =>
        if significand ≠ 0 ∧ positiveExp then
          .error (Cursor.stop ⟨[], c.index + n⟩ .numberOutOfRange)
        else .ok (.float (if positive then 0.0 else -0.0), after)
      | .ok exp =>
        let final := if positiveExp then start + exp else start - exp
        finishFloat positive significand final after

/-- Digits after a decimal point. -/
def readFraction (positive : Bool) (significand : Nat) (before : Int) (c : Cursor) :
    Step Number :=
  let c := c.bump
  let rec go (fuel : Nat) (significand : Nat) (after : Int) (c : Cursor) : Step Number :=
    match fuel with
    | 0 => .error (c.stop .eofValue)
    | fuel + 1 =>
      match c.peek with
      | some d =>
        if isDigit d then
          let next := significand * 10 + (d - 48).toNat
          if next ≥ Nat.pow 2 64 then
            -- further digits are ignored
            let n := (c.rest.takeWhile isDigit).length
            let c : Cursor := ⟨c.rest.drop n, c.index + n⟩
            match c.peek with
            | some 101 | some 69 => readExponent positive significand (before + after) c
            | _ => finishFloat positive significand (before + after) c
          else go fuel next (after - 1) c.bump
        else if after = 0 then .error (c.stopAhead .invalidNumber)
        else if d == 101 || d == 69 then readExponent positive significand (before + after) c
        else finishFloat positive significand (before + after) c
      | none =>
        if after = 0 then .error (c.stopAhead .eofValue)
        else finishFloat positive significand (before + after) c
  go (c.rest.length + 1) significand 0 c

/-- What follows the integer digits: a fraction, an exponent, or the end of the number. -/
def readAfterInteger (positive : Bool) (significand : Nat) (c : Cursor) : Step Number :=
  match c.peek with
  | some 46 => readFraction positive significand 0 c
  | some 101 | some 69 => readExponent positive significand 0 c
  | _ =>
    if positive then .ok (.nat significand, c)
    else if significand = 0 then .ok (.float (-0.0), c)
    else if significand ≤ Nat.pow 2 63 then .ok (.neg (-(significand : Int)), c)
    else .ok (.float (-(significand.toUInt64.toFloat)), c)

/-- An integer too long for 64 bits: the extra digits raise the exponent. -/
def readLongInteger (positive : Bool) (significand : Nat) (c : Cursor) : Step Number :=
  let n := (c.rest.takeWhile isDigit).length
  let c : Cursor := ⟨c.rest.drop n, c.index + n⟩
  match c.peek with
  | some 46 => readFraction positive significand n c
  | some 101 | some 69 => readExponent positive significand n c
  | _ => finishFloat positive significand n c

/-- A number after its optional minus sign. -/
def readNumber (positive : Bool) (c : Cursor) : Step Number :=
  match c.peek with
  | none => .error (c.stop .eofValue)
  | some d =>
    let c := c.bump
    if d == 48 then
      match c.peek with
      | some e => if isDigit e then .error (c.stopAhead .invalidNumber)
                  else readAfterInteger positive 0 c
      | none => readAfterInteger positive 0 c
    else if isDigit d then
      let rec go (fuel : Nat) (significand : Nat) (c : Cursor) : Step Number :=
        match fuel with
        | 0 => readAfterInteger positive significand c
        | fuel + 1 =>
          match c.peek with
          | some e =>
            if isDigit e then
              let next := significand * 10 + (e - 48).toNat
              if next ≥ Nat.pow 2 64 then readLongInteger positive significand c
              else go fuel next c.bump
            else readAfterInteger positive significand c
          | none => readAfterInteger positive significand c
      go c.rest.length (d - 48).toNat c
    else .error (c.stop .invalidNumber)

/-- Deepest nesting of arrays and objects. -/
def depthLimit : Nat := 128

mutual

/-- One value after optional blanks. `depth` counts the open containers. -/
def readValue (fuel depth : Nat) (c : Cursor) : Step Json :=
  match fuel with
  | 0 => .error (c.stop .eofValue)
  | fuel + 1 =>
    let c := c.skipBlank
    match c.peek with
    | none => .error (c.stopAhead .eofValue)
    | some b =>
      if b == 110 then (readIdent [117, 108, 108] c.bump).map (fun c => (.null, c))
      else if b == 116 then (readIdent [114, 117, 101] c.bump).map (fun c => (.bool true, c))
      else if b == 102 then
        (readIdent [97, 108, 115, 101] c.bump).map (fun c => (.bool false, c))
      else if b == 45 then (readNumber false c.bump).map (fun (n, c) => (.num n, c))
      else if isDigit b then (readNumber true c).map (fun (n, c) => (.num n, c))
      else if b == 34 then (readStringBody c.bump).map (fun (s, c) => (.str s, c))
      else if b == 91 then
        if depth + 1 ≥ depthLimit then .error (c.stopAhead .recursionLimit)
        else
          match readItems fuel (depth + 1) true c.bump [] with
          | .error e => .error e
          | .ok (items, c) =>
            -- the closing bracket is the next byte
            .ok (.arr items, c.skipBlank.bump)
      else if b == 123 then
        if depth + 1 ≥ depthLimit then .error (c.stopAhead .recursionLimit)
        else
          match readMembers fuel (depth + 1) true c.bump [] with
          | .error e => .error e
          | .ok (fields, c) => .ok (.obj fields, c.skipBlank.bump)
      else .error (c.stopAhead .expectedValue)

/-- Array items up to, not including, the closing bracket. -/
def readItems (fuel depth : Nat) (first : Bool) (c : Cursor) (acc : List Json) :
    Step (List Json) :=
  match fuel with
  | 0 => .error (c.stop .eofList)
  | fuel + 1 =>
    let c := c.skipBlank
    match c.peek with
    | none => .error (c.stopAhead .eofList)
    | some 93 => .ok (acc.reverse, c)
    | some b =>
      let next : Except Stop Cursor :=
        if b == 44 && !first then .ok c.bump.skipBlank
        else if first then .ok c
        else .error (c.stopAhead .expectedListCommaOrEnd)
      match next with
      | .error e => .error e
      | .ok c =>
        match c.peek with
        | some 93 => .error (c.stopAhead .trailingComma)
        | none => .error (c.stopAhead .eofValue)
        | some _ =>
          match readValue fuel depth c with
          | .error e => .error e
          | .ok (v, c) => readItems fuel depth false c (v :: acc)

/-- Object members up to, not including, the closing brace; a repeated key keeps its first
position and takes the later value. -/
def readMembers (fuel depth : Nat) (first : Bool) (c : Cursor)
    (acc : List (String × Json)) : Step (List (String × Json)) :=
  match fuel with
  | 0 => .error (c.stop .eofObject)
  | fuel + 1 =>
    let c := c.skipBlank
    match c.peek with
    | none => .error (c.stopAhead .eofObject)
    | some 125 => .ok (acc, c)
    | some b =>
      let next : Except Stop Cursor :=
        if b == 44 && !first then .ok c.bump.skipBlank
        else if first then .ok c
        else .error (c.stopAhead .expectedObjectCommaOrEnd)
      match next with
      | .error e => .error e
      | .ok c =>
        match c.peek with
        | some 34 =>
          match readStringBody c.bump with
          | .error e => .error e
          | .ok (key, c) =>
            let c := c.skipBlank
            match c.peek with
            | some 58 =>
              match readValue fuel depth c.bump with
              | .error e => .error e
              | .ok (v, c) => readMembers fuel depth false c (setField acc key v)
            | some _ => .error (c.stopAhead .expectedColon)
            | none => .error (c.stopAhead .eofObject)
        | some 125 => .error (c.stopAhead .trailingComma)
        | some _ => .error (c.stopAhead .keyMustBeString)
        | none => .error (c.stopAhead .eofValue)

end

/-- Reads one JSON value filling the whole input, blanks aside. -/
def readBytes (input : List UInt8) : Except ReadError Json :=
  match readValue (2 * input.length + 4) 0 ⟨input, 0⟩ with
  | .error s => .error (s.locate input)
  | .ok (v, c) =>
    let c := c.skipBlank
    if c.rest.isEmpty then .ok v
    else .error ((c.stopAhead .trailingCharacters).locate input)

/-- Reads one JSON value from text. -/
def read (text : String) : Except ReadError Json := readBytes text.toUTF8.toList

end Covenant.Json
