/-!
# Punycode

Punycode (RFC 3492) writes a string of Unicode characters with ASCII letters, digits and
hyphens only, so that a domain-name label beyond ASCII has a form DNS accepts (written after
`xn--`). The ASCII characters of the label come first, then `-` if there were any, then the
other characters as a sequence of variable-length base-36 numbers. Each number says how far
to move, in a walk over (code point, position) pairs taken in increasing order, to reach the
next character to insert; the thresholds of the digits follow a bias that adapts to the
sizes of the moves seen so far.

Both directions are total: the digit loops end because the number being written shrinks (by
at least one each digit, as every threshold is at least one) or the input being read does,
and the outer loops run over the characters still to place.

Decoding refuses what the standard's 32-bit arithmetic refuses: a move or weight that does
not fit in 32 bits, and a code point that is not a character.
-/

namespace Covenant.Text.Punycode

/-- The character for a digit: `a` to `z` for 0 to 25, `0` to `9` for 26 to 35. -/
def digitChar (d : Nat) : Char :=
  if d < 26 then Char.ofNat (0x61 + d) else Char.ofNat (0x30 + d - 26)

/-- The digit a character stands for; letters in either case. -/
def digitValue (c : Char) : Option Nat :=
  let n := c.toNat
  if 0x61 ≤ n && n ≤ 0x7A then some (n - 0x61)
  else if 0x41 ≤ n && n ≤ 0x5A then some (n - 0x41)
  else if 0x30 ≤ n && n ≤ 0x39 then some (n - 0x30 + 26)
  else none

/-- The threshold of the digit at weight position `k` under a bias: between 1 and 26. -/
def threshold (k bias : Nat) : Nat :=
  if k ≤ bias then 1 else if bias + 26 ≤ k then 26 else k - bias

theorem threshold_pos (k bias : Nat) : 1 ≤ threshold k bias := by
  unfold threshold
  split
  · omega
  · split <;> omega

theorem threshold_le (k bias : Nat) : threshold k bias ≤ 26 := by
  unfold threshold
  split
  · omega
  · split <;> omega

/-- Divides a move by 35 until it is at most 455, counting the divisions in steps of 36. -/
def shrink (delta k : Nat) : Nat × Nat :=
  if 455 < delta then shrink (delta / 35) (k + 36) else (delta, k)
termination_by delta
decreasing_by exact Nat.div_lt_self (by omega) (by omega)

/-- The bias after a move of `delta` with `count` characters placed; the first move is
damped by 700, the others by 2. -/
def adapt (delta count : Nat) (first : Bool) : Nat :=
  let d := if first then delta / 700 else delta / 2
  let (d, k) := shrink (d + d / count) 0
  k + 36 * d / (d + 38)

/-- The digits of a number `q`, least significant first, from weight position `k`. -/
def encodeNumber (bias k q : Nat) : List Char :=
  let t := threshold k bias
  if q < t then [digitChar q]
  else digitChar (t + (q - t) % (36 - t)) :: encodeNumber bias (k + 36) ((q - t) / (36 - t))
termination_by q
decreasing_by
  have _h1 := threshold_pos k bias
  have _h2 := threshold_le k bias
  calc (q - threshold k bias) / (36 - threshold k bias)
      ≤ q - threshold k bias := Nat.div_le_self _ _
    _ < q := by omega

/-- The state of encoding: the digits written so far (reversed), the pending move, the bias
and the number of characters placed. -/
structure Encoder where
  out : List Char
  delta : Nat
  bias : Nat
  placed : Nat

/-- Passes one character of the input while placing code point `m`: a smaller one adds to
the move, `m` itself writes the move and resets it. `basic` is the number of ASCII
characters. -/
def Encoder.visit (basic m : Nat) (e : Encoder) (c : Char) : Encoder :=
  if c.toNat < m then { e with delta := e.delta + 1 }
  else if c.toNat == m then
    { out := (encodeNumber e.bias 36 e.delta).reverse ++ e.out, delta := 0,
      bias := adapt e.delta (e.placed + 1) (e.placed == basic), placed := e.placed + 1 }
  else e

/-- Places the code points of `todo` (increasing, distinct) in turn; `n` is the next code
point the walk starts from. -/
def Encoder.run (input : List Char) (basic : Nat) : List Nat → Nat → Encoder → Encoder
  | [], _, e => e
  | m :: rest, n, e =>
    let e := { e with delta := e.delta + (m - n) * (e.placed + 1) }
    let e := input.foldl (Encoder.visit basic m) e
    Encoder.run input basic rest (m + 1) { e with delta := e.delta + 1 }

/-- Inserts a number into an increasing list without repeats. -/
def insertSorted (x : Nat) : List Nat → List Nat
  | [] => [x]
  | y :: ys => if x < y then x :: y :: ys else if x == y then y :: ys else y :: insertSorted x ys

/-- The Punycode form of a string, without the `xn--` prefix. -/
def encode (input : List Char) : List Char :=
  let basic := input.filter (·.toNat < 0x80)
  let wide := (input.filter (·.toNat ≥ 0x80)).foldr (fun c acc => insertSorted c.toNat acc) []
  let e := Encoder.run input basic.length wide 0x80
    { out := [], delta := 0, bias := 72, placed := basic.length }
  basic ++ (if basic.isEmpty then [] else ['-']) ++ e.out.reverse

/-- Reads one variable-length number from weight position `k` with weight `w`, adding it to
`i`; gives the new `i` and the input left. Refuses a digit that is not one, an input that
ends inside the number, and values past 32 bits. -/
def decodeNumber (bias : Nat) : List Char → Nat → Nat → Nat → Option (Nat × List Char)
  | [], _, _, _ => none
  | c :: rest, k, w, i =>
    match digitValue c with
    | none => none
    | some d =>
      let i := i + d * w
      let t := threshold k bias
      if i ≥ Nat.pow 2 32 then none
      else if d < t then some (i, rest)
      else if w * (36 - t) ≥ Nat.pow 2 32 then none
      else decodeNumber bias rest (k + 36) (w * (36 - t)) i

theorem decodeNumber_shorter : ∀ (bias : Nat) (l : List Char) (k w i : Nat) (r : Nat × List Char),
    decodeNumber bias l k w i = some r → r.2.length < l.length
  | _, [], _, _, _, _, h => by simp [decodeNumber] at h
  | bias, c :: rest, k, w, i, r, h => by
    rw [decodeNumber] at h
    split at h
    · simp at h
    · simp only at h
      split at h
      · simp at h
      · split at h
        · rw [← Option.some.inj h]; simp
        · split at h
          · simp at h
          · have := decodeNumber_shorter bias rest _ _ _ r h
            simp; omega

/-- Inserts the characters the numbers of the input stand for into `out`. -/
def decodeRest (bias n i : Nat) (out : List Char) : List Char → Option (List Char)
  | [] => some out
  | c :: rest =>
    match h : decodeNumber bias (c :: rest) 36 1 i with
    | none => none
    | some (i', remaining) =>
      let count := out.length + 1
      let n' := n + i' / count
      let pos := i' % count
      if n' < 0xD800 || (0xDFFF < n' && n' < 0x110000) then
        decodeRest (adapt (i' - i) count (i == 0)) n' (pos + 1)
          (out.insertIdx pos (Char.ofNat n')) remaining
      else none
termination_by l => l.length
decreasing_by
  have := decodeNumber_shorter bias (c :: rest) 36 1 i (i', remaining) h
  simpa using this

/-- The string a Punycode form (without `xn--`) stands for. The ASCII part is what comes
before the last `-`; it must be ASCII. -/
def decode (input : List Char) : Option (List Char) :=
  let (revRest, revBasic) := input.reverse.span (· != '-')
  let (basic, rest) := match revBasic with
    | [] => ([], revRest.reverse)
    | _ :: revBasic => (revBasic.reverse, revRest.reverse)
  if basic.any (·.toNat ≥ 0x80) then none
  else decodeRest 72 0x80 0 basic rest

end Covenant.Text.Punycode
