/-!
# Tables of Unicode properties

Properties of characters are kept as runs: the code points where a new value starts, each
with the value from there on, in increasing order. A run table is written as text, each run
as two base-36 numbers `start.value` separated by blanks, and read once into an array.
Looking a character up is a binary search for the last run starting at or before it.
-/

namespace Covenant.Text.Unicode

/-- The value of a base-36 numeral (digits, then lower-case letters). -/
def base36 (s : String) : Nat :=
  s.foldl (fun acc c =>
    let d := if '0' ≤ c && c ≤ '9' then c.toNat - '0'.toNat else c.toNat - 'a'.toNat + 10
    acc * 36 + d) 0

/-- The runs written in a table text. -/
def readRuns (text : String) : Array (Nat × Nat) :=
  ((text.splitOn " ").filterMap fun item =>
    match item.splitOn "." with
    | [a, b] => some (base36 a, base36 b)
    | _ => none).toArray

/-- The value of the last run starting at or before a code point, or `0` before the first
run. The search halves the range `[lo, hi)` of candidate runs each step. -/
def runValue (runs : Array (Nat × Nat)) (v : Nat) : Nat :=
  let rec go : Nat → Nat → Nat → Nat
    | 0, lo, _ => ((runs[lo]?).map (·.2)).getD 0
    | fuel + 1, lo, hi =>
      if hi ≤ lo + 1 then ((runs[lo]?).map (·.2)).getD 0
      else
        let mid := (lo + hi) / 2
        if (((runs[mid]?).map (·.1)).getD 0) ≤ v then go fuel mid hi else go fuel lo mid
  go 64 0 runs.size

end Covenant.Text.Unicode
