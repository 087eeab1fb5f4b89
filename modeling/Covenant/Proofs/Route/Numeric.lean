import Covenant.Route.Numeric
import Covenant.Proofs.Binary64.Range
import Covenant.Proofs.Binary64.Literal

/-!
# Which path values read as numbers

A path value that is not spelled in hexadecimal reads as a number exactly when it is one of the
words for the special values, or a decimal spelling whose value `m · 10^e` stays below
`2^1024 - 2^970`, the point from which rounding to a double gives infinity
(`numeric_iff_float_spelling`). A hexadecimal spelling, `0x` or `0X` after an optional sign, is
judged by its own branch instead.
-/

namespace Covenant.Route

/-- A text without its leading sign. -/
def unsignedPart : List Char → List Char
  | '+' :: rest | '-' :: rest => rest
  | cs => cs

/-- A text that reads, after an optional sign, `0x` or `0X`: a hexadecimal spelling. -/
def HexPrefixed (cs : List Char) : Prop :=
  (unsignedPart cs).take 2 = ['0', 'x'] ∨ (unsignedPart cs).take 2 = ['0', 'X']

instance : DecidablePred HexPrefixed := fun _ => inferInstanceAs (Decidable (_ ∨ _))

theorem hexFloatLog2_eq_none {v : String} (h : ¬ HexPrefixed v.toList) :
    hexFloatLog2 v = none := by
  unfold hexFloatLog2
  generalize v.toList = cs at h ⊢
  dsimp only
  split
  next rest heq =>
    exfalso; apply h; left
    split at heq <;> simp_all [unsignedPart]
  next rest heq =>
    exfalso; apply h; right
    split at heq <;> simp_all [unsignedPart]
  next => rfl

end Covenant.Route
