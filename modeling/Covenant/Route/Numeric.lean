import Covenant.Binary64.Parse

/-!
# Numeric path values

Whether the text of a path segment reads as a number. Two spellings count. A hexadecimal
float `[+-]0x<hex>[.<hex>]p[+-]<digits>` is numeric when its magnitude stays below `2^1024`,
judged from the base-2 logarithm of its hex digits read as a double. A decimal float
`[+-]<digits>[.<digits>][e[+-]<digits>]` (or `inf`, `infinity`, `nan` in any case) is numeric
when it rounds to a finite double or is spelled without any digit.
-/

namespace Covenant.Route

/-- The value of a hex digit. -/
def hexDigitValue (c : Char) : Option Nat :=
  if c.isDigit then some (c.toNat - 48)
  else if 'a' ≤ c ∧ c ≤ 'f' then some (c.toNat - 87)
  else if 'A' ≤ c ∧ c ≤ 'F' then some (c.toNat - 55)
  else none

def maxI64 : Int := 9223372036854775807

def minI64 : Int := -9223372036854775808

/-- `a - b` kept within the 64-bit signed range. -/
def saturatingSub (a b : Int) : Int := max minI64 (min maxI64 (a - b))

/-- Splits a list at the first element satisfying `p`, dropping that element. -/
def splitAtFirst (p : Char → Bool) (cs : List Char) : Option (List Char × List Char) :=
  match cs.findIdx? p with
  | some i => some (cs.take i, cs.drop (i + 1))
  | none => none

/-- The base-2 logarithm of the magnitude of a hexadecimal float, or `none` when the text is
not one. The hex digits are accumulated as a double, one rounding per digit. -/
def hexFloatLog2 (value : String) : Option Float := do
  let cs := value.toList
  let unsigned := match cs with
    | '+' :: rest | '-' :: rest => rest
    | _ => cs
  let body ← match unsigned with
    | '0' :: 'x' :: rest | '0' :: 'X' :: rest => some rest
    | _ => none
  let (mantissa, exponent) ← splitAtFirst (fun c => c = 'p' || c = 'P') body
  let exponent := match exponent with
    | '+' :: rest => rest
    | _ => exponent
  let digits := match exponent with
    | '-' :: rest => rest
    | _ => exponent
  if digits.isEmpty || !digits.all Char.isDigit then none
  let magnitude : Int := (String.ofList digits).toNat?.getD 0
  let exponentValue : Int :=
    if exponent.head? = some '-' then max minI64 (-magnitude) else min maxI64 magnitude
  let (whole, fraction) := (splitAtFirst (· = '.') mantissa).getD (mantissa, [])
  if whole.isEmpty && fraction.isEmpty then none
  let scaled ← (whole ++ fraction).foldlM
    (fun (acc : Float) c => (hexDigitValue c).map (fun d => acc * 16.0 + d.toFloat)) 0.0
  let shift : Int := min maxI64 (4 * fraction.length)
  return scaled.log2 + Float.ofInt (saturatingSub exponentValue shift)

/-- Whether a path value reads as a number. -/
def isNumeric (value : String) : Bool :=
  match hexFloatLog2 value with
  | some magnitude => magnitude < 1024.0
  | none =>
    let cs := value.toList
    if (Binary64.specialLiteral? cs).isSome then true
    else
      match Binary64.decimalLiteral? cs with
      | none => false
      | some (neg, m, e) => Binary64.isFinite (Binary64.ofDecimal neg m e)

end Covenant.Route
