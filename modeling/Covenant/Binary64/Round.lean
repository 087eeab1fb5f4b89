/-!
# Binary64 values from exact rationals

A double is a sign, an 11-bit biased exponent and a 52-bit fraction. This module rounds an
exact non-negative rational `num / den` to the nearest double, a tie going to the even
fraction, and reads a double back as its integer significand and power of two. Reading a
decimal `m · 10^e` is the special case used by every number reader of the library.
-/

namespace Covenant.Binary64

/-- The double with the given sign, biased exponent and fraction fields. -/
def ofFields (neg : Bool) (biased : Nat) (fraction : Nat) : Float :=
  Float.ofBits (((if neg then 1 else 0) <<< 63 : Nat) + (biased % 2048) * Nat.pow 2 52 +
    fraction % Nat.pow 2 52).toUInt64

/-- Positive infinity with the requested sign. -/
def infinity (neg : Bool) : Float := ofFields neg 2047 0

/-- Zero with the requested sign. -/
def zero (neg : Bool) : Float := ofFields neg 0 0

/-- `a / b` rounded to the nearest integer, a tie going to the even neighbour. -/
def divRoundEven (a b : Nat) : Nat :=
  let q := a / b
  let r := a % b
  if 2 * r < b then q
  else if 2 * r > b then q + 1
  else if q % 2 = 0 then q else q + 1

/-- The exponent `t` with `2^52 ≤ num / den / 2^t < 2^53`, found from bit lengths. -/
def scaleExponent (num den : Nat) : Int :=
  let t : Int := (num.log2 : Int) - (den.log2 : Int) - 52
  -- the bit-length estimate is off by at most one
  let fits (t : Int) : Bool :=
    if t ≥ 0 then
      Nat.pow 2 52 * (den * Nat.pow 2 t.toNat) ≤ num
    else
      Nat.pow 2 52 * den ≤ num * Nat.pow 2 (-t).toNat
  if fits t then t else t - 1

/-- `num / den / 2^t` rounded to the nearest integer, ties to even. -/
def scaledRound (num den : Nat) (t : Int) : Nat :=
  if t ≥ 0 then divRoundEven num (den * Nat.pow 2 t.toNat)
  else divRoundEven (num * Nat.pow 2 (-t).toNat) den

/-- The double nearest to `num / den` (with the given sign); ties go to the even fraction,
and a value at or beyond `2^1024 - 2^970` becomes infinity. -/
def ofRat (neg : Bool) (num den : Nat) : Float :=
  if num = 0 ∨ den = 0 then zero neg
  else
    let t0 := scaleExponent num den
    -- the least significant bit of a subnormal is worth 2^-1074
    let t := if t0 < -1074 then -1074 else t0
    let m := scaledRound num den t
    let (m, t) := if m = Nat.pow 2 53 then (Nat.pow 2 52, t + 1) else (m, t)
    if t + 52 > 1023 then infinity neg
    else if m < Nat.pow 2 52 then ofFields neg 0 m
    else ofFields neg (t + 1075).toNat (m - Nat.pow 2 52)

/-- Number of decimal digits of a positive natural number. -/
def digitCount (n : Nat) : Nat := (Nat.toDigits 10 n).length

/-- The double nearest to `m · 10^e`, ties to even. Values far outside the range of doubles
are decided from the digit count alone, so no huge power is ever formed. -/
def ofDecimal (neg : Bool) (m : Nat) (e : Int) : Float :=
  if m = 0 then zero neg
  else
    let magnitude := (digitCount m : Int) + e
    -- m · 10^e < 10^magnitude and ≥ 10^(magnitude - 1)
    if magnitude ≤ -325 then zero neg
    else if magnitude ≥ 310 then infinity neg
    else if e ≥ 0 then ofRat neg (m * Nat.pow 10 e.toNat) 1
    else ofRat neg m (Nat.pow 10 (-e).toNat)

/-- The power of ten `10^k` rounded to the nearest double. -/
def pow10 (k : Nat) : Float := ofDecimal false 1 k

/-- A finite double as sign, integer significand and power of two:
`value = (-1)^neg · significand · 2^exponent`. -/
structure Parts where
  neg : Bool
  significand : Nat
  exponent : Int
  /-- The biased exponent field; zero marks a subnormal. -/
  biased : Nat

/-- The fields of a double: `none` for infinities and NaN. -/
def parts (f : Float) : Option Parts :=
  let bits : Nat := f.toBits.toNat
  let neg : Bool := bits / Nat.pow 2 63 % 2 = 1
  let biased : Nat := bits / Nat.pow 2 52 % 2048
  let fraction : Nat := bits % Nat.pow 2 52
  if biased = 2047 then none
  else if biased = 0 then some ⟨neg, fraction, -1074, 0⟩
  else some ⟨neg, fraction + Nat.pow 2 52, (biased : Int) - 1075, biased⟩

/-- Whether a double is negative zero or has its sign bit set. -/
def signBit (f : Float) : Bool := f.toBits.toNat / Nat.pow 2 63 % 2 = 1

/-- Whether a double is finite (neither an infinity nor NaN). -/
def isFinite (f : Float) : Bool := (parts f).isSome

end Covenant.Binary64
