import Covenant.Binary64.Round

/-!
# Shortest decimal digits of a double

A finite double `v = m · 2^q` is the only double in the interval of reals that round to it.
`shortest` returns the decimal `d · 10^k` with the fewest significant digits inside that
interval, and of two such the one nearer to `v`. The interval's ends belong to it exactly when
`m` is even, as round-to-nearest-even decides.
-/

namespace Covenant.Binary64

/-- Shortest decimal form of a positive value: `digits · 10^exponent`, with `digits` free
of trailing zeros. -/
structure Decimal where
  digits : Nat
  exponent : Int
  deriving BEq, Repr

/-- Exact rationals `num / den` compared through cross products. -/
structure Ratio where
  num : Nat
  den : Nat

namespace Ratio

def le (a b : Ratio) : Bool := a.num * b.den ≤ b.num * a.den

def lt (a b : Ratio) : Bool := a.num * b.den < b.num * a.den

/-- `|a - b|` compared with `|c - b|`: `true` when `a` is strictly nearer to `b`. -/
def nearer (a c b : Ratio) : Bool :=
  let dist (x : Ratio) : Ratio :=
    if le x b then ⟨b.num * x.den - x.num * b.den, b.den * x.den⟩
    else ⟨x.num * b.den - b.num * x.den, b.den * x.den⟩
  lt (dist a) (dist c)

/-- The rational `n · 10^k`. -/
def ofDecimal (n : Nat) (k : Int) : Ratio :=
  if k ≥ 0 then ⟨n * Nat.pow 10 k.toNat, 1⟩ else ⟨n, Nat.pow 10 (-k).toNat⟩

/-- The rational `n · 2^k`. -/
def ofBinary (n : Nat) (k : Int) : Ratio :=
  if k ≥ 0 then ⟨n * Nat.pow 2 k.toNat, 1⟩ else ⟨n, Nat.pow 2 (-k).toNat⟩

/-- The integer part of a rational. -/
def floor (a : Ratio) : Nat := a.num / a.den

end Ratio

/-- Drops trailing zeros of a decimal, raising its exponent. -/
def Decimal.normalize (n : Nat) (k : Int) : Nat → Decimal
  | 0 => ⟨n, k⟩
  | fuel + 1 => if n ≠ 0 ∧ n % 10 = 0 then normalize (n / 10) (k + 1) fuel else ⟨n, k⟩

/-- The decimal exponent `e` with `10^e ≤ x < 10^(e+1)`, for a positive rational `x`. -/
def decimalExponent (x : Ratio) : Int :=
  -- an estimate from the bit lengths, corrected by at most a few steps each way
  let estimate : Int := ((x.num.log2 : Int) - (x.den.log2 : Int)) * 30103 / 100000
  let rec up (e : Int) : Nat → Int
    | 0 => e
    | fuel + 1 => if (Ratio.ofDecimal 1 (e + 1)).le x then up (e + 1) fuel else e
  let rec down (e : Int) : Nat → Int
    | 0 => e
    | fuel + 1 => if (Ratio.ofDecimal 1 e).le x then e else down (e - 1) fuel
  up (down estimate 8) 8

/-- The rounding interval of `m · 2^q`: its lower and upper ends. The gap below is half as
wide when `m` is the smallest significand of a binade above the subnormals. -/
def roundingInterval (p : Parts) : Ratio × Ratio :=
  let lowerNarrow := p.significand = Nat.pow 2 52 ∧ p.biased > 1
  -- work in units of 2^(q-2) so both half-gaps are integers
  let center := 4 * p.significand
  let low := if lowerNarrow then center - 1 else center - 2
  (Ratio.ofBinary low (p.exponent - 2), Ratio.ofBinary (center + 2) (p.exponent - 2))

/-- Inside the interval, ends included only when `inclusive`. -/
def within (inclusive : Bool) (lo hi x : Ratio) : Bool :=
  if inclusive then lo.le x && x.le hi else lo.lt x && x.lt hi

/-- The shortest decimal inside the rounding interval of a positive finite double, searching
one to seventeen significant digits; of two candidates on one grid the nearer wins, and an
exact tie goes to the even one. -/
def shortest (p : Parts) : Decimal :=
  let v := Ratio.ofBinary p.significand p.exponent
  let (lo, hi) := roundingInterval p
  let inclusive := p.significand % 2 = 0
  let e10 := decimalExponent v
  let rec search : Nat → Nat → Decimal
    | 0, _ => ⟨0, 0⟩
    | fuel + 1, n =>
      let k : Int := e10 - (n : Int) + 1
      let grid := Ratio.ofDecimal 1 k
      let below := (Ratio.mk (v.num * grid.den) (v.den * grid.num)).floor
      let above := below + 1
      let belowIn := within inclusive lo hi (Ratio.ofDecimal below k)
      let aboveIn := within inclusive lo hi (Ratio.ofDecimal above k)
      let pick (d : Nat) : Decimal := Decimal.normalize d k 20
      if belowIn && aboveIn then
        if Ratio.nearer (Ratio.ofDecimal below k) (Ratio.ofDecimal above k) v then pick below
        else if Ratio.nearer (Ratio.ofDecimal above k) (Ratio.ofDecimal below k) v then pick above
        else if below % 2 = 0 then pick below else pick above
      else if belowIn then pick below
      else if aboveIn then pick above
      else search fuel (n + 1)
  search 17 1

end Covenant.Binary64
