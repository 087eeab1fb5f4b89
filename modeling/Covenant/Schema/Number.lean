import Covenant.Json.Value
import Covenant.Binary64.Shortest
import Covenant.Binary64.Text

/-!
# Numbers in schema checks

Schema keywords compare numbers in two ways. Bounds (`minimum`, `maximum` and their
exclusive forms) compare the exact values, whatever kind of number each side was read as.
Equality (`enum`, `uniqueItems`, and `const` inside arrays and objects) compares exact values; `multipleOf` works on doubles read as scaled decimal fractions.

`Exact` is a rational number, used to decide the exact comparisons and to reproduce the
rounding of one division.
-/

namespace Covenant

/-- The rational number `num / den`, with `den` positive. -/
structure Exact where
  num : Int
  den : Nat

namespace Exact

/-- The value of a finite double; `none` for the infinities and NaN. -/
def ofFloat? (f : Float) : Option Exact :=
  (Binary64.parts f).map fun p =>
    let magnitude : Int :=
      if p.exponent ≥ 0 then (p.significand * Nat.pow 2 p.exponent.toNat : Nat) else p.significand
    let den := if p.exponent ≥ 0 then 1 else Nat.pow 2 (-p.exponent).toNat
    ⟨if p.neg then -magnitude else magnitude, den⟩

def lt (a b : Exact) : Bool := a.num * b.den < b.num * a.den

def le (a b : Exact) : Bool := a.num * b.den ≤ b.num * a.den

/-- Whether the value is a whole number. -/
def isWhole (a : Exact) : Bool := a.num % (a.den : Int) == 0

/-- The quotient `a / b` for a non-zero `b`. -/
def div (a b : Exact) : Exact :=
  let num := a.num * b.den
  let den := (a.den : Int) * b.num
  if den < 0 then ⟨-num, den.natAbs⟩ else ⟨num, den.natAbs⟩

end Exact

/-- The exact value of a number. -/
def Number.exact : Number → Exact
  | .nat n => ⟨n, 1⟩
  | .neg n => ⟨n, 1⟩
  | .float f => (Exact.ofFloat? f).getD ⟨0, 1⟩

/-- The number as a double: integers are rounded to the nearest double. -/
def Number.toFloat : Number → Float
  | .nat n => Binary64.ofRat false n 1
  | .neg n => Binary64.ofRat true n.natAbs 1
  | .float f => f

/-- Whether a number has no fractional part. -/
def Number.isWhole : Number → Bool
  | .nat _ | .neg _ => true
  | .float f => ((Exact.ofFloat? f).map Exact.isWhole).getD false

/-- The double nearest to an exact value. -/
def Exact.toFloat (a : Exact) : Float := Binary64.ofRat (a.num < 0) a.num.natAbs a.den

/-- A limit read as a count: a non-negative integer, or a whole double cut to a natural. -/
def Number.count? : Number → Option Nat
  | .nat n => some n
  | .neg _ => none
  | .float f =>
    match Exact.ofFloat? f with
    | some a => if a.isWhole && a.num ≥ 0 then some (min (a.num / a.den).toNat (Nat.pow 2 64 - 1)) else none
    | none => none

namespace Schema

/-- The machine epsilon of doubles, `2^-52`, as an exact value. -/
def epsilon : Exact := ⟨1, Nat.pow 2 52⟩

/-- The fraction a double is read as by scaling: the first power of ten `10^k` for which the
double product `f · 10^k` is whole gives `(f · 10^k) / 10^k`. The product is rounded, so
`1.13` reads as `113/100` while `0.1269` reads as `1269.0000000000002…` scaled on to the
next power that makes it whole. `none` when no power up to `10^400` does. -/
def scaledDecimal? (f : Float) : Option Exact :=
  let rec go : Nat → Nat → Option Exact
    | 0, _ => none
    | fuel + 1, k =>
      match Exact.ofFloat? (f * Binary64.ofRat false (Nat.pow 10 k) 1) with
      | none => none
      | some e => if e.isWhole then some ⟨e.num / e.den, Nat.pow 10 k⟩ else go fuel (k + 1)
  go 400 0

/-- Whether `item` passes `multipleOf` with the divisor `m`, both taken as doubles.

A whole divisor accepts whole items that are exact multiples. A divisor with a fraction
reads both sides as scaled decimals (`scaledDecimal?`) and asks for an exact whole quotient;
zero passes and any negative item fails. -/
def multipleOf (item m : Float) : Bool :=
  match Exact.ofFloat? item, Exact.ofFloat? m with
  | some a, some b =>
    if b.num == 0 then true
    else if b.isWhole then a.isWhole && (a.div b).isWhole
    else if a.num == 0 then true
    else if a.num < 0 then false
    else
      match scaledDecimal? item, scaledDecimal? m with
      | some x, some y => (x.div y).isWhole
      | _, _ => false
  | _, _ => true

/-- The text of a double as a plain decimal numeral, never in exponent form: `1`, `0.5`,
`100000000000000000000`, `0.0000001`. -/
def plainDecimal (f : Float) : String :=
  match Binary64.parts f with
  | none => if f.isNaN then "NaN" else if Binary64.signBit f then "-inf" else "inf"
  | some p =>
    let sign := if p.neg then "-" else ""
    if p.significand = 0 then sign ++ "0"
    else
      let d := Binary64.shortest p
      let ds := Binary64.digitString d.digits
      let point : Int := ds.length + d.exponent
      let body :=
        if d.exponent ≥ 0 then ds ++ Binary64.zeros d.exponent.toNat
        else if point > 0 then
          String.ofList (ds.toList.take point.toNat) ++ "." ++
            String.ofList (ds.toList.drop point.toNat)
        else "0." ++ Binary64.zeros (-point).toNat ++ ds
      sign ++ body

mutual

/-- Equality of numbers as schema keywords see it: by exact value, so an integer equals a
double only when the double is exactly that integer (`9007199254740993` is not
`9007199254740992.0`), and two doubles by double equality. -/
def sameNumber : Number → Number → Bool
  | .nat a, .nat b => a == b
  | .neg a, .neg b => a == b
  | .nat a, .neg b => (a : Int) == b
  | .neg a, .nat b => a == (b : Int)
  | .float a, .float b => a == b
  | a, b => a.exact.le b.exact && b.exact.le a.exact

/-- Equality of values as schema keywords see it: numbers by `sameNumber`, arrays item by
item, objects member by member in order. -/
def sameValue : Json → Json → Bool
  | .null, .null => true
  | .bool a, .bool b => a == b
  | .str a, .str b => a == b
  | .num a, .num b => sameNumber a b
  | .arr xs, .arr ys => sameItems xs ys
  | .obj xs, .obj ys => sameFields xs ys
  | _, _ => false

def sameItems : List Json → List Json → Bool
  | [], [] => true
  | x :: xs, y :: ys => sameValue x y && sameItems xs ys
  | _, _ => false

def sameFields : List (String × Json) → List (String × Json) → Bool
  | [], [] => true
  | (k, x) :: xs, (l, y) :: ys => k == l && sameValue x y && sameFields xs ys
  | _, _ => false

end

/-- Whether no two items of a list are equal. -/
def allDistinct : List Json → Bool
  | [] => true
  | x :: rest => !(rest.any (sameValue x)) && allDistinct rest

end Schema

end Covenant
