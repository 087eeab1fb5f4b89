import Covenant.Binary64.Shortest

/-!
# Writing doubles as text

The shortest digits are laid out positionally while the decimal point falls within a window,
and in exponent form outside it. A `Notation` record holds the decisions a format makes: the
window, whether a positive exponent carries `+`, and the spellings of the non-finite values.
-/

namespace Covenant.Binary64

/-- The decisions of one textual format for doubles. With `d` significant digits and value
`digits · 10^k`, the point position is `d + k`; positional notation is used when
`pointAbove < d + k ≤ pointAtMost`. -/
structure Notation where
  pointAbove : Int
  pointAtMost : Int
  plusExponent : Bool
  nan : String
  infinity : String
  negInfinity : String

/-- Decimal digits of a natural number. -/
def digitString (n : Nat) : String := String.ofList (Nat.toDigits 10 n)

/-- `n` copies of the digit zero. -/
def zeros (n : Nat) : String := String.ofList (List.replicate n '0')

/-- The text of a positive decimal `digits · 10^k` in a notation. -/
def Notation.decimal (style : Notation) (d : Decimal) : String :=
  let ds := digitString d.digits
  let n : Int := ds.length
  let point := n + d.exponent
  if d.exponent ≥ 0 ∧ point ≤ style.pointAtMost then
    ds ++ zeros d.exponent.toNat ++ ".0"
  else if 0 < point ∧ point ≤ style.pointAtMost then
    String.ofList (ds.toList.take point.toNat) ++ "." ++ String.ofList (ds.toList.drop point.toNat)
  else if style.pointAbove < point ∧ point ≤ 0 then
    "0." ++ zeros (-point).toNat ++ ds
  else
    let e := point - 1
    let mantissa :=
      if n = 1 then ds
      else String.ofList (ds.toList.take 1) ++ "." ++ String.ofList (ds.toList.drop 1)
    let sign := if e < 0 then "-" else if style.plusExponent then "+" else ""
    mantissa ++ "e" ++ sign ++ digitString e.natAbs

/-- The text of a double in a notation: shortest digits, sign, and the format's spellings of
zero, infinities and NaN. -/
def Notation.render (style : Notation) (f : Float) : String :=
  match parts f with
  | none =>
    if f.isNaN then style.nan
    else if signBit f then style.negInfinity else style.infinity
  | some p =>
    let sign := if p.neg then "-" else ""
    if p.significand = 0 then sign ++ "0.0"
    else sign ++ style.decimal (shortest p)

end Covenant.Binary64
