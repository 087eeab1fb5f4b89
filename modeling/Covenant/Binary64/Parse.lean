import Covenant.Binary64.Round

/-!
# Reading doubles from text

The decimal grammar of a double: an optional sign, digits with an optional point and fraction
(at least one digit in all), and an optional exponent `e` or `E` with its own sign and digits.
The words `inf`, `infinity` and `nan`, in any case and with an optional sign, name the special
values. A decimal is rounded to the nearest double, ties to even.
-/

namespace Covenant.Binary64

/-- A decimal literal: sign, digits, point, digits, exponent. Returns the sign, the digits as
one integer, and the power of ten. -/
def decimalLiteral? (cs : List Char) : Option (Bool × Nat × Int) := do
  let (neg, cs) := match cs with
    | '-' :: rest => (true, rest)
    | '+' :: rest => (false, rest)
    | _ => (false, cs)
  let whole := cs.takeWhile Char.isDigit
  let cs := cs.drop whole.length
  let (fraction, cs) := match cs with
    | '.' :: rest => (rest.takeWhile Char.isDigit, rest.drop (rest.takeWhile Char.isDigit).length)
    | _ => ([], cs)
  if whole.isEmpty && fraction.isEmpty then none
  let exponent ← match cs with
    | [] => some (0 : Int)
    | e :: rest =>
      if e = 'e' || e = 'E' then
        let (eneg, rest) := match rest with
          | '-' :: r => (true, r)
          | '+' :: r => (false, r)
          | _ => (false, rest)
        if rest.isEmpty || !rest.all Char.isDigit then none
        else
          let n : Int := (String.ofList rest).toNat?.getD 0
          some (if eneg then -n else n)
      else none
  let digits := whole ++ fraction
  let m := (String.ofList digits).toNat?.getD 0
  return (neg, m, exponent - fraction.length)

/-- The special value a word names, matched without regard to case. -/
def specialLiteral? (cs : List Char) : Option Float :=
  let (neg, body) := match cs with
    | '-' :: rest => (true, rest)
    | '+' :: rest => (false, rest)
    | _ => (false, cs)
  let lower := (String.ofList body).toLower
  if lower = "inf" || lower = "infinity" then some (infinity neg)
  else if lower = "nan" then some (0.0 / 0.0)
  else none

/-- The double a text spells, or `none` when it is not a float literal. -/
def ofString? (s : String) : Option Float :=
  let cs := s.toList
  match specialLiteral? cs with
  | some f => some f
  | none => (decimalLiteral? cs).map fun (neg, m, e) => ofDecimal neg m e

end Covenant.Binary64
