/-!
# Base64

The standard alphabet (`A`–`Z`, `a`–`z`, `0`–`9`, `+`, `/`) with `=` padding to a whole
number of four-character groups. A group of `n` data characters carries `n - 1` bytes; the
bits of its last character that carry no byte must be zero, so each byte sequence has one
encoding.
-/

namespace Covenant.Text.Base64

/-- The six bits a character of the alphabet stands for. -/
def sextet? (c : Char) : Option Nat :=
  if 'A' ≤ c && c ≤ 'Z' then some (c.toNat - 'A'.toNat)
  else if 'a' ≤ c && c ≤ 'z' then some (c.toNat - 'a'.toNat + 26)
  else if '0' ≤ c && c ≤ '9' then some (c.toNat - '0'.toNat + 52)
  else if c == '+' then some 62
  else if c == '/' then some 63
  else none

/-- The bytes of one group: four characters, the last one or two of which may be `=` in the
final group. -/
def group? (final : Bool) (cs : List Char) : Option (List UInt8) :=
  match cs with
  | [a, b, '=', '='] =>
    if !final then none
    else do
      let x ← sextet? a
      let y ← sextet? b
      if y % 16 != 0 then none else some [(x * 4 + y / 16).toUInt8]
  | [a, b, c, '='] =>
    if !final then none
    else do
      let x ← sextet? a
      let y ← sextet? b
      let z ← sextet? c
      if z % 4 != 0 then none
      else some [(x * 4 + y / 16).toUInt8, ((y % 16) * 16 + z / 4).toUInt8]
  | [a, b, c, d] => do
    let x ← sextet? a
    let y ← sextet? b
    let z ← sextet? c
    let w ← sextet? d
    some [(x * 4 + y / 16).toUInt8, ((y % 16) * 16 + z / 4).toUInt8, ((z % 4) * 64 + w).toUInt8]
  | _ => none

/-- The bytes a text encodes, if it is a canonical encoding. -/
def decode? (text : String) : Option (List UInt8) :=
  let rec go : Nat → List Char → Option (List UInt8)
    | 0, _ => some []
    | _ + 1, [] => some []
    | fuel + 1, cs =>
      let rest := cs.drop 4
      match group? rest.isEmpty (cs.take 4) with
      | some bytes => (go fuel rest).map (bytes ++ ·)
      | none => none
  go (text.length + 1) text.toList

end Covenant.Text.Base64
