/-!
# Internet addresses in text

IPv4 addresses in dotted-decimal form and IPv6 addresses in the colon-separated form of
RFC 4291, as URI hosts, e-mail domains and the `ipv4` and `ipv6` string formats write them.

An IPv4 address is four decimal octets joined by dots; an octet has one to three digits, is
at most 255 and has no leading zero. An IPv6 address is eight groups of one to four hex
digits joined by colons; one `::` may stand for one or more groups of zeros, and the last two
groups may be written as an embedded IPv4 address. No zone and no brackets are part of it.
-/

namespace Covenant.Net

/-- The value of a digit in a radix of at most 16. -/
def digitValue? (radix : Nat) (c : Char) : Option Nat :=
  let v :=
    if '0' ≤ c && c ≤ '9' then some (c.toNat - '0'.toNat)
    else if 'a' ≤ c && c ≤ 'f' then some (c.toNat - 'a'.toNat + 10)
    else if 'A' ≤ c && c ≤ 'F' then some (c.toNat - 'A'.toNat + 10)
    else none
  v.filter (· < radix)

/-- A number at the front of a text: its digits are all those in the radix there, at least
one and at most `most`; with `zeroLead` off a leading zero is allowed only alone. Gives the
value and the rest. -/
def number? (radix most : Nat) (zeroLead : Bool) (cs : List Char) : Option (Nat × List Char) :=
  let digits := cs.takeWhile fun c => (digitValue? radix c).isSome
  if digits.isEmpty || digits.length > most then none
  else if !zeroLead && digits.length > 1 && digits.head? == some '0' then none
  else
    let value := digits.foldl (fun acc c => acc * radix + (digitValue? radix c).getD 0) 0
    some (value, cs.drop digits.length)

/-- An octet at the front of a text, and the rest. -/
def octet? (cs : List Char) : Option (List Char) :=
  match number? 10 3 false cs with
  | some (v, rest) => if v ≤ 255 then some rest else none
  | none => none

/-- A dot and an octet at the front of a text, and the rest. -/
def dottedOctet? : List Char → Option (List Char)
  | '.' :: rest => octet? rest
  | _ => none

/-- An IPv4 address at the front of a text, and the rest. -/
def ipv4Front? (cs : List Char) : Option (List Char) :=
  (octet? cs).bind dottedOctet? |>.bind dottedOctet? |>.bind dottedOctet?

/-- Whether a text is an IPv4 address. -/
def isIpv4 (s : String) : Bool := ipv4Front? s.toList == some []

/-- What follows the separator before group `index`: the text itself for the first group,
the text after a colon for the others. -/
def afterSeparator (index : Nat) (cs : List Char) : Option (List Char) :=
  if index == 0 then some cs
  else match cs with
    | ':' :: rest => some rest
    | _ => none

/-- Reads colon-separated groups, at most `limit` of them, from group `index` on: how many
groups were read in all, whether the last two were an embedded IPv4 address, and the rest.
An embedded address is tried first wherever two groups are still free. -/
def readGroups (limit : Nat) : Nat → Nat → List Char → Nat × Bool × List Char
  | 0, index, cs => (index, false, cs)
  | fuel + 1, index, cs =>
    if index ≥ limit then (index, false, cs)
    else
      let embedded :=
        if index + 1 < limit then (afterSeparator index cs).bind ipv4Front? else none
      match embedded with
      | some rest => (index + 2, true, rest)
      | none =>
        match (afterSeparator index cs).bind (number? 16 4 true) with
        | some (_, rest) => readGroups limit fuel (index + 1) rest
        | none => (index, false, cs)

/-- Whether a text is an IPv6 address: eight groups, or fewer around one `::`. -/
def isIpv6 (s : String) : Bool :=
  let (head, embedded, rest) := readGroups 8 8 0 s.toList
  if head == 8 then rest.isEmpty
  else if embedded then false
  else
    match rest with
    | ':' :: ':' :: tail =>
      let limit := 8 - (head + 1)
      let (_, _, after) := readGroups limit limit 0 tail
      after.isEmpty
    | _ => false

end Covenant.Net
