import Covenant.Schema.Draft
import Covenant.Uri.Reference
import Covenant.Net.Address
import Covenant.Net.Hostname
import Covenant.Text.Unicode.Property

/-!
# String formats

Up to draft 7 the `format` keyword is checked: a string must have the named form. Each
format below says what it accepts; a format a draft does not know accepts every string.

* `date` is `YYYY-MM-DD` with a real day of the month; `time` is `HH:MM:SS`, an optional
  fraction and a required offset (`Z` or `±HH:MM`), where second 60 is a leap second only
  at 23:59 UTC; `date-time` joins the two with `T`. A digit of a date or time is read by its
  low four bits once its high four bits are those of `0`, so `:` counts as ten.
* `email` is a local part, `@` and a domain, perhaps written `text <address>` (the address
  after the last ` <`, up to a final `>`). The local part is at most 64 bytes: dot-separated
  atoms of letters, digits (by Unicode) and the ASCII symbols of addresses, or a quoted
  string of printable ASCII, blanks and escaped pairs. The domain is a literal in brackets,
  an IPv4 address or `IPv6:` and an IPv6 address, or else a host name whose labels are also
  letters and digits with inner hyphens; `idn-email` takes internationalized host names.
* `hostname` and `idn-hostname` are host names as `Net.isHostname` and
  `Net.isIdnHostname` say.
* `ipv4` and `ipv6` are addresses; `uri`, `uri-reference`, `iri` and `iri-reference` are
  URI references, the first and third with a scheme. An IRI also allows the characters
  beyond ASCII that RFC 3987 lists, and the private-use characters in its query only.
* `json-pointer` and `relative-json-pointer` are JSON pointers; `uri-template` is literal
  text and `{...}` expressions whose variable names are lower-case letters, digits, `_` and
  escapes, with escapes written in lower-case hex; `regex` is a text that reads as a schema
  pattern (its translation succeeds, though the extended reading may still refuse it).
-/

namespace Covenant.Schema.Format

def isDigit (c : Char) : Bool := '0' ≤ c && c ≤ '9'

/-- Whether a character passes as a digit of a date or time: its code is `0x30` to `0x3F`. -/
def isLooseDigit (c : Char) : Bool := 0x30 ≤ c.toNat && c.toNat ≤ 0x3F

/-- The number two digits at a position stand for, each read by its low four bits. -/
def twoDigits? (cs : Array Char) (pos : Nat) : Option Nat :=
  match cs[pos]?, cs[pos + 1]? with
  | some a, some b =>
    if isLooseDigit a && isLooseDigit b then some ((a.toNat - 48) * 10 + (b.toNat - 48)) else none
  | _, _ => none

def isLeapYear (y : Nat) : Bool := y % 4 == 0 && (y % 100 != 0 || y % 400 == 0)

/-- The number of days in a month of a year. -/
def daysInMonth (year month : Nat) : Nat :=
  match month with
  | 2 => if isLeapYear year then 29 else 28
  | 4 | 6 | 9 | 11 => 30
  | _ => 31

/-- A full date `YYYY-MM-DD`. -/
def isDate (s : String) : Bool :=
  let cs := s.toList.toArray
  if s.utf8ByteSize != 10 then false
  else
    match twoDigits? cs 0, twoDigits? cs 2, twoDigits? cs 5, twoDigits? cs 8 with
    | some hi, some lo, some month, some day =>
      cs[4]? == some '-' && cs[7]? == some '-' && 1 ≤ month && month ≤ 12 && 1 ≤ day &&
        day ≤ daysInMonth (hi * 100 + lo) month
    | _, _, _, _ => false

/-- A time of day with an offset. A leap second must fall at 23:59 in UTC. -/
def isTime (s : String) : Bool :=
  let cs := s.toList.toArray
  let len := cs.size
  if s.utf8ByteSize != len || len < 9 || cs[2]? != some ':' || cs[5]? != some ':' then false
  else
    match twoDigits? cs 0, twoDigits? cs 3, twoDigits? cs 6 with
    | some hour, some minute, some second =>
      if hour > 23 || minute > 59 || second > 60 then false
      else
        let afterFraction : Option Nat :=
          if cs[8]? == some '.' then
            let digits := ((cs.toList.drop 9).takeWhile isDigit).length
            if digits == 0 then none else some (9 + digits)
          else some 8
        match afterFraction with
        | none => false
        | some i =>
          let leapOk (offsetMinutes : Int) : Bool :=
            if second != 60 then true
            else
              let utc := ((hour * 60 + minute : Nat) - offsetMinutes) % 1440
              utc == 23 * 60 + 59
          match cs[i]? with
          | some 'Z' | some 'z' => i + 1 == len && leapOk 0
          | some '+' | some '-' =>
            if len - i != 6 || cs[i + 3]? != some ':' then false
            else
              match twoDigits? cs (i + 1), twoDigits? cs (i + 4) with
              | some oh, some om =>
                if oh > 23 || om > 59 then false
                else
                  let offset : Int := (oh * 60 + om : Nat)
                  leapOk (if cs[i]? == some '+' then offset else -offset)
              | _, _ => false
          | _ => false
    | _, _, _ => false

/-- A date and a time joined by `T` (or `t`), at the first such letter. -/
def isDateTime (s : String) : Bool :=
  let cs := s.toList
  let date := cs.takeWhile fun c => c != 'T' && c != 't'
  if date.length == cs.length then false
  else isDate (String.ofList date) && isTime (String.ofList (cs.drop (date.length + 1)))

/-- Characters of an unquoted local part besides letters and digits. -/
def isAtomPunctuation (c : Char) : Bool :=
  "!#$%&'*+-/=?^_".toList.contains c || [96, 123, 124, 125, 126].contains c.toNat

def isAtomChar (c : Char) : Bool := Text.Unicode.isAlphanumeric c || isAtomPunctuation c

/-- The inside of a quoted local part: printable ASCII but `"` and `\\`, blanks, the
obsolete control characters, and `\\` followed by a printable character. -/
def isQuotedContent : List Char → Bool
  | [] => true
  | '\\' :: c :: rest => (0x21 ≤ c.toNat && c.toNat ≤ 0x7E) && isQuotedContent rest
  | ['\\'] => false
  | c :: rest =>
    let v := c.toNat
    (v == 32 || v == 9 || v == 33 || (35 ≤ v && v ≤ 91) || (93 ≤ v && v ≤ 126) ||
      (1 ≤ v && v ≤ 8) || v == 11 || v == 12 || (14 ≤ v && v ≤ 31) || v == 127) &&
      isQuotedContent rest

/-- The part of an address before `@`. -/
def isLocalPart (s : String) : Bool :=
  if s.isEmpty || s.utf8ByteSize > 64 then false
  else if s.startsWith "\"" && s.endsWith "\"" then
    s.length > 2 && isQuotedContent ((s.toList.drop 1).dropLast)
  else (s.splitOn ".").all fun atom => !atom.isEmpty && atom.all isAtomChar

/-- The shape of the part of an address after `@`: a literal in brackets of the characters
allowed there, or labels of letters and digits (by Unicode) with inner hyphens. -/
def isMailDomain (s : String) : Bool :=
  if s.isEmpty || s.utf8ByteSize > 254 then false
  else if s.startsWith "[" && s.endsWith "]" then
    ((s.toList.drop 1).dropLast).all fun c =>
      let v := c.toNat
      (0x21 ≤ v && v ≤ 0x5A) || (0x5E ≤ v && v ≤ 0x7E)
  else (s.splitOn ".").all fun label =>
    let cs := label.toList
    !cs.isEmpty && (cs.head?.map Text.Unicode.isAlphanumeric).getD false &&
      (cs.getLast?.map Text.Unicode.isAlphanumeric).getD false && label.utf8ByteSize ≤ 63 &&
      cs.all fun c => Text.Unicode.isAlphanumeric c || c == '-'

/-- The text without white space at either end. -/
def trimWhite (cs : List Char) : List Char :=
  ((cs.dropWhile Text.Unicode.isWhiteSpace).reverse.dropWhile Text.Unicode.isWhiteSpace).reverse

/-- The address of a text: after the last ` <` when there is one, where what follows (without
white space at the ends) must close with `>`. -/
def addressOf? (s : String) : Option String :=
  match (s.splitOn " <").reverse with
  | [] | [_] => some s
  | last :: _ =>
    let right := trimWhite last.toList
    if right.getLast? == some '>' then some (String.ofList right.dropLast) else none

/-- Whether the domain of an address names a host: a literal holds an IPv4 address, or
`IPv6:` and an IPv6 address; any other domain is a host name as `hostOk` says. -/
def domainNamesHost (hostOk : String → Bool) (domain : String) : Bool :=
  if domain.startsWith "[" && domain.endsWith "]" then
    let inner := String.ofList ((domain.toList.drop 1).dropLast)
    if inner.startsWith "IPv6:" then Net.isIpv6 (String.ofList (inner.toList.drop 5))
    else Net.isIpv4 inner
  else hostOk domain

/-- An e-mail address, perhaps written `text <address>`, whose domain names a host as
`hostOk` says. -/
def isEmail (hostOk : String → Bool) (s : String) : Bool :=
  match addressOf? s with
  | none => false
  | some a =>
    match (a.splitOn "@").reverse with
    | [] | [_] => false
    | domain :: before =>
      isLocalPart ("@".intercalate before.reverse) && isMailDomain domain &&
        domainNamesHost hostOk domain

/-- Whether a code point is a character RFC 3987 allows in an IRI beyond ASCII. -/
def isIriChar (n : Nat) : Bool :=
  (0xA0 ≤ n && n ≤ 0xD7FF) || (0xF900 ≤ n && n ≤ 0xFDCF) || (0xFDF0 ≤ n && n ≤ 0xFFEF) ||
    (0x10000 ≤ n && n ≤ 0xEFFFD && n % 0x10000 ≤ 0xFFFD && !(0xE0000 ≤ n && n < 0xE1000))

/-- Whether a code point is for private use, which an IRI allows in its query. -/
def isPrivateUse (n : Nat) : Bool :=
  (0xE000 ≤ n && n ≤ 0xF8FF) || (0xF0000 ≤ n && n ≤ 0xFFFFD) || (0x100000 ≤ n && n ≤ 0x10FFFD)

/-- An IRI written with ASCII for the parts that decide its shape: each character beyond
ASCII that the IRI may hold where it stands becomes `!`, which URI references allow in the
same places (names, paths, queries, fragments) and nowhere else (schemes, ports, addresses).
The query runs from the first `?` before the first `#`, up to that `#`. -/
def iriStandIn (s : String) : String :=
  let cs := s.toList
  let fragmentAt := cs.findIdx (· == '#')
  let queryAt := (cs.take fragmentAt).findIdx (· == '?')
  String.ofList (cs.zipIdx.map fun (c, i) =>
    let n := c.toNat
    if n < 0x80 then c
    else if isIriChar n || (isPrivateUse n && queryAt < i && i < fragmentAt) then '!'
    else c)

/-- A URI reference; `scheme` asks for a scheme, `wide` allows the characters of IRIs. -/
def isUriLike (scheme wide : Bool) (s : String) : Bool :=
  let text := if wide then iriStandIn s else s
  match Uri.Reference.parse text with
  | .ok r => !scheme || r.scheme.isSome
  | .error _ => false

/-- A JSON pointer: empty, or `/`-prefixed tokens where `~` is followed by `0` or `1`. -/
def isJsonPointer (s : String) : Bool :=
  let rec tildes : List Char → Bool
    | [] => true
    | '~' :: c :: rest => (c == '0' || c == '1') && tildes rest
    | ['~'] => false
    | _ :: rest => tildes rest
  (s.isEmpty || s.startsWith "/") && tildes s.toList

/-- A relative JSON pointer: a count without leading zero, then `#` or a JSON pointer. -/
def isRelativeJsonPointer (s : String) : Bool :=
  let cs := s.toList
  let digits := cs.takeWhile isDigit
  let rest := cs.drop digits.length
  !digits.isEmpty && (digits.length == 1 || digits.head? != some '0') &&
    (rest == ['#'] || isJsonPointer (String.ofList rest))

/-- Characters of a URI template variable name: lower-case letters, digits and `_`. -/
def isVarChar (c : Char) : Bool := ('a' ≤ c && c ≤ 'z') || isDigit c || c == '_'

/-- A hex digit as templates write them: a digit or a lower-case letter `a` to `f`. -/
def isLowerHex (c : Char) : Bool := isDigit c || ('a' ≤ c && c ≤ 'f')

/-- A variable name: name characters and percent escapes. -/
def isVarName : List Char → Bool
  | [] => true
  | '%' :: a :: b :: rest => isLowerHex a && isLowerHex b && isVarName rest
  | c :: rest => isVarChar c && isVarName rest

/-- One variable of an expression: a name, then perhaps a prefix length `:N` (one to four
digits, no leading zero) or `*`. -/
def isVarSpec (v : List Char) : Bool :=
  let name := v.takeWhile fun c => c != ':' && c != '*'
  let modifierOk := match v.drop name.length with
    | [] => true
    | ['*'] => true
    | ':' :: d :: ds => d != '0' && isDigit d && ds.length ≤ 3 && ds.all isDigit
    | _ => false
  !name.isEmpty && isVarName name && modifierOk

/-- The variables inside braces, separated by commas. -/
def isVarList (cs : List Char) : Bool :=
  ((String.ofList cs).splitOn ",").all fun p => isVarSpec p.toList

/-- A URI template: literal characters and `{...}` expressions. -/
def isUriTemplate (s : String) : Bool :=
  let rec go : Nat → List Char → Bool
    | 0, _ => true
    | _ + 1, [] => true
    | fuel + 1, c :: rest =>
      if c == '{' then
        let inner := rest.takeWhile (· != '}')
        if inner.length == rest.length then false
        else
          let body := match inner with
            | o :: more => if "+#./;?&=,!@|".toList.contains o then more else inner
            | [] => []
          isVarList body && go fuel (rest.drop (inner.length + 1))
      else if c == '%' then
        match rest with
        | a :: b :: more => isLowerHex a && isLowerHex b && go fuel more
        | _ => false
      else
        let v := c.toNat
        v > 0x20 && !([34, 39, 60, 62, 92, 94, 96, 124, 125].contains v) && go fuel rest
  go (s.length + 1) s.toList

/-- Whether a string has a format, under a draft; formats the draft does not check accept
every string. `validPattern` says whether a text reads as a schema pattern. -/
def holds (validPattern : String → Bool) (draft : Draft) (format text : String) : Bool :=
  match format with
  | "date-time" => isDateTime text
  | "date" => isDate text
  | "time" => isTime text
  | "email" => isEmail Net.isHostname text
  | "idn-email" => isEmail Net.isIdnHostname text
  | "hostname" => Net.isHostname text
  | "idn-hostname" => !draft.atLeast .draft7 || Net.isIdnHostname text
  | "ipv4" => Net.isIpv4 text
  | "ipv6" => Net.isIpv6 text
  | "iri" => !draft.atLeast .draft7 || isUriLike true true text
  | "iri-reference" => !draft.atLeast .draft7 || isUriLike false true text
  | "json-pointer" => !draft.atLeast .draft6 || isJsonPointer text
  | "relative-json-pointer" => !draft.atLeast .draft7 || isRelativeJsonPointer text
  | "regex" => validPattern text
  | "uri" => isUriLike true false text
  | "uri-reference" => !draft.atLeast .draft6 || isUriLike false false text
  | "uri-template" => !draft.atLeast .draft6 || isUriTemplate text
  | _ => true

end Covenant.Schema.Format
