import Covenant.Text.Unicode.Mapping
import Covenant.Text.Unicode.Bidi
import Covenant.Text.Unicode.Category
import Covenant.Text.Unicode.Script
import Covenant.Text.Punycode

/-!
# Host names

A host name is a sequence of labels joined by dots. `isHostname` takes ASCII names: every
label is one to 63 letters, digits and hyphens, not starting or ending with a hyphen, and the
whole is at most 253 long. There is no empty label, so neither a leading nor a trailing dot.

`isIdnHostname` takes internationalized names. Each character is first mapped (upper case to
lower case, compatibility forms to plain ones, the ideographic full stops to `.`, some
characters dropped, some refused). Each label is then read as a Unicode label, or decoded
from Punycode when it starts with `xn--`, and must pass these tests:

* it is not empty, does not start or end with `-`, and has no `--` in its third and fourth
  places;
* it does not start with a combining mark, and its ASCII characters are letters, digits and
  hyphens;
* a zero-width joiner follows a virama; a zero-width non-joiner follows a virama or stands
  between a character joining to the right and one joining to the left;
* the characters with a context rule stand in their context: a middle dot between two `l`,
  a Greek numeral sign before a Greek character, a Hebrew geresh or gershayim after a Hebrew
  character, a katakana middle dot in a label with Hiragana, Katakana or Han, and the two
  kinds of Arabic-Indic digits not mixed;
* it holds none of the characters refused outright: the tatweel, the NKo lajanyalan, the
  Hangul tone marks and the vertical kana repeat marks;
* when some label holds a right-to-left character or an Arabic-Indic digit, every label
  follows the bidirectional rule: a label starts with a left-to-right or right-to-left
  character, holds only characters that fit its direction, ends (before any marks) with a
  character of its direction or a digit, and a right-to-left label does not mix European and
  Arabic-Indic digits.

Last, the ASCII form of the name (each label beyond ASCII written as `xn--` and its
Punycode) must be an ASCII host name as above.
-/

namespace Covenant.Net

open Covenant.Text.Unicode
open Covenant.Text

/-- Whether a character is an ASCII letter or digit. -/
def isAsciiAlphanumeric (c : Char) : Bool :=
  ('a' ≤ c && c ≤ 'z') || ('A' ≤ c && c ≤ 'Z') || ('0' ≤ c && c ≤ '9')

/-- Whether a label of an ASCII host name is well formed. -/
def isHostLabel (label : List Char) : Bool :=
  !label.isEmpty && label.length ≤ 63 && label.head? != some '-' && label.getLast? != some '-' &&
    label.all fun c => isAsciiAlphanumeric c || c == '-'

/-- Splits a list of characters at every dot. -/
def splitDots (cs : List Char) : List (List Char) :=
  (String.ofList cs).splitOn "." |>.map String.toList

/-- An ASCII host name. -/
def isHostname (s : String) : Bool :=
  !s.isEmpty && s.utf8ByteSize ≤ 253 && (splitDots s.toList).all isHostLabel

namespace Idna

/-- The mapped form of a name, or `none` when it holds a refused character. -/
def mapName : List Char → Option (List Char)
  | [] => some []
  | c :: rest =>
    match Status.of c, mapName rest with
    | _, none => none
    | .valid, some r => some (c :: r)
    | .deviation, some r => some (c :: r)
    | .mapped into, some r => some (into ++ r)
    | .ignored, some r => some r
    | .disallowed, some _ => none

/-- The characters refused in every label whatever their status in the mapping. -/
def refused : List Nat := [0x0640, 0x07FA, 0x302E, 0x302F, 0x3031, 0x3032, 0x3033, 0x3034, 0x3035, 0x303B]

/-- Whether a label's hyphens are allowed: none first or last, and not both the third and
the fourth character. -/
def hyphensOk (label : List Char) : Bool :=
  label.head? != some '-' && label.getLast? != some '-' &&
    !(label[2]? == some '-' && label[3]? == some '-')

/-- Whether the ASCII characters of a label are letters, digits and hyphens. -/
def asciiOk (label : List Char) : Bool :=
  label.all fun c => c.toNat ≥ 0x80 || ('a' ≤ c && c ≤ 'z') || ('0' ≤ c && c ≤ '9') || c == '-'

/-- Whether the first character with a joining type other than transparent, going through
`cs`, has one of the `wanted` types. -/
def joinsThrough (wanted : List JoiningType) : List Char → Bool
  | [] => false
  | c :: rest =>
    let t := JoiningType.of c
    if t == .transparent then joinsThrough wanted rest else wanted.contains t

/-- Whether the joiner at position `i` of a label stands where it may. -/
def joinerOk (label : Array Char) (i : Nat) (c : Char) : Bool :=
  let afterVirama := i > 0 && ((label[i - 1]?).map isVirama).getD false
  if c.toNat == 0x200D then afterVirama
  else if c.toNat == 0x200C then
    afterVirama ||
      (joinsThrough [.left, .dual] (label.toList.take i).reverse &&
        joinsThrough [.right, .dual] (label.toList.drop (i + 1)))
  else true

/-- Whether a character with a context rule stands in its context at position `i`. -/
def contextOk (label : Array Char) (i : Nat) (c : Char) : Bool :=
  let before := if i > 0 then label[i - 1]? else none
  let after := label[i + 1]?
  match c.toNat with
  | 0x00B7 => before == some 'l' && after == some 'l'
  | 0x0375 => (after.map fun d => scriptOf d == "Greek").getD false
  | 0x05F3 | 0x05F4 => (before.map fun d => scriptOf d == "Hebrew").getD false
  | 0x30FB => label.any fun d => ["Hiragana", "Katakana", "Han"].contains (scriptOf d)
  | n =>
    if 0x0660 ≤ n && n ≤ 0x0669 then !label.any fun d => 0x06F0 ≤ d.toNat && d.toNat ≤ 0x06F9
    else if 0x06F0 ≤ n && n ≤ 0x06F9 then !label.any fun d => 0x0660 ≤ d.toNat && d.toNat ≤ 0x0669
    else true

/-- Whether a Unicode label passes the tests of a label apart from direction. -/
def labelOk (label : List Char) : Bool :=
  let arr := label.toArray
  let indexed := label.zipIdx
  !label.isEmpty && hyphensOk label && asciiOk label &&
    ((label.head?.map fun c => (Category.of c).major != 'M').getD true) &&
    !label.any (fun c => refused.contains c.toNat) &&
    indexed.all (fun (c, i) => joinerOk arr i c && contextOk arr i c)

/-- Whether a character is right to left or an Arabic-Indic digit: a name with one follows
the bidirectional rule. -/
def isRightToLeftLike (c : Char) : Bool :=
  let b := BidiClass.of c
  b == .R || b == .AL || b == .AN

/-- The last class of a label that is not a mark taking its neighbour's direction. -/
def lastStrongClass (label : List Char) : Option BidiClass :=
  ((label.map BidiClass.of).reverse.dropWhile (· == .NSM)).head?

/-- Whether a label follows the bidirectional rule. -/
def bidiOk (label : List Char) : Bool :=
  match label with
  | [] => true
  | first :: rest =>
    match BidiClass.of first with
    | .L =>
      rest.all (fun c => [BidiClass.L, .EN, .ES, .CS, .ET, .ON, .BN, .NSM].contains (BidiClass.of c)) &&
        (match lastStrongClass label with
         | some b => b == .L || b == .EN
         | none => true)
    | .R | .AL =>
      let classes := rest.map BidiClass.of
      classes.all (fun b => [BidiClass.R, .AL, .AN, .EN, .ES, .CS, .ET, .ON, .BN, .NSM].contains b) &&
        (match lastStrongClass label with
         | some b => b == .R || b == .AL || b == .EN || b == .AN
         | none => false) &&
        !(classes.contains .EN && classes.contains .AN)
    | _ => false

/-- Whether every character of a decoded label is one the mapping keeps as it is. -/
def isMappedForm (label : List Char) : Bool :=
  label.all fun c => match Status.of c with
    | .valid | .deviation => true
    | _ => false

/-- A label as read: its Unicode form and its ASCII form, or `none` when a label written in
Punycode does not decode to a label beyond ASCII in mapped form. -/
def readLabel (label : List Char) : Option (List Char × List Char) :=
  if label.take 4 == ['x', 'n', '-', '-'] then
    if label.any (·.toNat ≥ 0x80) then none
    else match Punycode.decode (label.drop 4) with
      | some u =>
        if u.isEmpty || u.all (·.toNat < 0x80) || !isMappedForm u then none else some (u, label)
      | none => none
  else if label.all (·.toNat < 0x80) then some (label, label)
  else some (label, ['x', 'n', '-', '-'] ++ Punycode.encode label)

end Idna

open Idna in
/-- An internationalized host name. -/
def isIdnHostname (s : String) : Bool :=
  match mapName s.toList with
  | none => false
  | some mapped =>
    match (splitDots mapped).mapM readLabel with
    | none => false
    | some labels =>
      let unicode := labels.map (·.1)
      let ascii := String.intercalate "." (labels.map fun l => String.ofList l.2)
      unicode.all labelOk &&
        (!(unicode.any fun l => l.any isRightToLeftLike) || unicode.all bidiOk) &&
        isHostname ascii

end Covenant.Net
