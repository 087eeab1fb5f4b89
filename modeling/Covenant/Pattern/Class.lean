import Covenant.Pattern.Syntax
import Covenant.Text.Unicode.Case
import Covenant.Text.Unicode.Property

/-!
# Patterns: which characters a set holds

Membership in a `CharSet`, decided for one character. The abbreviated classes `\d`, `\s`
and `\w` are read by Unicode (decimal digits, white space, and letters, marks, decimal digits
and connector punctuation) unless Unicode mode is off, when they are their ASCII ranges.

Under case-insensitive matching a bracketed set first takes in every case variant of its
members, and only then is negated, so `(?i)[^a]` refuses both `a` and `A`.
-/

namespace Covenant.Pattern

open Covenant.Text.Unicode

/-- Word characters by Unicode. -/
def isUnicodeWord (c : Char) : Bool :=
  let g := Category.of c
  isAlphabetic c || g.major == 'M' || g == .Nd || g == .Pc || c.toNat == 0x200C || c.toNat == 0x200D

/-- Word characters by ASCII. -/
def isAsciiWord (c : Char) : Bool :=
  within c 48 57 || within c 65 90 || within c 97 122 || c == '_'

/-- Whether a character belongs to an abbreviated class. -/
def Shorthand.holds (unicode : Bool) : Shorthand → Char → Bool
  | .digit, c => if unicode then Category.of c == .Nd else within c 48 57
  | .space, c => if unicode then isWhiteSpace c else within c 9 13 || c == ' '
  | .word, c => if unicode then isUnicodeWord c else isAsciiWord c

/-- Whether a character has a property. -/
def Property.holds : Property → Char → Bool
  | .categories cs, c => cs.contains (Category.of c)
  | .script name, c => scriptOf c == name
  | .scriptExtension name, c => (scriptExtensionsOf c).contains name
  | .binary set, c => inBoundaries set c.toNat
  | .graphemeBreak v, c => runValue graphemeBreakRuns c.toNat == v
  | .wordBreak v, c => runValue wordBreakRuns c.toNat == v
  | .sentenceBreak v, c => runValue sentenceBreakRuns c.toNat == v
  | .age v, c =>
    let a := runValue ageRuns c.toNat
    a != 0 && a ≤ v
  | .any, _ => true
  | .ascii, c => c.toNat < 128
  | .assigned, c => Category.of c != .Cn

/-- Whether a character belongs to a named ASCII class; `none` for an unknown name. -/
def asciiClass? (name : String) (c : Char) : Option Bool :=
  let n := c.toNat
  match name with
  | "alnum" => some (within c 48 57 || within c 65 90 || within c 97 122)
  | "alpha" => some (within c 65 90 || within c 97 122)
  | "ascii" => some (n < 128)
  | "blank" => some (n == 9 || n == 32)
  | "cntrl" => some (n < 32 || n == 127)
  | "digit" => some (within c 48 57)
  | "graph" => some (within c 33 126)
  | "lower" => some (within c 97 122)
  | "print" => some (within c 32 126)
  | "punct" => some (within c 33 47 || within c 58 64 || within c 91 96 || within c 123 126)
  | "space" => some (within c 9 13 || n == 32)
  | "upper" => some (within c 65 90)
  | "word" => some (isAsciiWord c)
  | "xdigit" => some (within c 48 57 || within c 65 70 || within c 97 102)
  | _ => none

/-- A test on characters widened to case variants when `caseless` is set. -/
def folded (caseless : Bool) (test : Char → Bool) (c : Char) : Bool :=
  if caseless then (caseVariants c).any test else test c

mutual
/-- Whether a set holds a character. Under `caseless` each bracketed level, each property and
each operand of a set operation takes in the case variants of its members before it is
negated or combined; the abbreviated classes are closed under case already. -/
def CharSet.holds (caseless unicode : Bool) : CharSet → Char → Bool
  | .single d, c => c == d
  | .range lo hi, c => lo ≤ c && c ≤ hi
  | .shorthand k neg, c => neg != k.holds unicode c
  | .property p neg, c => neg != folded caseless p.holds c
  | .ascii name neg, c => neg != folded caseless (fun d => (asciiClass? name d).getD false) c
  | .union items, c => CharSet.anyHolds caseless unicode items c
  | .bracket neg body, c => neg != folded caseless (CharSet.holds caseless unicode body) c
  | .combine op lhs rhs, c =>
    let a := folded caseless (CharSet.holds caseless unicode lhs) c
    let b := folded caseless (CharSet.holds caseless unicode rhs) c
    match op with
    | .inter => a && b
    | .diff => a && !b
    | .symDiff => a != b

/-- Whether some set of a list holds a character. -/
def CharSet.anyHolds (caseless unicode : Bool) : List CharSet → Char → Bool
  | [], _ => false
  | s :: rest, c => CharSet.holds caseless unicode s c || CharSet.anyHolds caseless unicode rest c
end

end Covenant.Pattern
