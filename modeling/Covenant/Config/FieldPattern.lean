import Covenant.Pattern.Parse

/-!
# Field value patterns

A log filter may restrict a span to field values; a value that is not a boolean or a number
is a regular expression, and a filter whose expression does not compile is refused. The
expressions are read in the strict dialect of patterns (`Covenant.Pattern`), with no
look-around and no back-references, and they are matched by a deterministic automaton, which
adds two limits:

* with Unicode off, no piece may match a byte beyond ASCII (a `.`, a negated or wide class, a
  `\x` escape above `7F`), since the values matched are text;
* a word boundary must be the ASCII one: the automaton cannot follow Unicode word boundaries.
-/

namespace Covenant.Config.FieldPattern

open Covenant.Pattern

/-- Why an expression is refused. -/
inductive Refusal where
  /-- The expression is malformed or can match bytes that are not text. -/
  | malformed
  /-- The expression asks for a Unicode word boundary. -/
  | wordBoundary

/-- What the logging library says about a refused expression. -/
def Refusal.message : Refusal → String
  | .malformed => "error building NFA"
  | .wordBoundary =>
    "unsupported regex feature for DFAs: cannot build DFAs for regexes with Unicode word " ++
      "boundaries; switch to ASCII word boundaries, or heuristically enable Unicode word " ++
      "boundaries or use a different regex engine"

/-- Whether an assertion is a word boundary of some kind. -/
def isWordAssertion : Assertion → Bool
  | .wordBoundary | .notWordBoundary | .wordStart | .wordEnd | .wordStartHalf | .wordEndHalf => true
  | _ => false

/-- Whether a pattern asks for a word boundary by Unicode. -/
def hasUnicodeBoundary : Node → Bool
  | .assert a unicode => unicode && isWordAssertion a
  | .group _ body | .atomic body | .look _ _ body | .loop body _ _ _ _ => hasUnicodeBoundary body
  | .seq items => items.attach.any fun ⟨n, _⟩ => hasUnicodeBoundary n
  | .alt items => items.attach.any fun ⟨n, _⟩ => hasUnicodeBoundary n
  | _ => false

/-- Why an expression is refused, if it is. -/
def refusal (pattern : String) : Option Refusal :=
  match Node.read .strict pattern with
  | .error _ => some .malformed
  | .ok (node, cur) =>
    if cur.bytes then some .malformed
    else if hasUnicodeBoundary node then some .wordBoundary
    else none

end Covenant.Config.FieldPattern
