import Covenant.Text.Unicode.Category
import Covenant.Text.Unicode.Binary

/-!
# Strings as messages quote them

Messages about a value quote strings in double quotes, escaping what would not read well:

* the quote, the backslash, tab, carriage return and line feed get their usual backslash
  escapes, and the null character is `\0`;
* a character that extends the grapheme before it (combining marks and the like) is written
  by its code point, `\u` and lower-case hex digits in braces, so it cannot merge with the
  quote or a neighbour;
* so is a character that does not print: controls, format characters, surrogates, private
  use, unassigned code points, and the separators other than the plain space.

Everything else is kept as it is.
-/

namespace Covenant.Text

open Covenant.Text.Unicode

/-- Whether a character prints: it is not a control, format, surrogate, private-use or
unassigned code point, and not a separator other than the space. -/
def isPrintable (c : Char) : Bool :=
  c == ' ' ||
    !([Category.Cc, .Cf, .Cs, .Co, .Cn, .Zl, .Zp, .Zs].contains (Category.of c))

/-- A character written by its code point: `\u`, then lower-case hex digits in braces. -/
def codePointEscape (c : Char) : String :=
  "\\u\x7b" ++ String.ofList (Nat.toDigits 16 c.toNat) ++ "\x7d"

/-- How one character of a quoted string is written. -/
def escapeForMessage (c : Char) : String :=
  match c with
  | '"' => "\\\""
  | '\\' => "\\\\"
  | '\n' => "\\n"
  | '\r' => "\\r"
  | '\t' => "\\t"
  | _ =>
    if c.toNat == 0 then "\\0"
    else if inBoundaries graphemeExtendSet c.toNat || !isPrintable c then codePointEscape c
    else c.toString

/-- A string in double quotes, escaped for a message. -/
def quoteForMessage (s : String) : String :=
  "\"" ++ String.join (s.toList.map escapeForMessage) ++ "\""

end Covenant.Text
