/-!
# Blank characters

The characters with the Unicode `White_Space` property, and trimming by them. Core's
`Char.isWhitespace` knows only the ASCII blanks; texts here may hold any character, so
trimming uses this table.
-/

namespace Covenant.Text

/-- The Unicode `White_Space` property. -/
def isBlank (c : Char) : Bool :=
  let n := c.toNat
  (9 ≤ n && n ≤ 13) || n == 32 || n == 0x85 || n == 0xA0 || n == 0x1680 ||
    (0x2000 ≤ n && n ≤ 0x200A) || n == 0x2028 || n == 0x2029 || n == 0x202F ||
    n == 0x205F || n == 0x3000

/-- The text without its leading blanks. -/
def trimStart (s : String) : String := String.ofList (s.toList.dropWhile isBlank)

/-- The text without its trailing blanks. -/
def trimEnd (s : String) : String := String.ofList (s.toList.reverse.dropWhile isBlank).reverse

/-- The text without leading and trailing blanks. -/
def trim (s : String) : String := trimEnd (trimStart s)

/-- The first character that is not blank. -/
def firstVisible (s : String) : Option Char := (s.toList.dropWhile isBlank).head?

/-- The lines of a text: split at line feeds, a carriage return just before a feed dropped,
and no empty last line after a final feed. -/
def lines (s : String) : List String :=
  let parts := s.splitOn "\n"
  let stripReturn (l : String) : String :=
    if l.endsWith "\r" then String.ofList l.toList.dropLast else l
  if s.isEmpty then []
  else if s.endsWith "\n" then parts.dropLast.map stripReturn
  else parts.dropLast.map stripReturn ++ [parts.getLast?.getD ""]

end Covenant.Text
