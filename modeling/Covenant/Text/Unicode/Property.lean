import Covenant.Text.Unicode.Category
import Covenant.Text.Unicode.Binary

/-!
# Character properties

The binary properties names and patterns use most: white space, alphabetic, upper and lower
case, read off their tables, and alphanumeric (alphabetic or numeric).
-/

namespace Covenant.Text.Unicode

/-- Whether a code point lies in `lo ..= hi`. -/
def within (c : Char) (lo hi : Nat) : Bool := lo ≤ c.toNat && c.toNat ≤ hi

/-- White space by Unicode. -/
def isWhiteSpace (c : Char) : Bool := inBoundaries whiteSpaceSet c.toNat

/-- Alphabetic characters: letters, letter numbers and the marks and symbols that behave
as letters. -/
def isAlphabetic (c : Char) : Bool := inBoundaries alphabeticSet c.toNat

/-- Upper case characters. -/
def isUppercase (c : Char) : Bool := inBoundaries uppercaseSet c.toNat

/-- Lower case characters. -/
def isLowercase (c : Char) : Bool := inBoundaries lowercaseSet c.toNat

/-- Alphabetic or numeric characters. -/
def isAlphanumeric (c : Char) : Bool := isAlphabetic c || (Category.of c).major == 'N'

end Covenant.Text.Unicode
