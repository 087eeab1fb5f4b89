import Covenant.Pattern.Match

/-!
# Schema patterns

A schema's patterns are ECMA 262 expressions, in which the class abbreviations are ASCII:
`\d` is `[0-9]`, `\w` is `[A-Za-z0-9_]` and `\s` is a fixed list of blanks, and `\cJ` names
the control character of a letter. A pattern is compiled in four steps:

1. each `\c` followed by an ASCII letter is replaced by the control character of that letter;
2. the text is read in the strict dialect, which tells where the abbreviations stand;
3. if that succeeds, each abbreviation is written out as its bracket, and the text with them
   written out is the one messages show; a `\a` outside brackets makes the pattern invalid
   (the escape is not one of schema patterns). If reading stopped at a look-around or a
   back-reference, the text is kept as it is (and its abbreviations keep their Unicode
   meaning); any other fault makes the pattern invalid;
4. the text is read in the extended dialect, and its look-behinds must have a fixed length,
   its back-references must name groups that exist, no piece may match a byte beyond ASCII,
   and the automaton it compiles to must stay within a size limit.

The `regex` format asks only for the first three steps (`translates`).
-/

namespace Covenant.Pattern

/-- The blanks `\s` stands for in a schema pattern. -/
def schemaBlanks : List Char :=
  [' ', '\t', '\n', '\r', Char.ofNat 11, Char.ofNat 12, Char.ofNat 0xA0, Char.ofNat 0xFEFF,
    Char.ofNat 0x2003, Char.ofNat 0x2029]

/-- The bracket a class abbreviation is written out as. -/
def abbreviationBracket : Char → List Char
  | 'd' => "[0-9]".toList
  | 'D' => "[^0-9]".toList
  | 'w' => "[A-Za-z0-9_]".toList
  | 'W' => "[^A-Za-z0-9_]".toList
  | 's' => '[' :: schemaBlanks ++ [']']
  | 'S' => '[' :: '^' :: schemaBlanks ++ [']']
  | c => ['\\', c]

/-- Replaces each `\c` followed by an ASCII letter by the control character of the letter,
scanning from the left. -/
def replaceControlLetters : List Char → List Char
  | '\\' :: 'c' :: l :: rest =>
    if ('A' ≤ l && l ≤ 'Z') || ('a' ≤ l && l ≤ 'z') then
      Char.ofNat (l.toUpper.toNat - 64) :: replaceControlLetters rest
    else '\\' :: replaceControlLetters ('c' :: l :: rest)
  | c :: rest => c :: replaceControlLetters rest
  | [] => []

/-- Writes out the abbreviations whose backslashes stand at the marked positions. -/
def writeOut (text : String) (marks : List Nat) : String :=
  let rec go : List Char → Nat → List Char
    | [], _ => []
    | [c], _ => [c]
    | c :: d :: rest, i =>
      if marks.contains i then abbreviationBracket d ++ go rest (i + 2)
      else c :: go (d :: rest) (i + 1)
  String.ofList (go text.toList 0)

/-- A compiled schema pattern: the text messages show, and the tree that matches. -/
structure Compiled where
  shown : String
  node : Node
  groups : Nat

/-- The most states the automaton of a pattern may have: ten mebibytes of states of 32
bytes. -/
def stateLimit : Nat := 10 * 1024 * 1024 / 32

/-- Reads a text in the extended dialect and checks its look-behinds, its back-references and
the size of its automaton. -/
def Compiled.ofExtended? (text : String) : Option Compiled :=
  match Node.read .extended text with
  | .ok (node, cur) =>
    if node.wellFormed cur.groups && !cur.bytes && node.states ≤ stateLimit then
      some ⟨text, node, cur.groups⟩
    else none
  | .error _ => none

/-- The text a schema pattern is read as in the extended dialect, after the first three steps,
or `none` when they refuse it. -/
def translate? (written : String) : Option String :=
  let text := String.ofList (replaceControlLetters written.toList)
  match Node.read .strict text with
  | .ok (_, cur) =>
    if cur.bell then none else some (if cur.marks.isEmpty then text else writeOut text cur.marks)
  | .error .needsExtended => some text
  | .error .invalid => none

/-- Whether a text passes the first three steps: what the `regex` format asks. -/
def translates (written : String) : Bool := (translate? written).isSome

/-- Compiles a schema pattern, or `none` when it is not a valid pattern. -/
def Compiled.ofText? (written : String) : Option Compiled :=
  (translate? written).bind Compiled.ofExtended?

/-- Whether a compiled pattern matches somewhere in a text. -/
def Compiled.matches (c : Compiled) (text : String) : Bool := c.node.search c.groups text

end Covenant.Pattern
