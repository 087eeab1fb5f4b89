/-!
# Similar names

When a command line names an option or subcommand that does not exist, the names that are
close to it are offered instead. Closeness is the Jaro similarity of the two names: the
share of matching characters (a character matches an equal one at most half the longer
length away, less one), corrected for matches that appear in a different order. A name is
offered when its similarity is above `0.7`.

Similarities are computed in binary64 in a fixed order (the three shares added from the left,
then divided by three), as the threshold is met by rounding in some cases: `fenig` and
`config` share exactly seven tenths, which rounds just above `0.7`.
-/

namespace Covenant.Cli

/-- Whether a similarity is high enough for a name to be offered. -/
def isClose (score : Float) : Bool := score > 0.7

/-- Marks, for each character of `a`, the first unmarked equal character of `b` within the
window, and returns the marks of both sides. -/
def jaroMarks (a b : List Char) (window : Nat) : List Bool × List Bool :=
  let rec go : List Char → Nat → List Bool → List Bool → List Bool × List Bool
    | [], _, ma, mb => (ma.reverse, mb)
    | c :: rest, i, ma, mb =>
      let lo := i - window
      let hi := min b.length (i + window + 1)
      let hit := (List.range hi).find? fun j =>
        lo ≤ j && b.getD j ' ' == c && !(mb.getD j true)
      match hit with
      | some j => go rest (i + 1) (true :: ma) (mb.set j true)
      | none => go rest (i + 1) (false :: ma) mb
  go a 0 [] (List.replicate b.length false)

/-- The Jaro similarity of two names. -/
def jaro (x y : String) : Float :=
  let a := x.toList
  let b := y.toList
  if a.isEmpty && b.isEmpty then 1
  else if a.isEmpty || b.isEmpty then 0
  else
    let window := max a.length b.length / 2 - 1
    let (ma, mb) := jaroMarks a b window
    let left := (a.zip ma).filterMap fun (c, m) => if m then some c else none
    let right := (b.zip mb).filterMap fun (c, m) => if m then some c else none
    let m := left.length
    let t := ((left.zip right).filter fun (p, q) => p != q).length / 2
    if m == 0 then 0
    else
      (m.toFloat / a.length.toFloat + m.toFloat / b.length.toFloat +
        (m - t).toFloat / m.toFloat) / 3

/-- Inserts a candidate after every candidate whose score is not above its own. -/
def insertByScore (c : Float × String) : List (Float × String) → List (Float × String)
  | [] => [c]
  | d :: rest => if c.1 < d.1 then c :: d :: rest else d :: insertByScore c rest

/-- The names close to a word, least close first; among equally close names, the earlier
one comes first. -/
def similarNames (word : String) (names : List String) : List String :=
  let scored := (names.map fun n => (jaro word n, n)).filter fun c => isClose c.1
  (scored.foldl (fun acc c => insertByScore c acc) []).map (·.2)

/-- The closest name to a word, if any is close: the last of the similar names. -/
def closestName (word : String) (names : List String) : Option String :=
  (similarNames word names).getLast?

end Covenant.Cli
