import Covenant.Pattern.Parse

/-!
# Patterns: matching

Whether a pattern matches somewhere in a text. Positions count characters.

A pattern without back-references, atomic groups and possessive repetition is decided on sets
of positions: `Node.ends` gives every position a piece can end at from a set of starting
positions, so the answer does not depend on the order alternatives are tried in, and the work
is polynomial in the text. Look-around is decided the same way, by asking whether its body
ends anywhere (ahead) or ends here from some earlier position (behind).

The other patterns need the order: an atomic group keeps the first way its body matches, and a
back-reference needs what a group captured on the way taken. They are decided by trying the
alternatives in order with continuations (`Node.attempt`), each call spending one unit of
fuel, so the search is total.
-/

namespace Covenant.Pattern

open Covenant.Text.Unicode

/-- Whether a character counts as a word character for the assertions. -/
def wordAt (text : Array Char) (unicode : Bool) (i : Nat) : Bool :=
  match text[i]? with
  | some c => if unicode then isUnicodeWord c else isAsciiWord c
  | none => false

/-- Whether an assertion holds at a position. -/
def Assertion.holds (a : Assertion) (unicode : Bool) (text : Array Char) (p : Nat) : Bool :=
  let before := p > 0 && wordAt text unicode (p - 1)
  let after := wordAt text unicode p
  match a with
  | .textStart => p == 0
  | .textEnd => p == text.size
  | .lineStart => p == 0 || text[p - 1]? == some '\n'
  | .lineEnd => p == text.size || text[p]? == some '\n'
  | .wordBoundary => before != after
  | .notWordBoundary => before == after
  | .wordStart => !before && after
  | .wordEnd => before && !after
  | .wordStartHalf => !before
  | .wordEndHalf => !after

/-- Whether two characters are equal, or case variants of each other when `caseless`. -/
def sameChar (caseless : Bool) (a b : Char) : Bool :=
  a == b || (caseless && (caseVariants a).contains b)

/-- Whether the character at a position is taken by a one-character piece. -/
def Node.takesAt (node : Node) (text : Array Char) (p : Nat) : Bool :=
  match text[p]? with
  | none => false
  | some c =>
    match node with
    | .char d caseless => sameChar caseless d c
    | .dot newline => newline || c != '\n'
    | .set s caseless unicode => s.holds caseless unicode c
    | _ => false

/-- The union of two increasing lists of positions, increasing. -/
def unionSorted : List Nat → List Nat → List Nat
  | [], ys => ys
  | xs, [] => xs
  | x :: xs, y :: ys =>
    if x < y then x :: unionSorted xs (y :: ys)
    else if y < x then y :: unionSorted (x :: xs) ys
    else x :: unionSorted xs ys
termination_by xs ys => xs.length + ys.length

/-- Whether a pattern needs ordered search: it has a back-reference, an atomic group or a
possessive repetition. -/
def Node.needsOrder : Node → Bool
  | .backref _ _ => true
  | .atomic _ => true
  | .loop body _ _ _ possessive => possessive || body.needsOrder
  | .group _ body => body.needsOrder
  | .look _ _ body => body.needsOrder
  | .seq items => items.attach.any fun ⟨n, _⟩ => n.needsOrder
  | .alt items => items.attach.any fun ⟨n, _⟩ => n.needsOrder
  | _ => false

/-- The number of characters a pattern always spans, if that is fixed. -/
def Node.fixedLength : Node → Option Nat
  | .empty | .assert _ _ | .look _ _ _ => some 0
  | .char _ _ | .dot _ | .set _ _ _ => some 1
  | .group _ body | .atomic body => body.fixedLength
  | .backref _ _ => none
  | .seq items => items.attach.foldlM (fun acc ⟨n, _⟩ => (n.fixedLength).map (acc + ·)) 0
  | .alt [] => some 0
  | .alt (b :: bs) =>
    match b.fixedLength with
    | some l => if bs.attach.all fun ⟨n, _⟩ => n.fixedLength == some l then some l else none
    | none => none
  | .loop body least most _ _ =>
    match body.fixedLength with
    | some 0 => some 0
    | some l => if most == some least then some (l * least) else none
    | none => none

/-- Applies a step to a set until it has been applied `k` times, stopping early once the set
is empty or no longer changes. -/
def iterateSet (step : List Nat → List Nat) : Nat → List Nat → List Nat
  | 0, s => s
  | k + 1, s =>
    let next := step s
    if next.isEmpty || next == s then next else iterateSet step k next

/-- Collects every position reached by applying a step again and again, at most `k` more
times, from the frontier of positions not seen before; `seen` marks the positions collected,
and `acc` holds them in no particular order. -/
def gatherSet (step : List Nat → List Nat) : Nat → Array Bool → List Nat → List Nat → List Nat
  | 0, _, acc, _ => acc
  | k + 1, seen, acc, frontier =>
    let fresh := (step frontier).filter fun p => !seen.getD p false
    if fresh.isEmpty then acc
    else gatherSet step k (fresh.foldl (fun m p => m.setIfInBounds p true) seen) (fresh ++ acc) fresh

/-- Every position a pattern can end at, started from any of `starts` (sorted). -/
def Node.ends (text : Array Char) : Nat → Node → List Nat → List Nat
  | 0, _, _ => []
  | fuel + 1, node, starts =>
    match node with
    | .empty => starts
    | .char _ _ | .dot _ | .set _ _ _ =>
      starts.filterMap fun p => if node.takesAt text p then some (p + 1) else none
    | .assert a unicode => starts.filter (a.holds unicode text)
    | .group _ body | .atomic body => Node.ends text fuel body starts
    | .look true negated body =>
      starts.filter fun p => (Node.ends text fuel body [p]).isEmpty == negated
    | .look false negated body =>
      let endsHere (q p : Nat) := (Node.ends text fuel body [q]).contains p
      starts.filter fun p =>
        let found := match body.fixedLength with
          | some l => l ≤ p && endsHere (p - l) p
          | none => (List.range (p + 1)).any fun q => endsHere q p
        found != negated
    | .backref _ _ => []
    | .seq items => items.foldl (fun acc item => Node.ends text fuel item acc) starts
    | .alt branches => branches.foldl (fun acc b => unionSorted acc (Node.ends text fuel b starts)) []
    | .loop body least most _ _ =>
      let step := Node.ends text fuel body
      let bound := text.size + 1
      let mandatory := iterateSet step least starts
      let extra := match most with
        | some m => min (m - least) bound
        | none => bound
      let seen := mandatory.foldl (fun m p => m.setIfInBounds p true) (Array.replicate bound false)
      (gatherSet step extra seen mandatory mandatory).mergeSort

/-- What each group captured: a start and an end position, or nothing yet. -/
abbrev Captures := Array (Option (Nat × Nat))

/-- Whether the text at `p` repeats the text between `s` and `e`. -/
def repeatsAt (text : Array Char) (caseless : Bool) (s e p : Nat) : Bool :=
  p + (e - s) ≤ text.size &&
    (List.range (e - s)).all fun i =>
      match text[s + i]?, text[p + i]? with
      | some a, some b => sameChar caseless a b
      | _, _ => false

/-- The continuation that ends a search where it stands. -/
def finish (p : Nat) (caps : Captures) : Option (Nat × Captures) := some (p, caps)

/-- Tries a pattern at a position in order of preference, calling the continuation `k` with
each way it can end until `k` accepts one. -/
def Node.attempt (text : Array Char) : Nat → Node → Nat → Captures →
    (Nat → Captures → Option (Nat × Captures)) → Option (Nat × Captures)
  | 0, _, _, _, _ => none
  | fuel + 1, node, p, caps, k =>
    match node with
    | .empty => k p caps
    | .char _ _ | .dot _ | .set _ _ _ => if node.takesAt text p then k (p + 1) caps else none
    | .assert a unicode => if a.holds unicode text p then k p caps else none
    | .group none body => Node.attempt text fuel body p caps k
    | .group (some i) body =>
      Node.attempt text fuel body p caps fun q c => k q (c.set! i (some (p, q)))
    | .atomic body =>
      match Node.attempt text fuel body p caps finish with
      | some (q, c) => k q c
      | none => none
    | .look true negated body =>
      match Node.attempt text fuel body p caps finish with
      | some (_, c) => if negated then none else k p c
      | none => if negated then k p caps else none
    | .look false negated body =>
      let found := (List.range (p + 1)).reverse.findSome? fun q =>
        Node.attempt text fuel body q caps fun e c => if e == p then some (e, c) else none
      match found with
      | some (_, c) => if negated then none else k p c
      | none => if negated then k p caps else none
    | .backref i caseless =>
      match caps[i]? with
      | some (some (s, e)) => if repeatsAt text caseless s e p then k (p + (e - s)) caps else none
      | _ => none
    | .seq [] => k p caps
    | .seq (first :: rest) =>
      Node.attempt text fuel first p caps fun q c => Node.attempt text fuel (.seq rest) q c k
    | .alt [] => none
    | .alt (b :: bs) =>
      match Node.attempt text fuel b p caps k with
      | some r => some r
      | none => Node.attempt text fuel (.alt bs) p caps k
    | .loop body least most greedy possessive =>
      if possessive then
        match Node.attempt text fuel (.loop body least most greedy false) p caps finish with
        | some (q, c) => k q c
        | none => none
      else if least > 0 then
        Node.attempt text fuel body p caps fun q c =>
          Node.attempt text fuel (.loop body (least - 1) (most.map (· - 1)) greedy false) q c k
      else if most == some 0 then k p caps
      else
        let again : Option (Nat × Captures) :=
          Node.attempt text fuel body p caps fun q c =>
            if q == p then none
            else Node.attempt text fuel (.loop body 0 (most.map (· - 1)) greedy false) q c k
        if greedy then
          match again with
          | some r => some r
          | none => k p caps
        else
          match k p caps with
          | some r => some r
          | none => again

/-- The number of pieces of a pattern, counting nested ones. -/
def Node.size : Node → Nat
  | .group _ body | .atomic body | .look _ _ body | .loop body _ _ _ _ => body.size + 1
  | .seq items => items.attach.foldl (fun acc ⟨n, _⟩ => acc + n.size) 1
  | .alt items => items.attach.foldl (fun acc ⟨n, _⟩ => acc + n.size) 1
  | _ => 1

/-- An estimate of the number of states of the automaton a pattern compiles to: a state per
byte of a character, a few for a set or an assertion, two per capture, and the body of a
repetition once per copy it needs, with a branching state for each optional copy. -/
def Node.states : Node → Nat
  | .empty => 0
  | .char c _ => c.utf8Size
  | .dot _ | .set _ _ _ => 4
  | .assert _ _ | .backref _ _ => 1
  | .group _ body => body.states + 2
  | .look _ _ body | .atomic body => body.states + 1
  | .seq items => items.attach.foldl (fun acc ⟨n, _⟩ => acc + n.states) 0
  | .alt items => items.attach.foldl (fun acc ⟨n, _⟩ => acc + n.states + 1) 0
  | .loop body least most _ _ =>
    let b := body.states
    match most with
    | some m => b * least + (m - least) * (b + 1)
    | none => b * least + b + 1

/-- Whether a pattern with `groups` capturing groups matches somewhere in a text. -/
def Node.search (node : Node) (groups : Nat) (text : String) : Bool :=
  let chars := text.toList.toArray
  let fuel := (node.size + 2) * (chars.size + 2) * 4
  if node.needsOrder then
    let caps : Captures := Array.replicate (groups + 1) none
    (List.range (chars.size + 1)).any fun p => (Node.attempt chars fuel node p caps finish).isSome
  else
    !(Node.ends chars fuel node (List.range (chars.size + 1))).isEmpty

/-- Whether every look-behind of a pattern has a fixed length and every back-reference names
a group that exists. -/
def Node.wellFormed (groups : Nat) : Node → Bool
  | .look false _ body => body.fixedLength.isSome && body.wellFormed groups
  | .look true _ body | .group _ body | .atomic body | .loop body _ _ _ _ => body.wellFormed groups
  | .backref i _ => i ≤ groups
  | .seq items => items.attach.all fun ⟨n, _⟩ => n.wellFormed groups
  | .alt items => items.attach.all fun ⟨n, _⟩ => n.wellFormed groups
  | _ => true

end Covenant.Pattern
