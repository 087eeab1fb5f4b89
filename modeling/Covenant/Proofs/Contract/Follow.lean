import Covenant.Contract.Load
import Covenant.Proofs.Pointer.Escape
import Covenant.Proofs.Pointer.Index

/-!
# Following reference chains

`follow` dereferences a value's `$ref` at most `maxReferenceChain` times. `Chain` is the
sequence of dereferences on its own: the references met in turn, each resolving, and the value
and token path they reach. Every answer of `follow` is read off the chain from its value: the
first value without a reference when it comes within fewer than `maxReferenceChain`
references, the first reference that does not resolve, or the depth error once
`maxReferenceChain` references have been followed; a chain that comes back to a value it passed
is therefore cut off by the depth error (`follow_reference_chain`). The last of the references
followed is never looked past, so a chain of exactly `maxReferenceChain` references is rejected
although its last target holds none (`thirty_two_references_rejected`).
-/

namespace Covenant.Contract

/-- The error of a chain cut off after `maxReferenceChain` references, at the token path the
last of them led to. -/
def chainTooDeep (path : List String) : ContractError :=
  let joined := "/".intercalate path
  .unresolvedReference s!"{joined} (reference chain deeper than {maxReferenceChain})"

/-- A reference text designates a value of the document. -/
def Resolves (root : Json) (r : String) : Prop := ∃ t, resolveReference root r = .ok t

theorem resolveReference_error {root : Json} {r : String} {e : ContractError}
    (h : resolveReference root r = .error e) : e = .unresolvedReference r := by
  unfold resolveReference at h
  split at h
  · split at h
    · cases h
    · cases h
      rfl
  · cases h
    rfl

theorem not_resolves_iff {root : Json} {r : String} :
    ¬ Resolves root r ↔ resolveReference root r = .error (.unresolvedReference r) := by
  constructor
  · intro hno
    cases hres : resolveReference root r with
    | error e => rw [resolveReference_error hres]
    | ok t => exact absurd ⟨t, hres⟩ hno
  · rintro hres ⟨t, ht⟩
    rw [hres] at ht
    cases ht

/-- `Chain root v p rs w q`: from `v`, read at token path `p`, the references `rs` are met in
turn, each resolving, and lead to `w` at `q`; after a reference the path is the reference's
own tokens. -/
inductive Chain (root : Json) : Json → List String → List String → Json → List String → Prop
  | nil (v : Json) (p : List String) : Chain root v p [] v p
  | cons {v t w : Json} {p q : List String} {r : String} {rs : List String} :
      referenceOf v = some r → resolveReference root r = .ok t →
      Chain root t (Pointer.split r) rs w q → Chain root v p (r :: rs) w q

namespace Chain

variable {root : Json}

theorem append {u v w : Json} {p q s : List String} {rs ss : List String}
    (h₁ : Chain root u p rs v q) (h₂ : Chain root v q ss w s) :
    Chain root u p (rs ++ ss) w s := by
  induction h₁ with
  | nil => exact h₂
  | cons hr ht _ ih => exact .cons hr ht (ih h₂)

/-- After its first reference a chain no longer depends on the path it started from. -/
theorem restart {v w : Json} {p q : List String} {r : String} {rs : List String}
    (h : Chain root v p (r :: rs) w q) (p' : List String) : Chain root v p' (r :: rs) w q := by
  cases h with
  | cons hr ht hrest => exact .cons hr ht hrest

/-- Every first part of a chain is a chain. -/
theorem take {v w : Json} {p q : List String} {rs : List String} (h : Chain root v p rs w q) :
    ∀ k, ∃ w' q', Chain root v p (rs.take k) w' q' := by
  induction h with
  | nil v p => exact fun k => ⟨v, p, by simpa using Chain.nil v p⟩
  | cons hr ht _ ih =>
    intro k
    cases k with
    | zero => exact ⟨_, _, .nil _ _⟩
    | succ k =>
      obtain ⟨w', q', hk⟩ := ih k
      exact ⟨w', q', .cons hr ht hk⟩

end Chain

section Go

variable {root v t : Json} {p : List String} {r : String}

theorem go_zero (root v : Json) (p : List String) :
    follow.go root 0 v p = .error (chainTooDeep p) := rfl

theorem go_succ_of_none (hr : referenceOf v = none) (n : Nat) :
    follow.go root (n + 1) v p = .ok (v, p) := by
  simp [follow.go, hr]

theorem go_succ_of_ok (hr : referenceOf v = some r) (ht : resolveReference root r = .ok t)
    (n : Nat) : follow.go root (n + 1) v p = follow.go root n t (Pointer.split r) := by
  simp only [follow.go, hr, ht]
  rfl

theorem go_succ_of_error {e : ContractError} (hr : referenceOf v = some r)
    (he : resolveReference root r = .error e) (n : Nat) :
    follow.go root (n + 1) v p = .error e := by
  simp only [follow.go, hr, he]
  rfl

/-- Walking a chain of references spends one step of the budget on each. -/
theorem go_of_chain {w : Json} {q rs : List String} (h : Chain root v p rs w q) {n : Nat}
    (hn : rs.length ≤ n) : follow.go root n v p = follow.go root (n - rs.length) w q := by
  induction h generalizing n with
  | nil => simp
  | cons hr ht _ ih =>
    obtain ⟨m, rfl⟩ : ∃ m, n = m + 1 := ⟨n - 1, by simp at hn; omega⟩
    rw [go_succ_of_ok hr ht, ih (by simp at hn; omega)]
    simp

theorem go_eq_ok_iff {w : Json} {q : List String} (n : Nat) :
    follow.go root n v p = .ok (w, q) ↔
      ∃ rs, rs.length < n ∧ Chain root v p rs w q ∧ referenceOf w = none := by
  constructor
  · -- one reference at a time: the first value without one is the answer
    induction n generalizing v p with
    | zero => simp [go_zero]
    | succ n ih =>
      intro h
      cases hr : referenceOf v with
      | none =>
        rw [go_succ_of_none hr] at h
        cases h
        exact ⟨[], by simp, .nil _ _, hr⟩
      | some r =>
        cases ht : resolveReference root r with
        | error e => rw [go_succ_of_error hr ht] at h; cases h
        | ok t =>
          rw [go_succ_of_ok hr ht] at h
          obtain ⟨rs, hlen, hchain, hw⟩ := ih h
          exact ⟨r :: rs, by simp; omega, .cons hr ht hchain, hw⟩
  · rintro ⟨rs, hlen, hchain, hw⟩
    rw [go_of_chain hchain hlen.le]
    obtain ⟨m, hm⟩ : ∃ m, n - rs.length = m + 1 := ⟨n - rs.length - 1, by omega⟩
    rw [hm, go_succ_of_none hw]

theorem go_eq_error_iff {e : ContractError} (n : Nat) :
    follow.go root n v p = .error e ↔
      (∃ rs w q r, rs.length < n ∧ Chain root v p rs w q ∧ referenceOf w = some r ∧
        ¬ Resolves root r ∧ e = .unresolvedReference r) ∨
      (∃ rs w q, rs.length = n ∧ Chain root v p rs w q ∧ e = chainTooDeep q) := by
  constructor
  · induction n generalizing v p with
    | zero =>
      intro h
      rw [go_zero] at h
      cases h
      exact .inr ⟨[], v, p, rfl, .nil _ _, rfl⟩
    | succ n ih =>
      intro h
      cases hr : referenceOf v with
      | none => rw [go_succ_of_none hr] at h; cases h
      | some r =>
        cases ht : resolveReference root r with
        | error e' =>
          -- the first reference that does not resolve is reported
          rw [go_succ_of_error hr ht] at h
          cases h
          have he := resolveReference_error ht
          exact .inl ⟨[], v, p, r, by simp, .nil _ _, hr, not_resolves_iff.mpr (he ▸ ht), he⟩
        | ok t =>
          rw [go_succ_of_ok hr ht] at h
          rcases ih h with ⟨rs, w, q, r', hlen, hchain, hw, hno, he⟩ | ⟨rs, w, q, hlen, hchain, he⟩
          · exact .inl ⟨r :: rs, w, q, r', by simp; omega, .cons hr ht hchain, hw, hno, he⟩
          · exact .inr ⟨r :: rs, w, q, by simp; omega, .cons hr ht hchain, he⟩
  · rintro (⟨rs, w, q, r, hlen, hchain, hw, hno, rfl⟩ | ⟨rs, w, q, hlen, hchain, rfl⟩)
    · rw [go_of_chain hchain hlen.le]
      obtain ⟨m, hm⟩ : ∃ m, n - rs.length = m + 1 := ⟨n - rs.length - 1, by omega⟩
      rw [hm, go_succ_of_error hw (not_resolves_iff.mp hno)]
    · rw [go_of_chain hchain hlen.le, hlen, Nat.sub_self, go_zero]

/-- A chain that comes back to a value it passed never ends, so every budget runs out on it. -/
theorem go_of_cycle {u : Json} {q q' : List String} {cyc : List String}
    (hcyc : Chain root u q (r :: cyc) u q') (n : Nat) :
    ∃ q'', follow.go root n u q = .error (chainTooDeep q'') := by
  induction n using Nat.strong_induction_on generalizing q with
  | _ n ih =>
    by_cases hn : n < (r :: cyc).length
    · -- the budget ends inside the first round
      obtain ⟨w, q₀, hpart⟩ := hcyc.take n
      have hlen : ((r :: cyc).take n).length = n := by
        simp only [List.length_take, List.length_cons] at hn ⊢
        omega
      exact ⟨q₀, by rw [go_of_chain hpart hlen.le, hlen, Nat.sub_self, go_zero]⟩
    · -- a whole round brings the walk back to `u`, now at the cycle's own end path
      have hround : (r :: cyc).length ≤ n := by omega
      have hlt : n - (r :: cyc).length < n := by
        simp only [List.length_cons] at hround ⊢
        omega
      rw [go_of_chain hcyc hround]
      exact ih _ hlt (hcyc.restart q')

end Go

/-- `follow` answers from the chain of references that starts at its value. It returns the
first value without a reference, at the tokens of the last reference followed, when fewer than
`maxReferenceChain` references lead there; it reports the first reference that does not
resolve when it comes within that many; otherwise it fails with the depth error, naming the
path `maxReferenceChain` references lead to. A chain that returns to a value it passed is such a
chain: it ends in the depth error and never loops. -/
theorem follow_reference_chain (root v : Json) (p : List String) :
    (∀ w q, follow root v p = .ok (w, q) ↔
      ∃ rs, rs.length < maxReferenceChain ∧ Chain root v p rs w q ∧ referenceOf w = none) ∧
    (∀ e, follow root v p = .error e ↔
      (∃ rs w q r, rs.length < maxReferenceChain ∧ Chain root v p rs w q ∧
        referenceOf w = some r ∧ ¬ Resolves root r ∧ e = .unresolvedReference r) ∨
      (∃ rs w q, rs.length = maxReferenceChain ∧ Chain root v p rs w q ∧
        e = chainTooDeep q)) ∧
    (∀ rs u q r cyc q', Chain root v p rs u q → Chain root u q (r :: cyc) u q' →
      ∃ q'', follow root v p = .error (chainTooDeep q'')) := by
  refine ⟨fun w q => go_eq_ok_iff _, fun e => go_eq_error_iff _, ?_⟩
  intro rs u q r cyc q' hpre hcyc
  by_cases hlen : rs.length ≤ maxReferenceChain
  · -- the budget left after the lead-in runs out on the cycle
    obtain ⟨q'', hq⟩ := go_of_cycle hcyc (maxReferenceChain - rs.length)
    exact ⟨q'', by rw [follow, go_of_chain hpre hlen, hq]⟩
  · -- the lead-in alone is longer than the budget
    obtain ⟨w, q₀, hpart⟩ := hpre.take maxReferenceChain
    have hlen' : (rs.take maxReferenceChain).length = maxReferenceChain := by simp; omega
    exact ⟨q₀, by rw [follow, go_of_chain hpart hlen'.le, hlen', Nat.sub_self, go_zero]⟩

/-- The entry of a ladder: a reference to item `0` under `x`. Item `i` refers to item `i + 1`
until item `n`, which holds no reference. -/
def ladderStep (n i : Nat) : Json :=
  if i < n then .obj [("$ref", .str ("#" ++ Pointer.join ["x", toString (i + 1)]))] else .obj []

/-- The document `{"x": [ladderStep n 0, …, ladderStep n n]}`. -/
def ladder (n : Nat) : Json := .obj [("x", .arr ((List.range (n + 1)).map (ladderStep n)))]

/-- The reference to item `i` of a ladder. -/
def rung (i : Nat) : Json := .obj [("$ref", .str ("#" ++ Pointer.join ["x", toString i]))]

theorem resolveReference_hash_join {root v : Json} {tokens : List String}
    (h : Pointer.walk root tokens = some v) :
    resolveReference root ("#" ++ Pointer.join tokens) = .ok v := by
  simp [resolveReference, String.startsWith_string_iff, Pointer.resolve_join, h]

theorem referenceOf_rung (i : Nat) :
    referenceOf (rung i) = some ("#" ++ Pointer.join ["x", toString i]) := by
  simp [rung, referenceOf, Json.get?, Json.getStr?]

theorem resolveReference_rung {n i : Nat} (hi : i ≤ n) :
    resolveReference (ladder n) ("#" ++ Pointer.join ["x", toString i]) = .ok (ladderStep n i) := by
  apply resolveReference_hash_join
  have hi' : i < n + 1 := by omega
  simp only [Pointer.walk, ladder, Json.get?, List.find?_cons, beq_self_eq_true, Option.map_some,
    Option.bind_some, Pointer.parseIndex_toString, List.getElem?_map, List.getElem?_range hi']

/-- From item `n - k` of a ladder, `k` references lead to its last item. -/
theorem ladder_chain (n : Nat) (p : List String) :
    ∀ k ≤ n, ∃ rs q, rs.length = k ∧ Chain (ladder n) (ladderStep n (n - k)) p rs (ladderStep n n) q
  | 0, _ => ⟨[], p, rfl, by simpa using Chain.nil _ _⟩
  | k + 1, hk => by
    obtain ⟨rs, q, hlen, hchain⟩ := ladder_chain n (Pointer.split ("#" ++ Pointer.join ["x", toString (n - k)])) k (by omega)
    have hstep : ladderStep n (n - (k + 1)) = rung (n - (k + 1) + 1) := by
      simp [ladderStep, rung, show n - (k + 1) < n by omega]
    have hnext : n - (k + 1) + 1 = n - k := by omega
    refine ⟨("#" ++ Pointer.join ["x", toString (n - k)]) :: rs, q, by simp [hlen], ?_⟩
    rw [hstep, hnext]
    exact .cons (referenceOf_rung _) (resolveReference_rung (by omega)) hchain

/-- Thirty-two references in a row, the last leading to a value without one, are rejected with
the depth error: the loop follows the 32nd reference and gives up without looking at its
target. -/
theorem thirty_two_references_rejected :
    ∃ rs w q, rs.length = 32 ∧ Chain (ladder 31) (rung 0) [] rs w q ∧ referenceOf w = none ∧
      follow (ladder 31) (rung 0) [] = .error (chainTooDeep q) := by
  obtain ⟨rs, q, hlen, hchain⟩ := ladder_chain 31 (Pointer.split ("#" ++ Pointer.join ["x", toString (0 : Nat)])) 31 le_rfl
  have hfull : Chain (ladder 31) (rung 0) [] (_ :: rs) (ladderStep 31 31) q :=
    .cons (referenceOf_rung 0) (resolveReference_rung (by omega)) (by simpa using hchain)
  refine ⟨_, _, q, by simp [hlen], hfull, by simp [ladderStep, referenceOf, Json.get?], ?_⟩
  rw [follow, go_of_chain hfull (by simp [hlen, maxReferenceChain])]
  simp [hlen, maxReferenceChain, go_zero]

end Covenant.Contract
