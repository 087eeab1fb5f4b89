import Mathlib.Data.List.Nodup
import Covenant.Contract.Load

/-!
# Names of hoisted references

`hoist` gives a reference met again its name under `$defs`: the one it already has, or the
last token of the reference made unique with a numeric suffix. The names tried are distinct
(`candidate_inj`), so among the first `n + 1` of them one is free of the `n` names taken
(`exists_free_candidate`), and `pick` finds a free one (`pick_free`). Distinct references
therefore keep distinct names (`Hoisted.Distinct.hoist`).
-/

namespace Covenant.Contract

/-- The `k`-th name tried for a base: the base itself, then the base with `k` appended. -/
def candidate (base : String) (k : Nat) : String := if k = 1 then base else s!"{base}{k}"

theorem toString_nat_injective {a b : Nat} (h : toString a = toString b) : a = b := by
  have hdigits : Nat.toDigits 10 a = Nat.toDigits 10 b := by
    simpa [Nat.toString_eq_ofList_toDigits] using congrArg String.toList h
  calc a = Nat.ofDigitChars 10 (Nat.toDigits 10 a) 0 := (@Nat.ofDigitChars_ten_toDigits a).symm
    _ = Nat.ofDigitChars 10 (Nat.toDigits 10 b) 0 := by rw [hdigits]
    _ = b := Nat.ofDigitChars_ten_toDigits

theorem base_ne_candidate (base : String) {k : Nat} (hk : k ≠ 1) : base ≠ candidate base k := by
  intro h
  have hlen := congrArg String.length h
  have hpos : 0 < (toString k).length := by
    rw [Nat.toString_eq_repr]
    exact Nat.length_repr_pos
  simp only [candidate, hk, if_false, String.length_append] at hlen
  change base.length = base.length + (toString k).length at hlen
  omega

theorem candidate_inj (base : String) {j k : Nat} (h : candidate base j = candidate base k) :
    j = k := by
  by_cases hj : j = 1
  · by_cases hk : k = 1
    · rw [hj, hk]
    · exact absurd (by simpa [candidate, hj] using h) (base_ne_candidate base hk)
  · by_cases hk : k = 1
    · exact absurd (by simpa [candidate, hk] using h.symm) (base_ne_candidate base hj)
    · simp only [candidate, hj, hk, if_false] at h
      exact toString_nat_injective ((String.append_right_inj _).mp h)

/-- Of the names `1, …, n + 1` tried, one is not among `n` names taken. -/
theorem exists_free_candidate (base : String) (names : List String) :
    ∃ k, 1 ≤ k ∧ k < names.length + 2 ∧ candidate base k ∉ names := by
  by_contra hall
  simp only [not_exists, not_and, not_not] at hall
  have hnodup : ((List.range' 1 (names.length + 1)).map (candidate base)).Nodup :=
    List.Nodup.map_on (fun j _ k _ h => candidate_inj base h) List.nodup_range'
  have hsub : (List.range' 1 (names.length + 1)).map (candidate base) ⊆ names := by
    intro n hn
    obtain ⟨k, hk, rfl⟩ := List.mem_map.mp hn
    obtain ⟨h1, h2⟩ := List.mem_range'_1.mp hk
    exact hall k h1 (by omega)
  have hle := hnodup.length_le_of_subset hsub
  simp only [List.length_map, List.length_range'] at hle
  omega

theorem pick_succ (base : String) (taken : String → Bool) (fuel suffix : Nat) :
    hoist.pick base taken (fuel + 1) suffix =
      if taken (candidate base suffix) then hoist.pick base taken fuel (suffix + 1)
      else candidate base suffix :=
  hoist.pick.eq_2 base taken suffix fuel

/-- `pick` returns a free name whenever one of those it tries is free. -/
theorem pick_free (base : String) (taken : String → Bool) (fuel suffix : Nat)
    (hfree : ∃ k, suffix ≤ k ∧ k < suffix + fuel ∧ taken (candidate base k) = false) :
    taken (hoist.pick base taken fuel suffix) = false := by
  induction fuel generalizing suffix with
  | zero =>
    obtain ⟨k, h1, h2, -⟩ := hfree
    omega
  | succ fuel ih =>
    rw [pick_succ]
    by_cases htaken : taken (candidate base suffix) = true
    · rw [if_pos htaken]
      obtain ⟨k, h1, h2, hk⟩ := hfree
      have hne : k ≠ suffix := fun h => by simp [h, htaken] at hk
      exact ih (suffix + 1) ⟨k, by omega, by omega, hk⟩
    · rw [if_neg htaken]
      simpa using htaken

/-- Hoisted references are distinct, and so are their names. -/
structure Hoisted.Distinct (hoisted : Hoisted) : Prop where
  refs : (hoisted.map Prod.fst).Nodup
  names : (hoisted.map Prod.snd).Nodup

section Hoist

variable {hoisted : Hoisted} {reference : String}

theorem any_snd_eq_false {name : String} :
    hoisted.any (·.2 == name) = false ↔ name ∉ hoisted.map Prod.snd := by
  simp only [List.any_eq_false, beq_iff_eq, List.mem_map, not_exists, not_and]

theorem hoist_of_find {e : String × String} (hfind : hoisted.find? (·.1 == reference) = some e) :
    hoist hoisted reference = (e.2, hoisted) := by
  simp [hoist, hfind]

/-- A reference met for the first time gets a name no other reference has. -/
theorem hoist_of_find_none (hnone : hoisted.find? (·.1 == reference) = none) :
    (hoist hoisted reference).1 ∉ hoisted.map Prod.snd ∧
      (hoist hoisted reference).2 = hoisted ++ [(reference, (hoist hoisted reference).1)] := by
  let base := (Pointer.split reference).getLast?.getD "root"
  let taken (n : String) : Bool := hoisted.any (·.2 == n)
  have hname : (hoist hoisted reference).1 = hoist.pick base taken (hoisted.length + 1) 1 := by
    simp [hoist, hnone, base, taken]
  have hfree : taken (hoist.pick base taken (hoisted.length + 1) 1) = false := by
    apply pick_free
    obtain ⟨k, h1, h2, hk⟩ := exists_free_candidate base (hoisted.map Prod.snd)
    refine ⟨k, h1, by simp only [List.length_map] at h2; omega, ?_⟩
    exact any_snd_eq_false.mpr hk
  refine ⟨?_, by simp [hoist, hnone]⟩
  rw [hname]
  exact any_snd_eq_false.mp hfree

theorem hoist_extends : hoisted <+: (hoist hoisted reference).2 := by
  cases hfind : hoisted.find? (·.1 == reference) with
  | some e => exact (hoist_of_find hfind) ▸ List.prefix_refl hoisted
  | none => rw [(hoist_of_find_none hfind).2]; exact List.prefix_append _ _

theorem mem_hoist : (reference, (hoist hoisted reference).1) ∈ (hoist hoisted reference).2 := by
  cases hfind : hoisted.find? (·.1 == reference) with
  | some e =>
    have hmem := List.mem_of_find?_eq_some hfind
    have hkey : e.1 = reference := by simpa using List.find?_some hfind
    rw [hoist_of_find hfind]
    simpa [← hkey] using hmem
  | none => rw [(hoist_of_find_none hfind).2]; simp

theorem mem_of_mem_hoist {e : String × String} (he : e ∈ (hoist hoisted reference).2) :
    e ∈ hoisted ∨ e = (reference, (hoist hoisted reference).1) := by
  cases hfind : hoisted.find? (·.1 == reference) with
  | some e' => rw [hoist_of_find hfind] at he; exact .inl he
  | none =>
    rw [(hoist_of_find_none hfind).2] at he
    simpa using he

/-- Hoisting keeps references and names distinct. -/
theorem Hoisted.Distinct.hoist (hd : Hoisted.Distinct hoisted) :
    Hoisted.Distinct (Contract.hoist hoisted reference).2 := by
  cases hfind : hoisted.find? (·.1 == reference) with
  | some e => rw [hoist_of_find hfind]; exact hd
  | none =>
    obtain ⟨hfresh, heq⟩ := hoist_of_find_none hfind
    have hnew : reference ∉ hoisted.map Prod.fst := by
      intro hmem
      obtain ⟨e, he, hkey⟩ := List.mem_map.mp hmem
      exact List.find?_eq_none.mp hfind e he (by simp [hkey])
    rw [heq]
    constructor
    · rw [List.map_append, List.map_singleton]
      exact List.nodup_append.mpr ⟨hd.refs, List.nodup_singleton _,
        fun a ha b hb h => hnew (by rw [h, List.mem_singleton.mp hb] at ha; exact ha)⟩
    · rw [List.map_append, List.map_singleton]
      exact List.nodup_append.mpr ⟨hd.names, List.nodup_singleton _,
        fun a ha b hb h => hfresh (by rw [h, List.mem_singleton.mp hb] at ha; exact ha)⟩

end Hoist

end Covenant.Contract
