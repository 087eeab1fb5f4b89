import Covenant.Pointer
import Mathlib.Data.List.Induction

/-!
# Array index tokens

`parseIndex` reads an array index only from its canonical text, the decimal digits of the index
without a leading zero, so the tokens it reads are exactly the texts `toString n`
(`parseIndex_eq_some_iff`). A pointer thus names each array element by one token only.
-/

namespace Covenant.Pointer

theorem digit_bounds {c : Char} (h : c.isDigit) : 48 ≤ c.toNat ∧ c.toNat ≤ 57 := by
  unfold Char.isDigit at h
  simp only [Bool.and_eq_true, decide_eq_true_eq] at h
  exact ⟨UInt32.le_iff_toNat_le.mp h.1, UInt32.le_iff_toNat_le.mp h.2⟩

/-- A digit is the digit character of its value. -/
theorem digitChar_of_isDigit {c : Char} (h : c.isDigit) : Nat.digitChar (c.toNat - 48) = c := by
  have hb := digit_bounds h
  rw [← Char.toNat_inj, Nat.toNat_digitChar_of_lt_ten (by omega)]
  omega

/-- The loop that checks a text of digits ends without a verdict, having last seen a digit. -/
theorem forIn_isNat_digits :
    ∀ (cs : List Char) (seen : Bool), (∀ c ∈ cs, c.isDigit) →
      (forIn cs (none, seen) (fun c (st : Option Bool × Bool) =>
          if c = '_' then
            if (!st.snd) = true then pure (ForInStep.done (some false, st.snd))
            else pure (ForInStep.yield (none, false))
          else if c.isDigit = true then pure (ForInStep.yield (none, true))
          else pure (ForInStep.done (some false, st.snd))) : Id (Option Bool × Bool)) =
        ((none, cs ≠ [] || seen) : Option Bool × Bool)
  | [], seen, _ => rfl
  | c :: cs, seen, h => by
    have hc : c.isDigit := h c List.mem_cons_self
    have hu : c ≠ '_' := by
      rintro rfl
      simp at hc
    simp only [List.forIn_cons, hu, if_false, hc, if_true, pure_bind]
    rw [forIn_isNat_digits cs true (fun d hd => h d (List.mem_cons_of_mem c hd))]
    simp

/-- Over digits, the reading fold that skips separators is the plain decimal fold. -/
theorem foldl_digits : ∀ (cs : List Char) (init : Nat), (∀ c ∈ cs, c.isDigit) →
    cs.foldl (fun n c => if c = '_' then n else n * 10 + (c.toNat - '0'.toNat)) init =
      Nat.ofDigitChars 10 cs init
  | [], _, _ => rfl
  | c :: cs, init, h => by
    have hu : c ≠ '_' := by
      rintro rfl
      simpa using h '_' List.mem_cons_self
    rw [List.foldl_cons, if_neg hu, Nat.ofDigitChars_cons, Nat.mul_comm,
      foldl_digits cs _ (fun d hd => h d (List.mem_cons_of_mem c hd))]

/-- A nonempty text of digits reads as the number the digits write. -/
theorem toNat?_of_digits {s : String} (hne : s.toList ≠ []) (h : ∀ c ∈ s.toList, c.isDigit) :
    s.toNat? = some (Nat.ofDigitChars 10 s.toList 0) := by
  have hnat : s.toSlice.isNat = true := by
    unfold String.Slice.isNat
    simp only [String.Slice.forIn_eq_forIn_toList, String.copy_toSlice]
    rw [forIn_isNat_digits _ false h]
    simp only [ne_eq, hne, not_false_eq_true, decide_true, Bool.true_or]
    rfl
  simp only [String.toNat?, String.Slice.toNat?, hnat, if_true,
    String.Slice.foldl_eq_foldl_toList, String.copy_toSlice, foldl_digits _ 0 h]

/-- Digits that start with a nonzero one write a positive number. -/
theorem ofDigitChars_pos {c : Char} {cs : List Char} (hc : c.isDigit) (h0 : c ≠ '0') :
    0 < Nat.ofDigitChars 10 (c :: cs) 0 := by
  have hb := digit_bounds hc
  have hne : c.toNat ≠ 48 := fun h => h0 (Char.toNat_inj.mp h)
  rw [Nat.ofDigitChars_cons, Nat.ofDigitChars_eq_ofDigitChars_zero]
  exact Nat.lt_of_lt_of_le (Nat.mul_pos (Nat.pow_pos (by decide)) (by simp; omega))
    (Nat.le_add_right _ _)

/-- Digits without a leading zero, or a lone digit, are the decimal text of the number they
write. -/
theorem toDigits_ofDigitChars (cs : List Char) (hne : cs ≠ []) (h : ∀ c ∈ cs, c.isDigit)
    (hlead : cs.length ≠ 1 → cs.head? ≠ some '0') :
    Nat.toDigits 10 (Nat.ofDigitChars 10 cs 0) = cs := by
  -- the last digit is split off, as `toDigits` builds the text from the right
  induction cs using List.reverseRecOn with
  | nil => exact absurd rfl hne
  | append_singleton init c ih =>
    have hc : c.isDigit := h c (by simp)
    have hb := digit_bounds hc
    have hvalue : Nat.ofDigitChars 10 (init ++ [c]) 0 =
        10 * Nat.ofDigitChars 10 init 0 + (c.toNat - 48) := by
      simp [Nat.ofDigitChars_append, Nat.ofDigitChars_cons, Nat.ofDigitChars_nil]
    rw [hvalue]
    cases init with
    | nil =>
      rw [Nat.ofDigitChars_nil, Nat.mul_zero, Nat.zero_add, Nat.toDigits_of_lt_base (by omega),
        digitChar_of_isDigit hc]
      rfl
    | cons c0 rest =>
      have h0 : c0 ≠ '0' := fun h0 => hlead (by simp) (by simp [h0])
      have hinit := ih (List.cons_ne_nil c0 rest) (fun d hd => h d (List.mem_append_left _ hd))
        (fun _ => by simpa using h0)
      rw [← Nat.toDigits_append_toDigits (by decide)
          (ofDigitChars_pos (h c0 (by simp)) h0) (by omega),
        hinit, Nat.toDigits_of_lt_base (by omega), digitChar_of_isDigit hc]

theorem startsWith_zero_iff {s : String} : s.startsWith "0" = true ↔ s.toList.head? = some '0' := by
  rw [String.startsWith_string_iff, show "0".toList = ['0'] from rfl]
  cases s.toList with
  | nil => simp
  | cons c cs => simp [List.cons_prefix_cons, eq_comm]

/-- The decimal text of a positive number does not start with a zero. -/
theorem eq_zero_of_toDigits_head (n : Nat) (h : (Nat.toDigits 10 n).head? = some '0') : n = 0 := by
  induction n using Nat.strongRecOn with
  | _ n ih =>
    by_cases hn : n < 10
    · rw [Nat.toDigits_of_lt_base hn] at h
      simpa using h
    · rw [Nat.toDigits_of_base_le (by decide) (by omega)] at h
      have hhead : (Nat.toDigits 10 (n / 10)).head? = some '0' := by
        cases hd : Nat.toDigits 10 (n / 10) with
        | nil => exact absurd hd Nat.toDigits_ne_nil
        | cons c cs => simp_all
      have := ih (n / 10) (by omega) hhead
      omega

/-- The decimal text of an index reads back as that index. -/
theorem parseIndex_toString (n : Nat) : parseIndex (toString n) = some n := by
  have hdigits : ∀ c ∈ (toString n).toList, c.isDigit := fun c hc => by
    have hc' : c ∈ Nat.toDigits 10 n := by simpa using hc
    exact Nat.isDigit_of_mem_toDigits (by decide) (by decide) hc'
  have hne : (toString n).toList ≠ [] := by simp
  have hzero : ¬((toString n).startsWith "0" = true ∧ (toString n).length ≠ 1) := by
    rintro ⟨h0, hlen⟩
    rw [startsWith_zero_iff] at h0
    obtain rfl := eq_zero_of_toDigits_head n (by simpa using h0)
    exact hlen rfl
  have hempty : (toString n).isEmpty = false := by simp [← String.toList_inj]
  have hall : (toString n).all Char.isDigit = true := by simpa using hdigits
  simp only [parseIndex, hzero, hempty, hall, if_false, Bool.not_true, Bool.false_eq_true,
    or_self, toNat?_of_digits hne hdigits]
  simp [Nat.ofDigitChars_toDigits]

/-- An index token is the decimal text of the index it reads as. -/
theorem eq_toString_of_parseIndex {k : String} {n : Nat} (h : parseIndex k = some n) :
    k = toString n := by
  unfold parseIndex at h
  split at h
  · cases h
  · next hzero =>
    split at h
    · cases h
    · next hdigits =>
      obtain ⟨hempty, hall⟩ := not_or.mp hdigits
      have hne : k.toList ≠ [] := fun hnil => hempty (by
        rw [String.isEmpty_iff, ← String.toList_inj, hnil]
        rfl)
      replace hall : ∀ c ∈ k.toList, c.isDigit := by simpa using hall
      rw [toNat?_of_digits hne hall, Option.some.injEq] at h
      subst h
      have hlead : k.toList.length ≠ 1 → k.toList.head? ≠ some '0' := fun hlen h0 =>
        hzero ⟨startsWith_zero_iff.mpr h0, by simpa [← String.length_toList] using hlen⟩
      rw [← String.toList_inj]
      simp [toDigits_ofDigitChars _ hne hall hlead]

/-- The tokens `parseIndex` reads are exactly the decimal texts of indices. -/
theorem parseIndex_eq_some_iff {k : String} {n : Nat} : parseIndex k = some n ↔ k = toString n :=
  ⟨eq_toString_of_parseIndex, fun h => h ▸ parseIndex_toString n⟩

end Covenant.Pointer