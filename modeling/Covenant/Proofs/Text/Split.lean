import Mathlib

/-!
# Splitting text at a one-character separator

Paths, pointers and lines are cut with `String.splitOn` at a separator of one character. The
main statement reads that split on the characters of the text: the parts are the character
lists between occurrences of the separator, so no part holds the separator and a text without
it is its own single part.
-/

namespace Covenant.Text

open String

/-- The split loop read on a list view of the text: `l` has been cut already, `m` is the part
being read, and `r` is still ahead. -/
theorem splitOnAux_char (c : Char) (l m r : List Char) (acc : List String) :
    splitOnAux (ofList (l ++ m ++ r)) (ofList [c]) ⟨utf8Len l⟩ ⟨utf8Len l + utf8Len m⟩ 0 acc =
      acc.reverse ++ (List.splitOnPPrepend (· == c) r m.reverse).map ofList := by
  induction r generalizing l m acc with
  | nil =>
    unfold splitOnAux
    simp only [List.append_nil, atEnd_iff, rawEndPos_ofList, utf8Len_append, Pos.Raw.mk_le_mk,
      Nat.le_refl, if_true]
    simpa using extract_of_valid l m []
  | cons d r ih =>
    have hget : Pos.Raw.get (ofList (l ++ m ++ d :: r)) ⟨utf8Len l + utf8Len m⟩ = d := by
      simpa using get_of_valid (l ++ m) (d :: r)
    have hsep : Pos.Raw.get (ofList [c]) 0 = c := by simpa using get_of_valid [] [c]
    have hnext : Pos.Raw.next (ofList (l ++ m ++ d :: r)) ⟨utf8Len l + utf8Len m⟩ =
        ⟨utf8Len l + utf8Len m + d.utf8Size⟩ := by
      simpa using next_of_valid (l ++ m) d r
    have hsepnext : Pos.Raw.next (ofList [c]) 0 = ⟨c.utf8Size⟩ := by
      simpa using next_of_valid [] c []
    have hend : ¬ Pos.Raw.atEnd (ofList (l ++ m ++ d :: r)) ⟨utf8Len l + utf8Len m⟩ := by
      simpa using (atEnd_of_valid (l ++ m) (d :: r)).not.mpr (List.cons_ne_nil d r)
    unfold splitOnAux
    rw [if_neg hend, hget, hsep, Pos.Raw.unoffsetBy_zero, hnext, hsepnext]
    by_cases hdc : d = c
    · -- the separator closes the part `m` and starts an empty one after it
      subst hdc
      have hsepend : Pos.Raw.atEnd (ofList [d]) ⟨d.utf8Size⟩ := by
        rw [atEnd_iff, rawEndPos_ofList]
        simp
      have hback : (⟨utf8Len l + utf8Len m + d.utf8Size⟩ : Pos.Raw).unoffsetBy ⟨d.utf8Size⟩ =
          ⟨utf8Len l + utf8Len m⟩ := by
        simp [Pos.Raw.ext_iff, Pos.Raw.byteIdx_unoffsetBy]
      simp only [beq_self_eq_true, if_true, hsepend, hback]
      rw [extract_of_valid l m (d :: r)]
      have := ih (l ++ m ++ [d]) [] (ofList m :: acc)
      simp only [List.append_assoc, List.singleton_append, utf8Len_append, utf8Len_cons,
        utf8Len_nil, Nat.add_zero, List.reverse_nil] at this
      simp only [List.append_assoc] at this ⊢
      rw [show utf8Len l + (utf8Len m + (0 + d.utf8Size)) = utf8Len l + utf8Len m + d.utf8Size by
        omega] at this
      rw [this]
      simp [List.splitOnPPrepend_cons_pos]
    · -- any other character extends the part
      have hne : (d == c) = false := by simpa using hdc
      simp only [hne, Bool.false_eq_true, if_false]
      have := ih l (m ++ [d]) acc
      simp only [List.append_assoc, List.singleton_append, utf8Len_append, utf8Len_cons,
        utf8Len_nil, List.reverse_append, List.reverse_cons, List.reverse_nil,
        List.nil_append] at this ⊢
      rw [show utf8Len l + (utf8Len m + (0 + d.utf8Size)) = utf8Len l + utf8Len m + d.utf8Size by
        omega] at this
      rw [this, @List.splitOnPPrepend_cons_neg _ (· == c) d r m.reverse hne]

/-- Splitting at a one-character separator cuts the characters at each occurrence of it. -/
theorem splitOn_eq_of_toList (s sep : String) {c : Char} (hsep : sep.toList = [c]) :
    s.splitOn sep = (s.toList.splitOn c).map ofList := by
  have hofList : sep = ofList [c] := by rw [← hsep, ofList_toList]
  have hne : (sep == "") = false := by
    subst hofList
    simp
  unfold String.splitOn
  rw [hne, if_neg Bool.false_ne_true, hofList]
  have h := splitOnAux_char c [] [] s.toList []
  simp only [List.nil_append, utf8Len_nil, Nat.add_zero, ofList_toList, List.reverse_nil] at h
  exact h

example : "a/b//".splitOn "/" = ["a", "b", "", ""] := by
  rw [@splitOn_eq_of_toList "a/b//" "/" '/' rfl]
  decide

theorem notMem_of_mem_splitOnPPrepend {p : Char → Bool} {xs acc part : List Char}
    (hacc : ∀ a ∈ acc, p a = false) (hpart : part ∈ List.splitOnPPrepend p xs acc) :
    ∀ a ∈ part, p a = false := by
  induction xs generalizing acc with
  | nil =>
    simp only [List.splitOnPPrepend_nil, List.mem_singleton] at hpart
    subst hpart
    simpa using hacc
  | cons x xs ih =>
    by_cases hx : p x
    · rw [List.splitOnPPrepend_cons_pos hx] at hpart
      rcases List.mem_cons.mp hpart with rfl | hrest
      · simpa using hacc
      · exact ih (by simp) hrest
    · rw [List.splitOnPPrepend_cons_neg (by simpa using hx)] at hpart
      refine ih ?_ hpart
      rintro a (_ | ⟨_, ha⟩)
      · simpa using hx
      · exact hacc a ha

/-- No part of a split holds the separator. -/
theorem notMem_of_mem_splitOn {s sep part : String} {c : Char} (hsep : sep.toList = [c])
    (hpart : part ∈ s.splitOn sep) : c ∉ part.toList := by
  rw [splitOn_eq_of_toList s sep hsep, List.mem_map] at hpart
  obtain ⟨cs, hcs, rfl⟩ := hpart
  rw [List.splitOn_eq_splitOnP, List.splitOnP_eq_splitOnPPrepend] at hcs
  have hall := notMem_of_mem_splitOnPPrepend (by simp) hcs
  intro hc
  simpa using hall c (by simpa using hc)

/-- A text without the separator is its own single part. -/
theorem splitOn_of_notMem {s sep : String} {c : Char} (hsep : sep.toList = [c])
    (hs : c ∉ s.toList) : s.splitOn sep = [s] := by
  rw [splitOn_eq_of_toList s sep hsep, List.splitOn_eq_singleton hs]
  simp

/-- Splitting undoes joining, for a non-empty list of parts without the separator. -/
theorem splitOn_intercalate_of_notMem (sep : String) {c : Char} (hsep : sep.toList = [c])
    {parts : List String} (hparts : ∀ part ∈ parts, c ∉ part.toList) (hne : parts ≠ []) :
    (sep.intercalate parts).splitOn sep = parts := by
  rw [splitOn_eq_of_toList _ sep hsep, toList_intercalate, hsep,
    List.splitOn_intercalate c (by simpa using hparts) (by simpa using hne)]
  simp

end Covenant.Text
