import Covenant.Proofs.Text.Split

/-!
# Splitting text at a separator of several characters

`String.splitOn` scans the text once, matching the separator character by character and, after
a partial match fails, starting over one character after where that match began. Read on the
characters of the text, this cuts at every leftmost occurrence of the separator (`cuts`), so
joining the parts with the separator gives the text back (`intercalate_cuts`).
-/

namespace Covenant.Text

open String

/-- The parts of a character list cut at each leftmost occurrence of the separator `p :: ps`;
`m` is the part read so far. -/
def cuts (p : Char) (ps : List Char) (m : List Char) : List Char → List (List Char)
  | [] => [m]
  | c :: t =>
    if (p :: ps).isPrefixOf (c :: t) then m :: cuts p ps [] (t.drop ps.length)
    else cuts p ps (m ++ [c]) t
termination_by t => t.length

variable {p : Char} {ps : List Char}

theorem cuts_nil (m : List Char) : cuts p ps m [] = [m] := by
  rw [cuts]

theorem cuts_of_sep {m t : List Char} (h : (p :: ps) <+: t) :
    cuts p ps m t = m :: cuts p ps [] (t.drop (ps.length + 1)) := by
  obtain ⟨c, t, rfl⟩ : ∃ c t', t = c :: t' := List.exists_cons_of_ne_nil
    (by rintro rfl; simp at h)
  rw [cuts, if_pos (List.isPrefixOf_iff_prefix.mpr h), List.drop_succ_cons]

theorem cuts_of_not_sep {m : List Char} {c : Char} {t : List Char}
    (h : ¬ (p :: ps) <+: c :: t) : cuts p ps m (c :: t) = cuts p ps (m ++ [c]) t := by
  rw [cuts, if_neg (mt List.isPrefixOf_iff_prefix.mp h)]

/-- A text shorter than the separator is not cut. -/
theorem cuts_of_length_lt {m t : List Char} (ht : t.length < ps.length + 1) :
    cuts p ps m t = [m ++ t] := by
  induction t generalizing m with
  | nil => simp [cuts_nil]
  | cons c t ih =>
    have hshort : ¬ (p :: ps) <+: c :: t := fun h => by
      have := h.length_le
      simp only [List.length_cons] at this ht
      omega
    rw [cuts_of_not_sep hshort, ih (by simp at ht; omega)]
    simp

/-- A text in which the separator does not occur is not cut. -/
theorem cuts_of_not_infix {m t : List Char} (h : ¬ (p :: ps) <:+: t) : cuts p ps m t = [m ++ t] := by
  induction t generalizing m with
  | nil => simp [cuts_nil]
  | cons c t ih =>
    have hhere : ¬ (p :: ps) <+: c :: t := fun hpre => h hpre.isInfix
    have hlater : ¬ (p :: ps) <:+: t := fun hin => h (hin.trans (List.suffix_cons c t).isInfix)
    rw [cuts_of_not_sep hhere, ih hlater]
    simp

/-- Characters other than the separator's first cannot begin it, so they join the part being
read. -/
theorem cuts_append_of_notMem {m a t : List Char} (ha : p ∉ a) :
    cuts p ps m (a ++ t) = cuts p ps (m ++ a) t := by
  induction a generalizing m with
  | nil => simp
  | cons c a ih =>
    have hc : c ≠ p := fun hcp => ha (hcp ▸ List.mem_cons_self)
    have hhere : ¬ (p :: ps) <+: c :: (a ++ t) := fun hpre => hc (List.cons_prefix_cons.mp hpre).1.symm
    rw [List.cons_append, cuts_of_not_sep hhere, ih (fun hp => ha (List.mem_cons_of_mem c hp))]
    simp

theorem cuts_ne_nil (m t : List Char) : cuts p ps m t ≠ [] := by
  match t with
  | [] => simp [cuts_nil]
  | c :: t =>
    by_cases h : (p :: ps) <+: c :: t
    · simp [cuts_of_sep h]
    · rw [cuts_of_not_sep h]
      exact cuts_ne_nil (m ++ [c]) t
termination_by t.length

/-- Joining the parts with the separator gives back the part read and the rest. -/
theorem intercalate_cuts (m t : List Char) :
    (p :: ps).intercalate (cuts p ps m t) = m ++ t := by
  match t with
  | [] => simp [cuts_nil]
  | c :: t =>
    by_cases h : (p :: ps) <+: c :: t
    · obtain ⟨u, hu⟩ := h
      obtain ⟨x, xs, hx⟩ := List.exists_cons_of_ne_nil (@cuts_ne_nil p ps [] u)
      have hrest : (c :: t).drop (ps.length + 1) = u := by simp [← hu]
      have hlen : u.length < (c :: t).length := by simp [← hu]
      have ih := intercalate_cuts [] u
      rw [cuts_of_sep ⟨u, hu⟩, hrest, hx, List.intercalate_cons_cons, ← hx, ih, ← hu]
      simp
    · rw [cuts_of_not_sep h, intercalate_cuts (m ++ [c]) t]
      simp
termination_by t.length

/-- The split loop read on a list view of the text: `l` has been cut already, `m` is the part
being read, the first `k` characters of the separator have just been matched after it, and `r`
is still ahead. -/
theorem splitOnAux_cuts (p : Char) (ps l m r : List Char) (k : Nat) (hk : k ≤ ps.length)
    (acc : List String) :
    splitOnAux (ofList (l ++ m ++ ((p :: ps).take k ++ r))) (ofList (p :: ps)) ⟨utf8Len l⟩
        ⟨utf8Len l + utf8Len m + utf8Len ((p :: ps).take k)⟩ ⟨utf8Len ((p :: ps).take k)⟩ acc =
      acc.reverse ++ (cuts p ps m ((p :: ps).take k ++ r)).map ofList := by
  have hsplit : (p :: ps).take k ++ (p :: ps).drop k = p :: ps := List.take_append_drop k _
  have htake : ((p :: ps).take k).length = k := by simp; omega
  match r with
  | [] =>
    have hend : Pos.Raw.atEnd (ofList (l ++ m ++ ((p :: ps).take k ++ [])))
        ⟨utf8Len l + utf8Len m + utf8Len ((p :: ps).take k)⟩ := by
      have := (atEnd_of_valid (l ++ m ++ (p :: ps).take k) []).mpr rfl
      simpa [List.append_assoc, Nat.add_assoc] using this
    unfold splitOnAux
    rw [if_pos hend]
    have hextract := extract_of_valid l (m ++ (p :: ps).take k) []
    simp only [List.append_nil, utf8Len_append, ← Nat.add_assoc, List.append_assoc] at hextract ⊢
    rw [hextract, cuts_of_length_lt (by omega)]
    simp
  | d :: r =>
    -- `e` is the separator's character that `d` is compared with
    obtain ⟨e, rest, hdrop⟩ : ∃ e rest, (p :: ps).drop k = e :: rest :=
      List.exists_cons_of_ne_nil (by simp; omega)
    have hsep : p :: ps = (p :: ps).take k ++ e :: rest := by rw [← hdrop, hsplit]
    have hsucc : (p :: ps).take (k + 1) = (p :: ps).take k ++ [e] := by
      conv_lhs => rw [hsep]
      simp [List.take_append, htake]
    generalize (p :: ps).take k = T at hsep hsucc htake ⊢
    have hsepText : ofList (p :: ps) = ofList (T ++ e :: rest) := congrArg ofList hsep
    have hget : Pos.Raw.get (ofList (l ++ m ++ (T ++ d :: r)))
        ⟨utf8Len l + utf8Len m + utf8Len T⟩ = d := by
      simpa [List.append_assoc, Nat.add_assoc] using get_of_valid (l ++ m ++ T) (d :: r)
    have hsepget : Pos.Raw.get (ofList (p :: ps)) ⟨utf8Len T⟩ = e := by
      rw [hsepText]
      simpa using get_of_valid T (e :: rest)
    have hnotend : ¬ Pos.Raw.atEnd (ofList (l ++ m ++ (T ++ d :: r)))
        ⟨utf8Len l + utf8Len m + utf8Len T⟩ := by
      have := (atEnd_of_valid (l ++ m ++ T) (d :: r)).not.mpr (by simp)
      simpa [List.append_assoc, Nat.add_assoc] using this
    unfold splitOnAux
    rw [if_neg hnotend, hget, hsepget]
    by_cases hde : d = e
    · -- the separator's next character matches
      subst hde
      have hnext : Pos.Raw.next (ofList (l ++ m ++ (T ++ d :: r)))
          ⟨utf8Len l + utf8Len m + utf8Len T⟩ = ⟨utf8Len l + utf8Len m + utf8Len T + d.utf8Size⟩ := by
        simpa [List.append_assoc, Nat.add_assoc] using next_of_valid (l ++ m ++ T) d r
      have hsepnext : Pos.Raw.next (ofList (p :: ps)) ⟨utf8Len T⟩ = ⟨utf8Len T + d.utf8Size⟩ := by
        rw [hsepText]
        simpa using next_of_valid T d rest
      simp only [beq_self_eq_true, if_true, hnext, hsepnext]
      by_cases hfull : k = ps.length
      · -- the whole separator has been read: the part ends before it
        have hrest : rest = [] := by
          have := congrArg List.length hsep
          simp only [List.length_cons, List.length_append, htake] at this
          exact List.eq_nil_of_length_eq_zero (by omega)
        subst hrest
        have hend : Pos.Raw.atEnd (ofList (p :: ps)) ⟨utf8Len T + d.utf8Size⟩ := by
          rw [hsepText]
          simpa using (atEnd_of_valid (T ++ [d]) []).mpr rfl
        have hback : (⟨utf8Len l + utf8Len m + utf8Len T + d.utf8Size⟩ : Pos.Raw).unoffsetBy
            ⟨utf8Len T + d.utf8Size⟩ = ⟨utf8Len l + utf8Len m⟩ := by
          simp only [Pos.Raw.ext_iff, Pos.Raw.byteIdx_unoffsetBy]
          omega
        rw [if_pos hend, hback, extract_of_valid l m (T ++ d :: r)]
        have ih := splitOnAux_cuts p ps (l ++ m ++ (p :: ps)) [] r 0 (Nat.zero_le _)
          (ofList m :: acc)
        have hstarts : (p :: ps) <+: T ++ d :: r := ⟨r, by rw [hsep]; simp⟩
        rw [cuts_of_sep hstarts]
        have hdropped : (T ++ d :: r).drop (ps.length + 1) = r := by
          rw [← hfull, ← htake]
          simp
        rw [hdropped]
        have htext : l ++ m ++ (p :: ps) ++ [] ++ ((p :: ps).take 0 ++ r) =
            l ++ m ++ (T ++ d :: r) := by
          rw [hsep]
          simp
        have hpos : utf8Len (l ++ m ++ (p :: ps)) = utf8Len l + utf8Len m + utf8Len T + d.utf8Size := by
          rw [hsep]
          simp only [utf8Len_append, utf8Len_cons, utf8Len_nil]
          omega
        rw [htext] at ih
        simp only [hpos, List.take_zero, utf8Len_nil, Nat.add_zero, List.nil_append] at ih
        refine ih.trans ?_
        simp
      · -- more of the separator is to be matched
        have hmore : rest ≠ [] := by
          rintro rfl
          have := congrArg List.length hsep
          simp only [List.length_cons, List.length_append, htake, List.length_nil] at this
          omega
        have hnotend' : ¬ Pos.Raw.atEnd (ofList (p :: ps)) ⟨utf8Len T + d.utf8Size⟩ := by
          rw [hsepText]
          have := (atEnd_of_valid (T ++ [d]) rest).not.mpr hmore
          simpa using this
        rw [if_neg hnotend']
        have ih := splitOnAux_cuts p ps l m r (k + 1) (by omega) acc
        rw [hsucc] at ih
        simp only [List.append_assoc, List.singleton_append, utf8Len_append, utf8Len_cons,
          utf8Len_nil, Nat.zero_add] at ih ⊢
        convert ih using 3
        omega
    · -- a mismatch: the search starts again one character after the partial match began
      have hne : (d == e) = false := by simpa using hde
      rw [hne, if_neg Bool.false_ne_true]
      obtain ⟨x, xs, hx⟩ := List.exists_cons_of_ne_nil
        (show T ++ d :: r ≠ [] by simp)
      have hxs : xs.length = k + r.length := by
        have := congrArg List.length hx
        simp only [List.length_append, List.length_cons, htake] at this
        omega
      have hback : (⟨utf8Len l + utf8Len m + utf8Len T⟩ : Pos.Raw).unoffsetBy ⟨utf8Len T⟩ =
          ⟨utf8Len l + utf8Len m⟩ := by
        simp only [Pos.Raw.ext_iff, Pos.Raw.byteIdx_unoffsetBy]
        omega
      have hnext : Pos.Raw.next (ofList (l ++ m ++ (T ++ d :: r))) ⟨utf8Len l + utf8Len m⟩ =
          ⟨utf8Len l + utf8Len m + x.utf8Size⟩ := by
        rw [hx]
        simpa using next_of_valid (l ++ m) x xs
      have hnotstarts : ¬ (p :: ps) <+: x :: xs := by
        rw [← hx, hsep, List.prefix_append_right_inj, List.cons_prefix_cons]
        exact fun h => hde h.1.symm
      rw [hback, hnext, hx, cuts_of_not_sep hnotstarts]
      have ih := splitOnAux_cuts p ps l (m ++ [x]) xs 0 (Nat.zero_le _) acc
      simp only [List.take_zero, List.nil_append, utf8Len_append, utf8Len_cons, utf8Len_nil,
        Nat.add_zero, Nat.zero_add, List.append_assoc, List.singleton_append] at ih ⊢
      -- the two sides differ in how the new part's end is bracketed and in the start offset
      convert ih using 3
      · exact Nat.add_assoc _ _ _
      · rfl
termination_by (k + r.length, r.length)
decreasing_by
  all_goals
    simp only [Prod.lex_def, List.length_cons]
    omega

/-- Splitting at a separator cuts the characters at each leftmost occurrence of it. -/
theorem splitOn_eq_cuts (s sep : String) (hsep : sep.toList = p :: ps) :
    s.splitOn sep = (cuts p ps [] s.toList).map ofList := by
  have hofList : sep = ofList (p :: ps) := by rw [← hsep, ofList_toList]
  have hne : (sep == "") = false := by
    subst hofList
    simp
  unfold String.splitOn
  rw [hne, if_neg Bool.false_ne_true, hofList]
  have h := splitOnAux_cuts p ps [] [] s.toList 0 (Nat.zero_le _) []
  simp only [List.nil_append, List.take_zero, utf8Len_nil, Nat.add_zero, ofList_toList,
    List.reverse_nil] at h
  exact h

/-- A text that splits into two parts is the first, the separator and the second. -/
theorem eq_append_of_splitOn_eq_pair {s sep a b : String} (hsep : sep ≠ "")
    (h : s.splitOn sep = [a, b]) : s = a ++ sep ++ b := by
  obtain ⟨p, ps, hps⟩ := List.exists_cons_of_ne_nil (by simpa using hsep : sep.toList ≠ [])
  rw [splitOn_eq_cuts s sep hps] at h
  obtain ⟨a', b', hcuts, rfl, rfl⟩ : ∃ a' b', cuts p ps [] s.toList = [a', b'] ∧
      ofList a' = a ∧ ofList b' = b := by
    simpa [List.map_eq_cons_iff] using h
  have hjoin := @intercalate_cuts p ps [] s.toList
  rw [hcuts] at hjoin
  apply String.ext
  simp only [String.toList_append, toList_ofList, hps]
  simpa using hjoin.symm

/-- Conversely, a first part without the separator's first character, the separator and a
second part in which it does not occur split into the two parts. -/
theorem splitOn_append_sep {a sep b : String} (hsep : sep.toList = p :: ps) (ha : p ∉ a.toList)
    (hb : ¬ (p :: ps) <:+: b.toList) : (a ++ sep ++ b).splitOn sep = [a, b] := by
  rw [splitOn_eq_cuts _ _ hsep, String.toList_append, String.toList_append, hsep,
    List.append_assoc, cuts_append_of_notMem ha, List.nil_append,
    cuts_of_sep (List.prefix_append _ _), List.drop_left' (by simp), cuts_of_not_infix hb]
  simp

end Covenant.Text
