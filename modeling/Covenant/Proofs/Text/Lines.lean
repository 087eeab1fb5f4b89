import Covenant.Proofs.Text.Split
import Covenant.Text.Blank

/-!
# Lines of a text

`lines` cuts a text at its line feeds, drops a carriage return that ends a line, and reads no
empty line after a final feed. A text made of lines, each followed by a line feed, is cut back
into those lines as long as none holds a line feed or ends with a carriage return
(`lines_join_terminated`).
-/

namespace Covenant.Text

open String

theorem endsWith_eq_true_iff (s t : String) : s.endsWith t = true ↔ t.toList <:+ s.toList := by
  rw [show s.endsWith t = s.toSlice.endsWith t from rfl, String.Slice.endsWith_string_iff]
  simp

/-- A text that stands as one line: it holds no line feed and does not end with a carriage
return. -/
structure IsLine (l : String) : Prop where
  noFeed : '\n' ∉ l.toList
  noReturn : l.toList.getLast? ≠ some '\r'

theorem isLine_of_notMem {l : String} (hn : '\n' ∉ l.toList) (hr : '\r' ∉ l.toList) :
    IsLine l :=
  ⟨hn, fun h => hr (List.mem_of_getLast? h)⟩

theorem lines_empty : lines "" = [] := rfl

theorem splitOn_feed (l r : String) (hl : '\n' ∉ l.toList) :
    (l ++ "\n" ++ r).splitOn "\n" = l :: r.splitOn "\n" := by
  have hsep : "\n".toList = ['\n'] := rfl
  rw [splitOn_eq_of_toList _ _ hsep, splitOn_eq_of_toList _ _ hsep]
  have hchars : (l ++ "\n" ++ r).toList = l.toList ++ '\n' :: r.toList := by
    simp [String.toList_append, hsep]
  have hfree : ∀ c ∈ l.toList, (c == '\n') = false := by
    intro c hc
    have hne : c ≠ '\n' := fun h => hl (h ▸ hc)
    simpa using hne
  rw [hchars, List.splitOn_eq_splitOnP, List.splitOnP_append_cons_of_forall_mem hfree '\n' rfl,
    List.map_cons, ofList_toList, List.splitOn_eq_splitOnP]

theorem splitOn_ne_nil (r : String) : r.splitOn "\n" ≠ [] := by
  rw [splitOn_eq_of_toList _ _ (rfl : "\n".toList = ['\n'])]
  simp [List.splitOn_eq_splitOnP]

/-- A line and its line feed come off the front of a text. -/
theorem lines_append_line {l : String} (hl : IsLine l) (r : String) :
    lines (l ++ "\n" ++ r) = l :: lines r := by
  have hstrip : ¬ l.endsWith "\r" = true := by
    rw [endsWith_eq_true_iff, show "\r".toList = ['\r'] from rfl,
      List.singleton_suffix_iff_getLast?_eq_some]
    exact hl.noReturn
  have hne : (l ++ "\n" ++ r).isEmpty = false := by
    refine Bool.eq_false_iff.mpr fun h => ?_
    have hchars := congrArg String.toList (String.isEmpty_iff.mp h)
    simp [String.toList_append] at hchars
  have hends : (l ++ "\n" ++ r).endsWith "\n" = true ↔ r = "" ∨ r.endsWith "\n" = true := by
    simp only [endsWith_eq_true_iff, show "\n".toList = ['\n'] from rfl,
      List.singleton_suffix_iff_getLast?_eq_some, String.toList_append, List.getLast?_append]
    cases hr : r.toList.getLast? with
    | none => simp [List.getLast?_eq_none_iff.mp hr, ← String.toList_eq_nil_iff]
    | some c =>
      have : r ≠ "" := fun h => by simp [h] at hr
      simp [this]
  obtain ⟨p, ps, hparts⟩ := List.exists_cons_of_ne_nil (splitOn_ne_nil r)
  unfold lines
  simp only [splitOn_feed l r hl.noFeed, hne, hparts, Bool.false_eq_true, if_false]
  by_cases hr : r = ""
  · subst hr
    have hp : p :: ps = [""] := by
      rw [← hparts, splitOn_of_notMem (show "\n".toList = ['\n'] from rfl) (by simp)]
    have hfeed := hends.mpr (.inl rfl)
    rw [String.append_empty] at hfeed
    simp [hp, hstrip, hfeed]
  · have hrne : r.isEmpty = false := by simpa [String.isEmpty_iff] using hr
    simp only [hrne, Bool.false_eq_true, if_false]
    by_cases he : r.endsWith "\n" = true
    · simp [hends.mpr (.inr he), he, List.dropLast_cons_of_ne_nil, hstrip]
    · have hends' : (l ++ "\n" ++ r).endsWith "\n" = false := by
        simpa using fun h => (hends.mp h).elim hr he
      simp [hends', he, List.dropLast_cons_of_ne_nil, hstrip]

/-- A non-empty text without line feeds is one line, whatever it ends with. -/
theorem lines_of_notMem {l : String} (hl : '\n' ∉ l.toList) (hne : l ≠ "") : lines l = [l] := by
  have hempty : l.isEmpty = false := Bool.eq_false_iff.mpr fun h => hne (String.isEmpty_iff.mp h)
  have hends : l.endsWith "\n" = false := by
    refine Bool.eq_false_iff.mpr fun h => hl ?_
    rw [endsWith_eq_true_iff, show "\n".toList = ['\n'] from rfl,
      List.singleton_suffix_iff_getLast?_eq_some] at h
    exact List.mem_of_getLast? h
  unfold lines
  simp [splitOn_of_notMem (show "\n".toList = ['\n'] from rfl) hl, hempty, hends]

/-- Lines each followed by a line feed are read back as they are. -/
theorem lines_join_terminated (ls : List String) (hls : ∀ l ∈ ls, IsLine l) :
    lines (String.join (ls.map (· ++ "\n"))) = ls := by
  induction ls with
  | nil => rfl
  | cons l ls ih =>
    rw [List.map_cons, String.join_cons, lines_append_line (hls l (List.mem_cons_self ..)),
      ih (fun l' hl' => hls l' (List.mem_cons_of_mem _ hl'))]

end Covenant.Text
