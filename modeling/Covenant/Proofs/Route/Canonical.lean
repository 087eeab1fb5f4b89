import Covenant.Route.Template
import Covenant.Proofs.Text.Split

/-!
# Cleaning slash-separated paths

`canonicalJoin` splits its components at `/`, cleans the parts (`cleanStep`) and joins what is
left with `/`. Components cut from a path hold no `/`, so splitting leaves them as they are; and
when no part is `..`, cleaning only drops the empty and `.` parts (`canonicalJoin_of_plain`).
Joined plain parts can be read back, so two such joins agree only on equal lists
(`plain_eq_of_intercalate_eq`).
-/

namespace Covenant.Route

/-- One step of cleaning: an empty or `.` part is skipped, `..` removes the part before it
unless that part is itself `..`, and any other part is kept. The parts are kept in reverse. -/
def cleanStep (cleaned : List String) (part : String) : List String :=
  if part = "" ∨ part = "." then cleaned
  else if part = ".." then
    match cleaned with
    | last :: rest => if last ≠ ".." then rest else ".." :: cleaned
    | [] => [".."]
  else part :: cleaned

theorem canonicalJoin_eq (components : List String) :
    canonicalJoin components =
      "/".intercalate ((components.flatMap (·.splitOn "/")).foldl cleanStep []).reverse := rfl

/-- A part that cleaning keeps as it is: neither empty nor `.`. -/
def isPlain (part : String) : Bool := part != "" && part != "."

@[simp] theorem isPlain_iff (part : String) : isPlain part = true ↔ part ≠ "" ∧ part ≠ "." := by
  simp [isPlain]

theorem splitOn_slash (s : String) : s.splitOn "/" = (s.toList.splitOn '/').map String.ofList :=
  Text.splitOn_eq_of_toList s "/" rfl

/-- Components without `/` are not cut further. -/
theorem flatMap_splitOn_of_slashFree (components : List String)
    (hfree : ∀ c ∈ components, '/' ∉ c.toList) :
    components.flatMap (·.splitOn "/") = components := by
  induction components with
  | nil => rfl
  | cons c rest ih =>
    have hc : c.splitOn "/" = [c] := Text.splitOn_of_notMem rfl (hfree c List.mem_cons_self)
    rw [List.flatMap_cons, hc, ih (fun c' hc' => hfree c' (List.mem_cons_of_mem c hc'))]
    rfl

/-- Without `..`, cleaning drops the empty and `.` parts and keeps the rest in order. -/
theorem foldl_cleanStep_of_no_parent (parts acc : List String) (hparts : ".." ∉ parts) :
    parts.foldl cleanStep acc = (parts.filter isPlain).reverse ++ acc := by
  induction parts generalizing acc with
  | nil => rfl
  | cons p rest ih =>
    have hp : p ≠ ".." := fun h => hparts (h ▸ List.mem_cons_self)
    have hrest : ".." ∉ rest := fun h => hparts (List.mem_cons_of_mem p h)
    rw [List.foldl_cons, ih _ hrest]
    by_cases hplain : p = "" ∨ p = "."
    · have hnot : isPlain p = false := by rcases hplain with h | h <;> simp [isPlain, h]
      simp [cleanStep, hplain, hnot]
    · have hyes : isPlain p = true := by simpa [not_or] using hplain
      simp [cleanStep, hplain, hp, hyes]

/-- The canonical join of components without `/` and without `..`. -/
theorem canonicalJoin_of_plain (components : List String)
    (hfree : ∀ c ∈ components, '/' ∉ c.toList) (hparent : ".." ∉ components) :
    canonicalJoin components = "/".intercalate (components.filter isPlain) := by
  rw [canonicalJoin_eq, flatMap_splitOn_of_slashFree components hfree,
    foldl_cleanStep_of_no_parent components [] hparent, List.append_nil, List.reverse_reverse]

theorem intercalate_ne_empty {parts : List String} (hne : parts ≠ [])
    (hplain : ∀ p ∈ parts, p ≠ "") : "/".intercalate parts ≠ "" := by
  obtain ⟨p, rest, rfl⟩ := List.exists_cons_of_ne_nil hne
  have hp : p ≠ "" := hplain p List.mem_cons_self
  cases rest with
  | nil => simpa using hp
  | cons q rest =>
    intro h
    have hlen := congrArg (fun s : String => s.toList.length) h
    simp [String.intercalate_cons_cons] at hlen

/-- Joins of lists of non-empty parts without `/` agree only when the lists do. -/
theorem plain_eq_of_intercalate_eq {xs ys : List String}
    (hx : ∀ p ∈ xs, p ≠ "" ∧ '/' ∉ p.toList) (hy : ∀ p ∈ ys, p ≠ "" ∧ '/' ∉ p.toList)
    (h : "/".intercalate xs = "/".intercalate ys) : xs = ys := by
  by_cases hxe : xs = []
  · by_cases hye : ys = []
    · rw [hxe, hye]
    · exact absurd (h.symm.trans (by rw [hxe]; rfl))
        (intercalate_ne_empty hye (fun p hp => (hy p hp).1))
  · by_cases hye : ys = []
    · exact absurd (h.trans (by rw [hye]; rfl))
        (intercalate_ne_empty hxe (fun p hp => (hx p hp).1))
    · have hsx := Text.splitOn_intercalate_of_notMem "/" rfl (fun p hp => (hx p hp).2) hxe
      have hsy := Text.splitOn_intercalate_of_notMem "/" rfl (fun p hp => (hy p hp).2) hye
      rw [← hsx, ← hsy, h]

end Covenant.Route
