import Covenant.Proofs.Route.Resolution
import Covenant.Proofs.Route.Canonical

/-!
# Most specific templates first

A resolver built for specificity order ranks the contract's templates by their number of `{`,
fewer first, then by their length in bytes, longer first; the merge sort it uses is stable, so
templates of equal rank keep their declaration order. It therefore tries every template once,
in the order of rank and then of declaration (`candidates_ranked`), and of the templates that
fit a request it finds the first in that order (`findPath_most_specific`).

The rank counts braces, not placeholder segments: when no segment of a template holds two `{`,
the two counts agree (`braceCount_eq_placeholderCount`), and the order is fewest placeholders
first.
-/

namespace Covenant.Route

/-- The number of `{` in a text: how `specificity` counts a template's parameters. -/
def braceCount (s : String) : Nat := (s.toList.filter (· = '{')).length

/-- `a` ranks strictly before `b`: fewer braces, or as many and more bytes. -/
def MoreSpecific (a b : String) : Prop :=
  braceCount a < braceCount b ∨ (braceCount a = braceCount b ∧ b.utf8ByteSize < a.utf8ByteSize)

/-- `a` and `b` rank alike: as many braces and as many bytes. -/
def EquallySpecific (a b : String) : Prop :=
  braceCount a = braceCount b ∧ a.utf8ByteSize = b.utf8ByteSize

/-- An entry with its declaration index is tried before another: it ranks before it, or ranks
alike and is declared earlier. -/
def TriedBefore (x y : (String × PathItem) × Nat) : Prop :=
  MoreSpecific x.1.1 y.1.1 ∨ (EquallySpecific x.1.1 y.1.1 ∧ x.2 < y.2)

section Rank

variable {a b : String}

theorem specificity_eq (a b : String) :
    specificity a b =
      match Ord.compare (braceCount a) (braceCount b) with
      | .eq => Ord.compare b.utf8ByteSize a.utf8ByteSize
      | o => o := rfl

/-- `specificity` puts `a` no later than `b` exactly when `a` ranks before `b` or alike. -/
theorem specificity_ne_gt_iff :
    specificity a b ≠ .gt ↔ MoreSpecific a b ∨ EquallySpecific a b := by
  rw [specificity_eq, MoreSpecific, EquallySpecific]
  rcases Nat.lt_trichotomy (braceCount a) (braceCount b) with h | h | h
  · simp [Nat.compare_eq_lt.mpr h, h]
  · rw [h, Nat.compare_eq_eq.mpr rfl]
    show Ord.compare _ _ ≠ .gt ↔ _
    rw [Ne, Nat.compare_eq_gt]
    omega
  · simp only [Nat.compare_eq_gt.mpr h, ne_eq, not_true_eq_false, false_iff]
    omega

/-- The test the specificity sort orders entries by. -/
def specificityLE (x y : String × PathItem) : Bool := specificity x.1 y.1 != .gt

theorem specificityLE_iff {x y : String × PathItem} :
    specificityLE x y = true ↔ MoreSpecific x.1 y.1 ∨ EquallySpecific x.1 y.1 := by
  simp [specificityLE, ← specificity_ne_gt_iff]

theorem specificityLE_trans (x y z : String × PathItem) :
    specificityLE x y = true → specificityLE y z = true → specificityLE x z = true := by
  simp only [specificityLE_iff, MoreSpecific, EquallySpecific]
  omega

theorem specificityLE_total (x y : String × PathItem) :
    (specificityLE x y || specificityLE y x) = true := by
  simp only [Bool.or_eq_true, specificityLE_iff, MoreSpecific, EquallySpecific]
  omega

/-- Ties broken by index: the sort of indexed entries orders by rank, then by index. -/
theorem zipIdxLE_specificityLE_iff {x y : (String × PathItem) × Nat} :
    List.zipIdxLE specificityLE x y = true ↔
      MoreSpecific x.1.1 y.1.1 ∨ (EquallySpecific x.1.1 y.1.1 ∧ x.2 ≤ y.2) := by
  have hxy := @specificityLE_iff x.1 y.1
  have hyx := @specificityLE_iff y.1 x.1
  simp only [MoreSpecific, EquallySpecific] at hxy hyx ⊢
  unfold List.zipIdxLE
  by_cases h1 : specificityLE x.1 y.1 = true
  · have k1 := hxy.mp h1
    by_cases h2 : specificityLE y.1 x.1 = true
    · have k2 := hyx.mp h2
      simp only [h1, h2, if_true, decide_eq_true_eq]
      omega
    · have k2 := mt hyx.mpr h2
      simp only [h1, h2, if_true, if_false, Bool.false_eq_true, true_iff]
      omega
  · have k1 := mt hxy.mpr h1
    simp only [h1, if_false, Bool.false_eq_true, false_iff]
    omega

end Rank

section Order

/-- The entries of a contract with their declaration indices, ranked as a specificity resolver
tries them. -/
def ranked (C : Contract) : List ((String × PathItem) × Nat) :=
  C.paths.zipIdx.mergeSort (List.zipIdxLE specificityLE)

theorem ranked_perm (C : Contract) : (ranked C).Perm C.paths.zipIdx := List.mergeSort_perm _ _

theorem mem_ranked_iff {C : Contract} {x : (String × PathItem) × Nat} :
    x ∈ ranked C ↔ C.paths[x.2]? = some x.1 := by
  rw [(ranked_perm C).mem_iff, List.mem_zipIdx_iff_getElem?]

/-- Every declaration index stands once in the ranking. -/
theorem ranked_indices_nodup (C : Contract) : ((ranked C).map Prod.snd).Nodup := by
  rw [((ranked_perm C).map Prod.snd).nodup_iff, List.zipIdx_map_snd]
  exact List.nodup_range' ..

/-- Each entry of the ranking is tried before every later one. -/
theorem ranked_pairwise (C : Contract) : (ranked C).Pairwise TriedBefore := by
  have hsorted : (ranked C).Pairwise (fun x y => List.zipIdxLE specificityLE x y = true) :=
    List.pairwise_mergeSort (List.zipIdxLE_trans specificityLE_trans)
      (List.zipIdxLE_total specificityLE_total) _
  have hdistinct : (ranked C).Pairwise (fun x y => x.2 ≠ y.2) :=
    List.pairwise_map.mp (ranked_indices_nodup C)
  refine (hsorted.and hdistinct).imp fun ⟨hle, hne⟩ => ?_
  rcases zipIdxLE_specificityLE_iff.mp hle with hmore | ⟨hsame, hidx⟩
  · exact .inl hmore
  · exact .inr ⟨hsame, Nat.lt_of_le_of_ne hidx hne⟩

/-- A specificity resolver tries the contract's entries in ranked order. -/
theorem candidates_eq_ranked (C : Contract) {cfg : ResolverConfig}
    (h : cfg.matchOrder = .specificity) :
    (Resolver.new C cfg).candidates = (ranked C).map Prod.fst := by
  simp only [Resolver.new, h, ranked]
  exact List.mergeSort_zipIdx.symm

/-- Cut where a candidate stands, the ranking splits at the same place: the entry found, with its
declaration index, and every entry ranked before and after it. -/
theorem ranked_split {C : Contract} {pre suf : List (String × PathItem)} {c : String × PathItem}
    (hcut : (ranked C).map Prod.fst = pre ++ c :: suf) :
    ∃ preR sufR j, ranked C = preR ++ (c, j) :: sufR ∧ preR.map Prod.fst = pre := by
  obtain ⟨preR, rest, hsplit, hpre, hrest⟩ := List.map_eq_append_iff.mp hcut
  obtain ⟨x, sufR, rfl, hx, -⟩ := List.map_eq_cons_iff.mp hrest
  obtain ⟨c', j⟩ := x
  cases hx
  exact ⟨preR, sufR, j, hsplit, hpre⟩

/-- Among the entries that fit a request, a specificity resolver finds the one tried first:
every other entry that fits comes after it in rank, or ranks alike and is declared later. -/
theorem findPath_most_specific (C : Contract) {cfg : ResolverConfig}
    (h : cfg.matchOrder = .specificity) (m : Method) (path : String)
    (hfit : ∃ x ∈ C.paths, FitsCandidate m.verb? path x) :
    ∃ t item op j, C.paths[j]? = some (t, item) ∧
      ((Resolver.new C cfg).findPath m path).found = some (t, item, op) ∧
      FitsCandidate m.verb? path (t, item) ∧
      ∀ k y, C.paths[k]? = some y → FitsCandidate m.verb? path y → k ≠ j →
        TriedBefore ((t, item), j) (y, k) := by
  have hfind : (Resolver.new C cfg).findPath m path =
      resolve ((ranked C).map Prod.fst) m.verb? path cfg.reportParameterTypes := by
    rw [Resolver.findPath, candidates_eq_ranked C h]
    rfl
  rcases @resolve_cases m.verb? path cfg.reportParameterTypes ((ranked C).map Prod.fst) with
    ⟨pre, t, item, op, suf, hcut, hpre, hop, hfits, hres⟩ | ⟨hnone, -⟩
  · obtain ⟨preR, sufR, j, hsplit, hpreR⟩ := ranked_split hcut
    have hfound : ((t, item), j) ∈ ranked C := by
      rw [hsplit]
      exact List.mem_append_right _ List.mem_cons_self
    have hj : C.paths[j]? = some (t, item) := mem_ranked_iff.mp hfound
    refine ⟨t, item, op, j, hj, by rw [hfind, hres], ⟨op, hop, hfits⟩, ?_⟩
    intro k y hk hyfit hkj
    have hmem : (y, k) ∈ preR ++ ((t, item), j) :: sufR := hsplit ▸ mem_ranked_iff.mpr hk
    have hafter : (y, k) ∈ sufR := by
      rcases List.mem_append.mp hmem with hbefore | hat
      · -- nothing ranked before the found entry fits
        exact absurd hyfit (hpre y (hpreR ▸ List.mem_map_of_mem hbefore))
      · rcases List.mem_cons.mp hat with heq | hafter
        · exact absurd (congrArg Prod.snd heq) hkj
        · exact hafter
    have hpairs := ranked_pairwise C
    rw [hsplit, List.pairwise_append, List.pairwise_cons] at hpairs
    exact hpairs.2.1.1 (y, k) hafter
  · obtain ⟨x, hx, hxfit⟩ := hfit
    have hxcand : x ∈ (ranked C).map Prod.fst := by
      rw [← candidates_eq_ranked C h]
      exact (candidates_perm C cfg).mem_iff.mpr hx
    exact absurd hxfit (hnone x hxcand)

end Order

section Placeholders

/-- Braces counted over pieces joined by slashes are the braces of the pieces. -/
theorem length_filter_brace_intercalate (L : List (List Char)) (hL : L ≠ []) :
    ((['/'].intercalate L).filter (· = '{')).length =
      (L.map fun l => (l.filter (· = '{')).length).sum := by
  induction L with
  | nil => exact absurd rfl hL
  | cons a L ih =>
    cases L with
    | nil => simp
    | cons b L =>
      rw [List.intercalate_cons_cons]
      simp [List.filter_append, ih]

/-- A template's braces are those of its segments. -/
theorem braceCount_eq_sum_segments (t : String) :
    braceCount t = ((splitSegments t).map braceCount).sum := by
  have hjoin : ['/'].intercalate (t.toList.splitOn '/') = t.toList := List.intercalate_splitOn '/'
  have hparts : ((t.splitOn "/").map braceCount).sum = braceCount t := by
    rw [splitOn_slash, List.map_map]
    calc ((t.toList.splitOn '/').map (braceCount ∘ String.ofList)).sum
        = (((t.toList.splitOn '/').map fun l => (l.filter (· = '{')).length)).sum := by
          simp [braceCount, Function.comp_def]
      _ = ((['/'].intercalate (t.toList.splitOn '/')).filter (· = '{')).length :=
          (length_filter_brace_intercalate _ (by simp [List.splitOn_ne_nil])).symm
      _ = braceCount t := by rw [hjoin, braceCount]
  unfold splitSegments
  split
  · rename_i rest hsplit
    rw [hsplit] at hparts
    simpa [braceCount] using hparts.symm
  · exact hparts.symm

/-- A segment is a placeholder exactly when it holds a brace. -/
theorem isPlaceholder_ofRaw (seg : String) :
    (Segment.ofRaw seg).isPlaceholder = decide (0 < braceCount seg) := by
  have hpos : 0 < braceCount seg ↔ '{' ∈ seg.toList := by
    simp [braceCount, List.length_pos_iff_exists_mem]
  unfold Segment.ofRaw
  split <;> rename_i h <;> simp_all [Segment.isPlaceholder, String.contains_char_eq]

/-- When no segment of a template holds two braces, its braces count its placeholders. -/
theorem braceCount_eq_placeholderCount {t : String}
    (hone : ∀ seg ∈ splitSegments t, braceCount seg ≤ 1) :
    braceCount t = (Template.ofString t).placeholderCount := by
  rw [braceCount_eq_sum_segments, Template.placeholderCount, Template.ofString]
  simp only
  -- the count runs over the segments, so the induction is on the list of them
  generalize splitSegments t = segs at hone ⊢
  induction segs with
  | nil => rfl
  | cons seg segs ih =>
    have hseg := hone seg List.mem_cons_self
    have hrest := ih fun s hs => hone s (List.mem_cons_of_mem seg hs)
    rw [List.map_cons, List.sum_cons, hrest, List.map_cons, List.filter_cons,
      isPlaceholder_ofRaw]
    by_cases hpos : 0 < braceCount seg
    · simp only [hpos, decide_true, if_true, List.length_cons]
      omega
    · simp only [hpos, decide_false, Bool.false_eq_true, if_false]
      omega

end Placeholders

section Claim

end Claim

end Covenant.Route
