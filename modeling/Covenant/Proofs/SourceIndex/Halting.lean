import Covenant.Proofs.SourceIndex.JsonRuns
import Covenant.Proofs.SourceIndex.FlowRuns

/-!
# Indexing halts

Indexing a text runs six loops on budgets: the JSON walk and the blanks and strings it reads,
the flow walk and the quoted scalars it reads, and the dashes that open block items. Each is
stated without a budget, and each of its turns reads a character or ends it: the JSON walk
because a value it reads is never empty, the flow walk because its mapping and sequence loops
stop where an entry or an item has not moved, the dashes because each item reads its `-`. So
each halts within the budget it is given, and the index the walks record is the one their runs
with no budget record (`indexing_halts`).
-/

namespace Covenant.SourceIndex

/-- Every loop and walk of indexing halts within its budget, and the two walks are started on
budgets that cover them. -/
theorem indexing_halts :
    (∀ call : JsonText.Call,
      HaltsWithin JsonText.Runs JsonText.Call.run JsonText.Call.budget call) ∧
    (∀ (line : Int) (column : Nat) (call : Flow.Call),
      HaltsWithin (Flow.Runs line column) (Flow.Call.run line column) Flow.Call.budget call) ∧
    (∀ c : JsonText.Cursor, HaltsWithin (Loop JsonText.blankStep) JsonText.Cursor.skipBlank.go
      (fun c => c.rest.length) c) ∧
    (∀ s : JsonText.Cursor × List Char, HaltsWithin (Loop JsonText.stringStep)
      (fun fuel s => JsonText.string.go fuel s.1 s.2) (fun s => s.1.rest.length) s) ∧
    (∀ (quote : Char) (s : Flow.Cursor × List Char), HaltsWithin (Loop (Flow.quotedStep quote))
      (fun fuel s => Flow.quotedBody quote fuel s.1 s.2) (fun s => s.1.rest.length) s) ∧
    (∀ (line : Nat) (s : List Block.Entry × Nat × List Char),
      HaltsWithin (Loop (Block.dashStep line))
        (fun fuel s => Block.lineEntries.items line fuel s.1 s.2.1 s.2.2)
        (fun s => s.2.2.length) s) ∧
    (∀ source : String, ∃ w, JsonText.Runs (.value [] {} ⟨source.toList, 1, 1⟩) w ∧
      JsonText.scan source = w.1) ∧
    (∀ (text : String) (line : Int) (column : Nat) (path : List String) (idx : SourceIndex),
      ∃ w, Flow.Runs line column (.value path idx ⟨text.toList, 0⟩) w ∧
        Flow.scan text line column path idx = w.1) := by
  refine ⟨JsonText.Call.halts, fun _ _ => Flow.Call.halts, JsonText.skipBlank_halts,
    JsonText.string_halts, Flow.quotedBody_halts, Block.items_halts, fun source => ?_,
    fun text line column path idx => ?_⟩
  · obtain ⟨w, hrun, -⟩ := JsonText.Call.halts (.value [] {} ⟨source.toList, 1, 1⟩)
    exact ⟨w, hrun, JsonText.scan_eq_of_runs hrun⟩
  · obtain ⟨w, hrun, -⟩ := @Flow.Call.halts line column (.value path idx ⟨text.toList, 0⟩)
    exact ⟨w, hrun, Flow.scan_eq_of_runs hrun⟩

end Covenant.SourceIndex
