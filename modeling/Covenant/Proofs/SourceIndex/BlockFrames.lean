import Covenant.Proofs.SourceIndex.BlockLayout
import Covenant.Proofs.SourceIndex.Locate

/-!
# The frame stack of the block scanner

Each entry closes the frames it does not belong to, takes its path from the frame left on top
and opens one of its own. Laid-out rows keep the frames that are closed below the column of
the next entry, so a whole document is placed entry by entry at the paths of its layout.
-/

namespace Covenant.SourceIndex.Block

open Yaml.Layout (Lead Row rowsText)

/-- The path of each entry that has one, with the entry's line and the column after its
indentation, where the scanner records it. -/
def marksOf (es : List (Entry × Option (List String))) : List (List String × Location) :=
  es.filterMap fun e => e.2.map fun p => (p, ⟨e.1.line, e.1.indent + 1⟩)

/-- Records the marks of entries in order. -/
def recordAll (idx : SourceIndex) (es : List (Entry × Option (List String))) : SourceIndex :=
  (marksOf es).foldl (fun idx m => idx.record m.1 m.2) idx

theorem recordAll_append (idx : SourceIndex) (es es' : List (Entry × Option (List String))) :
    recordAll idx (es ++ es') = recordAll (recordAll idx es) es' := by
  simp [recordAll, marksOf, List.filterMap_append, List.foldl_append]

/-- Whether an entry is a key, which owns a sequence written at its own column. -/
def Kind.isKey : Kind → Bool
  | .key _ => true
  | _ => false

/-- A flow collection the scanner records nothing inside: none, or an empty one. -/
def Inert (flow : Option (Nat × String)) : Prop :=
  flow = none ∨ ∃ c, flow = some (c, "[]") ∨ flow = some (c, "\x7b\x7d")

/-- The scanner places an entry under the innermost open node that holds it, records the path
that node gives it and opens a node for it. -/
theorem place_of_closeUntil {e : Entry} {stack rest : List Frame} {F : Frame}
    (h : closeUntil e stack = F :: rest) (hflow : Inert e.flow) (idx : SourceIndex) :
    place (stack, idx) e =
      (⟨some e.indent, e.kind.isKey, (F.childPath e).1, none, 0⟩ :: (F.childPath e).2 :: rest,
        recordAll idx [(e, (F.childPath e).1)]) := by
  obtain ⟨line, indent, kind, flow⟩ := e
  simp only [place, h]
  generalize F.childPath ⟨line, indent, kind, flow⟩ = r
  obtain ⟨path, F'⟩ := r
  rcases hflow with rfl | ⟨c, rfl | rfl⟩ <;> cases path <;> cases kind <;> rfl

/-- Closing the open nodes stops at the first that holds the entry. -/
theorem closeUntil_append {e : Entry} {F : Frame} {rest : List Frame} (hF : F.contains e = true) :
    ∀ junk : List Frame, (∀ f ∈ junk, f.contains e = false) →
      closeUntil e (junk ++ F :: rest) = F :: rest
  | [], _ => by
    cases rest with
    | nil => rfl
    | cons g gs => simp [closeUntil, hF]
  | f :: junk, h => by
    obtain ⟨g, gs, hg⟩ := List.exists_cons_of_ne_nil (List.append_ne_nil_of_right_ne_nil junk
      (List.cons_ne_nil F rest))
    rw [List.cons_append, hg, closeUntil, if_neg (by simp [h f List.mem_cons_self]), ← hg]
    · exact closeUntil_append hF junk fun f' hf' => h f' (List.mem_cons_of_mem f hf')
    · simp

/-- A node opened at a column before `col`, or the document, holds every entry at `col`. -/
def Frame.Above (f : Frame) (col : Nat) : Prop := ∀ i, f.indent = some i → i < col

theorem Frame.Above.contains {f : Frame} {col : Nat} (hf : f.Above col) {e : Entry}
    (he : e.indent = col) : f.contains e = true := by
  unfold Frame.contains
  cases hi : f.indent with
  | none => rfl
  | some i => simp [he, hf i hi]

/-- Open nodes that no entry at column `col` or before belongs to: nodes deeper than `col`, and
items at `col`. -/
def ClosedAt (col : Nat) (junk : List Frame) : Prop :=
  ∀ f ∈ junk, ∃ i, f.indent = some i ∧ (col < i ∨ (col = i ∧ f.ownsItems = false))

/-- Open nodes at column `col` or deeper. -/
def Within (col : Nat) (junk : List Frame) : Prop :=
  ∀ f ∈ junk, ∃ i, f.indent = some i ∧ col ≤ i

theorem ClosedAt.contains {col : Nat} {junk : List Frame} (h : ClosedAt col junk) {e : Entry}
    (he : e.indent ≤ col) : ∀ f ∈ junk, f.contains e = false := by
  intro f hf
  obtain ⟨i, hi, hlt | ⟨rfl, hown⟩⟩ := h f hf
  · simp [Frame.contains, hi]
    omega
  · simp [Frame.contains, hi, hown]
    omega

theorem Within.contains {col : Nat} {junk : List Frame} (h : Within col junk) {e : Entry}
    (he : e.indent < col ∨ (e.indent = col ∧ (e.kind == .item) = false)) :
    ∀ f ∈ junk, f.contains e = false := by
  intro f hf
  obtain ⟨i, hi, hle⟩ := h f hf
  rcases he with hlt | ⟨heq, hkind⟩
  · simp [Frame.contains, hi]
    omega
  · simp [Frame.contains, hi, hkind]
    omega

theorem ClosedAt.within {col : Nat} {junk : List Frame} (h : ClosedAt col junk) :
    Within col junk := fun f hf => by
  obtain ⟨i, hi, h'⟩ := h f hf
  exact ⟨i, hi, by omega⟩

theorem Within.closedAt {col : Nat} {junk : List Frame} (h : Within (col + 2) junk) :
    ClosedAt col junk := fun f hf => by
  obtain ⟨i, hi, h'⟩ := h f hf
  exact ⟨i, hi, .inl (by omega)⟩

theorem Within.mono {col col' : Nat} {junk : List Frame} (h : Within col' junk) (hle : col ≤ col') :
    Within col junk := fun f hf => by
  obtain ⟨i, hi, h'⟩ := h f hf
  exact ⟨i, hi, by omega⟩

theorem Frame.childPath_item {f : Frame} {col : Nat} (hlevel : f.level.getD (col, true) = (col, true))
    (line : Nat) (flow : Option (Nat × String)) :
    f.childPath ⟨line, col, .item, flow⟩ =
      (f.path.map (· ++ [toString f.items]), { f with level := some (col, true), items := f.items + 1 }) := by
  have hitem : (Kind.item == Kind.item) = true := rfl
  simp [Frame.childPath, hitem, hlevel]

theorem Frame.childPath_key {f : Frame} {col : Nat} (hlevel : f.level.getD (col, false) = (col, false))
    (line : Nat) (key : String) (flow : Option (Nat × String)) :
    f.childPath ⟨line, col, .key key, flow⟩ =
      (f.path.map (· ++ [key]), { f with level := some (col, false) }) := by
  have hitem : (Kind.key key == Kind.item) = false := rfl
  simp [Frame.childPath, hitem, hlevel]

theorem Frame.childPath_scalar {f : Frame} (hlevel : f.level = none) (line col : Nat)
    (flow : Option (Nat × String)) :
    f.childPath ⟨line, col, .scalar, flow⟩ = (none, { f with level := some (col, false) }) := by
  have hitem : (Kind.scalar == Kind.item) = false := rfl
  simp [Frame.childPath, hitem, hlevel]

/-- The scanner's state after placing each of the entries in turn. -/
def placeAll (state : List Frame × SourceIndex) (es : List (Entry × Option (List String))) :
    List Frame × SourceIndex :=
  (es.map Prod.fst).foldl place state

theorem placeAll_append (state : List Frame × SourceIndex) (es es' : List (Entry × Option (List String))) :
    placeAll state (es ++ es') = placeAll (placeAll state es) es' := by
  simp [placeAll, List.foldl_append]

theorem placeAll_cons (state : List Frame × SourceIndex) (e : Entry × Option (List String))
    (es : List (Entry × Option (List String))) :
    placeAll state (e :: es) = placeAll (place state e.1) es := rfl

theorem Frame.contains_item_of_owner {f : Frame} {col : Nat}
    (hf : f.Above col ∨ (f.indent = some col ∧ f.ownsItems = true)) {e : Entry}
    (he : e.indent = col) (hkind : e.kind = .item) : f.contains e = true := by
  rcases hf with hf | ⟨hi, hown⟩
  · exact hf.contains he
  · simp [Frame.contains, hi, hown, he, hkind]
    rfl

/-- The entries of a key's row when nothing precedes the key. -/
theorem rowsEntries_keyRow (line col : Nat) (path : List String) (key after : String)
    (rows : List Row) :
    rowsEntries line (.key (.fresh col) path key after :: rows) =
      (⟨line, col, .key key, flowAfter (col + key.length + 1) after⟩, some path) ::
        rowsEntries (line + 1) rows := by
  simp [rowsEntries_cons, rowEntries, leadEntries, Lead.fresh, Lead.column]

/-- The entries of an item's rows: the item's own entry, then those of its value. -/
theorem rowsEntries_item (line col : Nat) (p : List String) {x : Node} (hx : x.Written)
    (hne : x.isEmpty = false) :
    rowsEntries line (x.itemRows ⟨col, [p]⟩ p) =
      (⟨line, col, .item, none⟩, some p) :: rowsEntries line (x.itemRows (.fresh (col + 2)) p) := by
  have h := rowsEntries_itemRows line col [p] x p [] hx (.inr hne)
  simpa [leadEntries, Lead.fresh] using h

theorem rowsEntries_emptyItem (line col : Nat) (p : List String) {x : Node} (hx : x.isEmpty = true) :
    ∃ t, rowsEntries line (x.itemRows ⟨col, [p]⟩ p) =
      [(⟨line, col, .item, some (col + 2, t)⟩, some p)] ∧ (t = "[]" ∨ t = "\x7b\x7d") := by
  match x, hx with
  | .seq [], _ => exact ⟨"[]", by simp [Node.itemRows, rowsEntries, rowEntries, leadEntries, Lead.column]; rfl, .inl rfl⟩
  | .map [], _ => exact ⟨"\x7b\x7d", by simp [Node.itemRows, rowsEntries, rowEntries, leadEntries, Lead.column]; rfl, .inr rfl⟩

theorem flowAfter_plain (col : Nat) {s : String} (hs : Plain s) : flowAfter col (" " ++ s) = none := by
  obtain ⟨c, cs, hcs, -, -, -, -, -, hblank, -⟩ := hs.head
  have hdrop : (' ' :: s.toList).dropWhile Text.isBlank = s.toList := by
    rw [List.dropWhile_cons_of_pos (by decide), hcs, List.dropWhile_cons_of_neg (by simp [hblank])]
  simp [flowAfter, hdrop, hs.opensFlow_eq_false]

theorem inert_flowAfter_nil (col : Nat) : Inert (flowAfter col "") := .inl rfl

theorem inert_flowAfter_seq (col : Nat) : Inert (flowAfter col " []") := .inr ⟨col + 1, .inl rfl⟩

theorem inert_flowAfter_map (col : Nat) : Inert (flowAfter col " \x7b\x7d") := .inr ⟨col + 1, .inr rfl⟩

section Place

variable {junk rest : List Frame} {F : Frame} {col : Nat} {path : List String}

/-- A key at column `col` goes under the mapping's node, as the next key of its path. -/
theorem place_key (hjunk : Within col junk) (hF : F.Above col)
    (hlevel : F.level.getD (col, false) = (col, false)) (hpath : F.path = some path)
    (line : Nat) (key : String) {flow : Option (Nat × String)} (hflow : Inert flow) (idx : SourceIndex) :
    place (junk ++ F :: rest, idx) ⟨line, col, .key key, flow⟩ =
      (⟨some col, true, some (path ++ [key]), none, 0⟩ :: { F with level := some (col, false) } :: rest,
        recordAll idx [(⟨line, col, .key key, flow⟩, some (path ++ [key]))]) := by
  have hclose : closeUntil ⟨line, col, .key key, flow⟩ (junk ++ F :: rest) = F :: rest :=
    closeUntil_append (hF.contains rfl) junk (hjunk.contains (.inr ⟨rfl, rfl⟩))
  rw [place_of_closeUntil hclose hflow, Frame.childPath_key hlevel, hpath]
  rfl

/-- An item at column `col` goes under the sequence's node, as its next index. -/
theorem place_item (hjunk : ClosedAt col junk)
    (hF : F.Above col ∨ (F.indent = some col ∧ F.ownsItems = true))
    (hlevel : F.level.getD (col, true) = (col, true)) (hpath : F.path = some path)
    (line : Nat) {flow : Option (Nat × String)} (hflow : Inert flow) (idx : SourceIndex) :
    place (junk ++ F :: rest, idx) ⟨line, col, .item, flow⟩ =
      (⟨some col, false, some (path ++ [toString F.items]), none, 0⟩ ::
          { F with level := some (col, true), items := F.items + 1 } :: rest,
        recordAll idx [(⟨line, col, .item, flow⟩, some (path ++ [toString F.items]))]) := by
  have hclose : closeUntil ⟨line, col, .item, flow⟩ (junk ++ F :: rest) = F :: rest :=
    closeUntil_append (F.contains_item_of_owner hF rfl rfl) junk (hjunk.contains (le_refl col))
  rw [place_of_closeUntil hclose hflow, Frame.childPath_item hlevel, hpath]
  rfl

/-- A scalar after an item's dash opens a node with no path. -/
theorem place_scalar (hF : F.Above col) (hlevel : F.level = none) (line : Nat) (idx : SourceIndex) :
    place (F :: rest, idx) ⟨line, col, .scalar, none⟩ =
      (⟨some col, false, none, none, 0⟩ :: { F with level := some (col, false) } :: rest, idx) := by
  have hclose : closeUntil ⟨line, col, .scalar, none⟩ (F :: rest) = F :: rest :=
    closeUntil_append (hF.contains rfl) [] (by simp)
  rw [place_of_closeUntil hclose (.inl rfl), Frame.childPath_scalar hlevel]
  rfl

end Place

mutual

/-- The rows of an item's value at column `col`, placed under the item's node `O`: every entry
gets the path of the layout, and what stays open lies at `col` or deeper. -/
theorem placeAll_itemRows (col : Nat) : ∀ (x : Node) (path : List String) (line : Nat) (O : Frame)
    (rest : List Frame) (idx : SourceIndex), x.Written → x.isEmpty = false → O.Above col →
    O.level = none → O.items = 0 → O.path = some path →
    ∃ junk O', placeAll (O :: rest, idx) (rowsEntries line (x.itemRows (.fresh col) path)) =
        (junk ++ O' :: rest, recordAll idx (rowsEntries line (x.itemRows (.fresh col) path))) ∧
      Within col junk ∧ O'.indent = O.indent ∧ O'.ownsItems = O.ownsItems
  | .scalar s, path, line, O, rest, idx, hx, _, hO, hlevel, _, _ => by
    have hs : Plain s := by cases hx; assumption
    have hrows : rowsEntries line ((Node.scalar s).itemRows (.fresh col) path) =
        [(⟨line, col, .scalar, none⟩, none)] := by
      simp [Node.itemRows, rowsEntries, rowEntries, hs.opensFlow_eq_false, leadEntries, Lead.fresh,
        Lead.column]
    refine ⟨[⟨some col, false, none, none, 0⟩], { O with level := some (col, false) }, ?_, ?_, rfl, rfl⟩
    · rw [hrows, placeAll_cons, place_scalar hO hlevel]
      rfl
    · intro f hf
      obtain rfl := List.mem_singleton.mp hf
      exact ⟨col, rfl, le_refl col⟩
  | .seq [], _, _, _, _, _, _, hne, _, _, _, _ => absurd hne (by decide)
  | .map [], _, _, _, _, _, _, hne, _, _, _, _ => absurd hne (by decide)
  | .seq (y :: ys), path, line, O, rest, idx, hx, _, hO, hlevel, hitems, hpath => by
    have hys : ∀ x ∈ y :: ys, x.Written := by cases hx; assumption
    obtain ⟨junk, level, hrun, hjunk, -⟩ := placeAll_seqRows col path (y :: ys) 0 line [] O rest idx
      hys (fun f hf => absurd hf List.not_mem_nil) (.inl hO) (by simp [hlevel]) hitems hpath
    exact ⟨junk, _, hrun, hjunk.within, rfl, rfl⟩
  | .map (f :: fs), path, line, O, rest, idx, hx, _, hO, hlevel, _, hpath => by
    obtain ⟨hkeys, hvalues⟩ : (∀ g ∈ f :: fs, Plain g.1) ∧ (∀ g ∈ f :: fs, g.2.Written) := by
      cases hx
      exact ⟨‹_›, ‹_›⟩
    obtain ⟨junk, level, hrun, hjunk, -⟩ := placeAll_mapRows col path (f :: fs) line [] O rest idx
      hkeys hvalues (fun f hf => absurd hf List.not_mem_nil) hO (by simp [hlevel]) hpath
    exact ⟨junk, _, hrun, hjunk, rfl, rfl⟩

/-- The rows of a mapping entry at column `col`, placed under the mapping's node `F`. -/
theorem placeAll_keyRows (col : Nat) : ∀ (v : Node) (path : List String) (key : String)
    (line : Nat) (junk : List Frame) (F : Frame) (rest : List Frame) (idx : SourceIndex),
    Plain key → v.Written → Within col junk → F.Above col →
    F.level.getD (col, false) = (col, false) → F.path = some path →
    ∃ junk', placeAll (junk ++ F :: rest, idx) (rowsEntries line (v.keyRows (.fresh col) (path ++ [key]) key)) =
        (junk' ++ { F with level := some (col, false) } :: rest,
          recordAll idx (rowsEntries line (v.keyRows (.fresh col) (path ++ [key]) key))) ∧
      Within col junk'
  | .scalar s, path, key, line, junk, F, rest, idx, _, hv, hjunk, hF, hlevel, hpath => by
    have hs : Plain s := by cases hv; assumption
    refine ⟨[⟨some col, true, some (path ++ [key]), none, 0⟩], ?_, ?_⟩
    · simp only [Node.keyRows, rowsEntries_keyRow, flowAfter_plain _ hs, placeAll_cons]
      rw [place_key hjunk hF hlevel hpath line key (.inl rfl) idx]
      rfl
    · intro f hf
      obtain rfl := List.mem_singleton.mp hf
      exact ⟨col, rfl, le_refl col⟩
  | .seq [], path, key, line, junk, F, rest, idx, _, _, hjunk, hF, hlevel, hpath => by
    refine ⟨[⟨some col, true, some (path ++ [key]), none, 0⟩], ?_, ?_⟩
    · simp only [Node.keyRows, rowsEntries_keyRow, placeAll_cons]
      rw [place_key hjunk hF hlevel hpath line key (inert_flowAfter_seq _) idx]
      rfl
    · intro f hf
      obtain rfl := List.mem_singleton.mp hf
      exact ⟨col, rfl, le_refl col⟩
  | .map [], path, key, line, junk, F, rest, idx, _, _, hjunk, hF, hlevel, hpath => by
    refine ⟨[⟨some col, true, some (path ++ [key]), none, 0⟩], ?_, ?_⟩
    · simp only [Node.keyRows, rowsEntries_keyRow, placeAll_cons]
      rw [place_key hjunk hF hlevel hpath line key (inert_flowAfter_map _) idx]
      rfl
    · intro f hf
      obtain rfl := List.mem_singleton.mp hf
      exact ⟨col, rfl, le_refl col⟩
  | .seq (y :: ys), path, key, line, junk, F, rest, idx, _, hv, hjunk, hF, hlevel, hpath => by
    have hys : ∀ x ∈ y :: ys, x.Written := by cases hv; assumption
    rw [keyRows_seq, rowsEntries_keyRow, placeAll_cons,
      place_key hjunk hF hlevel hpath line key (inert_flowAfter_nil _) idx]
    -- the sequence below the key is written at the key's own column: the key's node owns it
    obtain ⟨junk₁, level, hrun, hjunk₁, -⟩ := placeAll_seqRows col (path ++ [key]) (y :: ys) 0 (line + 1)
      [] ⟨some col, true, some (path ++ [key]), none, 0⟩ ({ F with level := some (col, false) } :: rest)
      (recordAll idx [(⟨line, col, .key key, flowAfter (col + key.length + 1) ""⟩, some (path ++ [key]))])
      hys (fun f hf => absurd hf List.not_mem_nil) (.inr ⟨rfl, rfl⟩) rfl rfl rfl
    refine ⟨junk₁ ++ [{ (⟨some col, true, some (path ++ [key]), none, 0⟩ : Frame) with
      level := level, items := 0 + (y :: ys).length }], ?_, ?_⟩
    · rw [List.nil_append] at hrun
      rw [hrun, List.append_assoc, List.singleton_append]
      rfl
    · intro f hf
      rcases List.mem_append.mp hf with hf | hf
      · exact hjunk₁.within f hf
      · obtain rfl := List.mem_singleton.mp hf
        exact ⟨col, rfl, le_refl col⟩
  | .map (g :: gs), path, key, line, junk, F, rest, idx, _, hv, hjunk, hF, hlevel, hpath => by
    obtain ⟨hkeys, hvalues⟩ : (∀ f ∈ g :: gs, Plain f.1) ∧ (∀ f ∈ g :: gs, f.2.Written) := by
      cases hv
      exact ⟨‹_›, ‹_›⟩
    rw [keyRows_map, rowsEntries_keyRow, placeAll_cons,
      place_key hjunk hF hlevel hpath line key (inert_flowAfter_nil _) idx]
    obtain ⟨junk₁, level, hrun, hjunk₁, -⟩ := placeAll_mapRows (col + 2) (path ++ [key]) (g :: gs)
      (line + 1) [] ⟨some col, true, some (path ++ [key]), none, 0⟩
      ({ F with level := some (col, false) } :: rest)
      (recordAll idx [(⟨line, col, .key key, flowAfter (col + key.length + 1) ""⟩, some (path ++ [key]))])
      hkeys hvalues (fun f hf => absurd hf List.not_mem_nil) (fun i hi => by cases hi; omega) rfl rfl
    refine ⟨junk₁ ++ [{ (⟨some col, true, some (path ++ [key]), none, 0⟩ : Frame) with
      level := level }], ?_, ?_⟩
    · rw [List.nil_append] at hrun
      rw [hrun, List.append_assoc, List.singleton_append]
      rfl
    · intro f hf
      rcases List.mem_append.mp hf with hf | hf
      · exact (hjunk₁.mono (Nat.le_add_right col 2)) f hf
      · obtain rfl := List.mem_singleton.mp hf
        exact ⟨col, rfl, le_refl col⟩

/-- The rows of sequence items at column `col` from `index` on, placed under the sequence's
node `F`: each item gets the next index. -/
theorem placeAll_seqRows (col : Nat) (path : List String) : ∀ (xs : List Node) (index line : Nat)
    (junk : List Frame) (F : Frame) (rest : List Frame) (idx : SourceIndex),
    (∀ x ∈ xs, x.Written) → ClosedAt col junk →
    (F.Above col ∨ (F.indent = some col ∧ F.ownsItems = true)) →
    F.level.getD (col, true) = (col, true) → F.items = index → F.path = some path →
    ∃ junk' level, placeAll (junk ++ F :: rest, idx) (rowsEntries line (seqRows (.fresh col) path index xs)) =
        (junk' ++ { F with level := level, items := index + xs.length } :: rest,
          recordAll idx (rowsEntries line (seqRows (.fresh col) path index xs))) ∧
      ClosedAt col junk' ∧ level.getD (col, true) = (col, true)
  | [], index, line, junk, F, rest, idx, _, hjunk, _, hlevel, hitems, _ => by
    refine ⟨junk, F.level, ?_, hjunk, hlevel⟩
    subst hitems
    simp [seqRows, rowsEntries, placeAll, recordAll, marksOf]
  | x :: xs, index, line, junk, F, rest, idx, hxs, hjunk, hF, hlevel, hitems, hpath => by
    have hx := hxs x List.mem_cons_self
    -- the item's entry opens a node for the item, and its value's entries go under that node
    obtain ⟨junk₁, I, hrun₁, hjunk₁, hI, hown⟩ : ∃ junk₁ I,
        placeAll (junk ++ F :: rest, idx)
            (rowsEntries line (x.itemRows ⟨col, [path ++ [toString index]]⟩ (path ++ [toString index]))) =
          (junk₁ ++ I :: { F with level := some (col, true), items := index + 1 } :: rest,
            recordAll idx (rowsEntries line
              (x.itemRows ⟨col, [path ++ [toString index]]⟩ (path ++ [toString index])))) ∧
        Within (col + 2) junk₁ ∧ I.indent = some col ∧ I.ownsItems = false := by
      cases hne : x.isEmpty with
      | false =>
        rw [rowsEntries_item line col _ hx hne, placeAll_cons,
          place_item hjunk hF hlevel hpath line (.inl rfl) idx, hitems]
        obtain ⟨junk₁, I, hrun, hjunk₁, hind, hown⟩ := placeAll_itemRows (col + 2) x
          (path ++ [toString index]) line ⟨some col, false, some (path ++ [toString index]), none, 0⟩
          ({ F with level := some (col, true), items := index + 1 } :: rest)
          (recordAll idx [(⟨line, col, .item, none⟩, some (path ++ [toString index]))])
          hx hne (fun i hi => by cases hi; omega) rfl rfl rfl
        exact ⟨junk₁, I, hrun, hjunk₁, hind, hown⟩
      | true =>
        obtain ⟨t, ht, htext⟩ := rowsEntries_emptyItem line col (path ++ [toString index]) hne
        have hflow : Inert (some (col + 2, t)) := by
          rcases htext with rfl | rfl
          · exact .inr ⟨col + 2, .inl rfl⟩
          · exact .inr ⟨col + 2, .inr rfl⟩
        rw [ht, placeAll_cons, place_item hjunk hF hlevel hpath line hflow idx, hitems]
        exact ⟨[], _, rfl, fun f hf => absurd hf List.not_mem_nil, rfl, rfl⟩
    have hclosed : ClosedAt col (junk₁ ++ [I]) := by
      intro f hf
      rcases List.mem_append.mp hf with hf | hf
      · exact hjunk₁.closedAt f hf
      · obtain rfl := List.mem_singleton.mp hf
        exact ⟨col, hI, .inr ⟨rfl, hown⟩⟩
    obtain ⟨junk', level, hrun₂, hjunk', hlevel'⟩ := placeAll_seqRows col path xs (index + 1)
      (line + (x.itemRows ⟨col, [path ++ [toString index]]⟩ (path ++ [toString index])).length)
      (junk₁ ++ [I]) { F with level := some (col, true), items := index + 1 } rest
      (recordAll idx (rowsEntries line
        (x.itemRows ⟨col, [path ++ [toString index]]⟩ (path ++ [toString index]))))
      (fun x' hx' => hxs x' (List.mem_cons_of_mem x hx')) hclosed hF rfl rfl hpath
    rw [List.append_assoc, List.singleton_append] at hrun₂
    refine ⟨junk', level, ?_, hjunk', hlevel'⟩
    rw [seqRows_fresh_cons, rowsEntries_append, placeAll_append, hrun₁, hrun₂, recordAll_append,
      List.length_cons, Nat.add_right_comm, Nat.add_assoc]

/-- The rows of mapping entries at column `col`, placed under the mapping's node `F`. -/
theorem placeAll_mapRows (col : Nat) (path : List String) : ∀ (fs : List (String × Node))
    (line : Nat) (junk : List Frame) (F : Frame) (rest : List Frame) (idx : SourceIndex),
    (∀ f ∈ fs, Plain f.1) → (∀ f ∈ fs, f.2.Written) → Within col junk → F.Above col →
    F.level.getD (col, false) = (col, false) → F.path = some path →
    ∃ junk' level, placeAll (junk ++ F :: rest, idx) (rowsEntries line (mapRows (.fresh col) path fs)) =
        (junk' ++ { F with level := level } :: rest,
          recordAll idx (rowsEntries line (mapRows (.fresh col) path fs))) ∧
      Within col junk' ∧ level.getD (col, false) = (col, false)
  | [], line, junk, F, rest, idx, _, _, hjunk, _, hlevel, _ => by
    refine ⟨junk, F.level, ?_, hjunk, hlevel⟩
    simp [mapRows, rowsEntries, placeAll, recordAll, marksOf]
  | (k, v) :: fs, line, junk, F, rest, idx, hkeys, hvalues, hjunk, hF, hlevel, hpath => by
    obtain ⟨junk₁, hrun₁, hjunk₁⟩ := placeAll_keyRows col v path k line junk F rest idx
      (hkeys _ List.mem_cons_self) (hvalues _ List.mem_cons_self) hjunk hF hlevel hpath
    obtain ⟨junk', level, hrun₂, hjunk', hlevel'⟩ := placeAll_mapRows col path fs
      (line + (v.keyRows (.fresh col) (path ++ [k]) k).length) junk₁
      { F with level := some (col, false) } rest _ (fun f hf => hkeys f (List.mem_cons_of_mem _ hf))
      (fun f hf => hvalues f (List.mem_cons_of_mem _ hf)) hjunk₁ hF rfl hpath
    refine ⟨junk', level, ?_, hjunk', hlevel'⟩
    rw [mapRows_fresh_cons, rowsEntries_append, placeAll_append, hrun₁, hrun₂, recordAll_append]

end

end Covenant.SourceIndex.Block
