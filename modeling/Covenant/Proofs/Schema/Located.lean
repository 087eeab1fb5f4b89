import Covenant.Proofs.Yaml.Render
import Covenant.Proofs.SourceIndex.BlockLocate
import Covenant.Proofs.Pointer.Escape
import Covenant.Schema.Check

/-!
# Keywords located in a rendered schema

A schema's failures are located in its YAML rendering (`locateKeyword`). When the emitter writes
every key and every scalar of the value plain, and each reads back unchanged as a plain scalar
(`PlainWritten`), the rendering is the text of a hand-written block document (`Node.ofJson`),
row for row (`rows_ofJson` with `render_eq_rowsText`). The block index of that text answers
each pointer into the value with the place where the member's key or the item's dash begins
(`plain_keyword_located`).

A key the emitter writes plain may still be one the scanner does not read back: `?x` is written
as it is, and the scanner takes a line starting with `?` for an explicit key. `PlainWritten`
asks for keys that read back (`Plain`), which rules such keys out.
-/

namespace Covenant.SourceIndex.Block

open Yaml Yaml.Emit
open Yaml.Layout (Lead Row rowsText)

/-- A key the emitter writes plain as a one-line simple key, and the scanner reads back as it
is. -/
structure PlainKey (key : String) : Prop where
  simple : isSimpleKey key = true
  style : keyStyle key = .plain
  reads : Plain key

theorem PlainKey.keyText_eq {key : String} (h : PlainKey key) : keyText key = key := by
  rw [keyText, h.style]
  rfl

/-- A word the emitter asks no style for and is allowed to write plain, short enough to be a
simple key. -/
structure PlainWord (s : String) : Prop where
  any : requestedStyle s = .any
  allowed : (analyze s).blockPlainAllowed = true
  nonempty : s.isEmpty = false
  short : s.utf8ByteSize ≤ 128

theorem PlainWord.valueStyle {s : String} (h : PlainWord s) :
    valueStyle s (requestedStyle s) = .plain := by
  simp [Yaml.valueStyle, selectStyle, h.any, h.allowed]

theorem PlainWord.plainKey {s : String} (h : PlainWord s) (hreads : Plain s) : PlainKey s where
  simple := by
    simp [isSimpleKey, h.any, analyze_multiline, h.short]
    exact ⟨rfl, (plainText_of_analyze h.allowed).noBreak⟩
  style := by simp [keyStyle, selectStyle, h.any, h.allowed, h.nonempty]
  reads := hreads

/-- A value the emitter writes in plain block style: each scalar is written plain and reads back
as it is, each key is a `PlainKey`, and no mapping repeats a key. -/
inductive PlainWritten : Json → Prop
  | scalar {x : Json} {s : String} {req : RequestedStyle} : scalarOf x = some (s, req) →
      valueStyle s req = .plain → Plain s → PlainWritten x
  | arr {items : List Json} : (∀ x ∈ items, PlainWritten x) → PlainWritten (.arr items)
  | obj {fields : List (String × Json)} : (fields.map Prod.fst).Nodup →
      (∀ f ∈ fields, PlainKey f.1) → (∀ f ∈ fields, PlainWritten f.2) →
      PlainWritten (.obj fields)

namespace PlainWritten

theorem items {items : List Json} (h : PlainWritten (.arr items)) :
    ∀ x ∈ items, PlainWritten x := by
  cases h with
  | scalar hs => simp [scalarOf] at hs
  | arr h => exact h

theorem fields {fields : List (String × Json)} (h : PlainWritten (.obj fields)) :
    (fields.map Prod.fst).Nodup ∧ (∀ f ∈ fields, PlainKey f.1) ∧
      ∀ f ∈ fields, PlainWritten f.2 := by
  cases h with
  | scalar hs => simp [scalarOf] at hs
  | obj hnd hkeys hvalues => exact ⟨hnd, hkeys, hvalues⟩

theorem scalar_plain {x : Json} {s : String} {req : RequestedStyle} (h : PlainWritten x)
    (hs : scalarOf x = some (s, req)) : valueStyle s req = .plain ∧ Plain s := by
  cases h with
  | scalar hs' hstyle hplain =>
    obtain ⟨rfl, rfl⟩ := Prod.mk.inj (Option.some.inj (hs.symm.trans hs'))
    exact ⟨hstyle, hplain⟩
  | arr _ => simp [scalarOf] at hs
  | obj _ _ _ => simp [scalarOf] at hs

theorem of_occurs {x v : Json} (hv : PlainWritten v) (hx : Json.Occurs x v) :
    PlainWritten x := by
  induction hx with
  | refl => exact hv
  | item hmem _ ih => exact ih (hv.items _ hmem)
  | field hmem _ ih => exact ih (hv.fields.2.2 _ hmem)

/-- A value written plain has no line break in its strings and only simple keys. -/
theorem breakless {v : Json} (hv : PlainWritten v) : Breakless v where
  strings s hs c hc := (scalar_plain (hv.of_occurs hs) (s := s) rfl).2.oneLine c hc
  keys _ hf e he := ((hv.of_occurs hf).fields.2.1 e he).simple

end PlainWritten

/-! ## The document a value is written as -/

mutual

/-- The hand-written document a value is rendered as: each scalar as the emitter writes it. -/
def Node.ofJson : Json → Node
  | .arr items => .seq (Node.ofJsonList items)
  | .obj fields => .map (Node.ofJsonFields fields)
  | x => .scalar ((scalarOf x).elim "" fun (s, req) => scalarText s (valueStyle s req))

def Node.ofJsonList : List Json → List Node
  | [] => []
  | x :: xs => Node.ofJson x :: Node.ofJsonList xs

def Node.ofJsonFields : List (String × Json) → List (String × Node)
  | [] => []
  | (k, x) :: fs => (k, Node.ofJson x) :: Node.ofJsonFields fs

end

theorem Node.ofJsonList_eq : ∀ xs : List Json, Node.ofJsonList xs = xs.map Node.ofJson
  | [] => rfl
  | x :: xs => by rw [Node.ofJsonList, Node.ofJsonList_eq xs, List.map_cons]

theorem Node.ofJsonFields_eq :
    ∀ fs : List (String × Json), Node.ofJsonFields fs = fs.map fun f => (f.1, Node.ofJson f.2)
  | [] => rfl
  | (k, x) :: fs => by rw [Node.ofJsonFields, Node.ofJsonFields_eq fs, List.map_cons]

theorem Node.ofJson_of_scalarOf {x : Json} {s : String} {req : RequestedStyle}
    (h : scalarOf x = some (s, req)) :
    Node.ofJson x = .scalar (scalarText s (valueStyle s req)) := by
  cases x <;> simp only [scalarOf, Option.some.injEq, Prod.mk.injEq, reduceCtorEq] at h <;>
    obtain ⟨rfl, rfl⟩ := h <;> rfl

theorem PlainWritten.written {x : Json} (hx : PlainWritten x) : (Node.ofJson x).Written := by
  induction hx with
  | scalar hs hstyle hplain =>
    rw [Node.ofJson_of_scalarOf hs, hstyle]
    exact .scalar hplain
  | arr _ ih =>
    rw [Node.ofJson, Node.ofJsonList_eq]
    refine .seq fun y hy => ?_
    obtain ⟨x, hx, rfl⟩ := List.mem_map.mp hy
    exact ih x hx
  | obj hnd hkeys _ ih =>
    rw [Node.ofJson, Node.ofJsonFields_eq]
    refine .map (by simpa [Function.comp_def] using hnd) (fun f hf => ?_) (fun f hf => ?_)
    · obtain ⟨g, hg, rfl⟩ := List.mem_map.mp hf
      exact (hkeys g hg).reads
    · obtain ⟨g, hg, rfl⟩ := List.mem_map.mp hf
      exact ih g hg

/-- A pointer reaches into a value exactly when it reaches into the document the value is
written as: the members and items are the same, only scalars differ. -/
theorem walk_toJson_ofJson : ∀ (p : List String) (v : Json),
    (Pointer.walk (Node.ofJson v).toJson p).isSome = (Pointer.walk v p).isSome
  | [], _ => rfl
  | t :: ts, v => by
    rw [walk_toJson_cons]
    cases v with
    | arr items =>
      simp only [Node.ofJson, Node.child, Pointer.walk, Node.ofJsonList_eq, List.getElem?_map]
      cases Pointer.parseIndex t with
      | none => rfl
      | some i =>
        cases hi : items[i]? with
        | none => simp [hi]
        | some y => simpa [hi] using walk_toJson_ofJson ts y
    | obj fields =>
      simp only [Node.ofJson, Node.child, Pointer.walk, Json.get?, Node.ofJsonFields_eq,
        List.find?_map, Function.comp_def, Option.map_map]
      cases fields.find? (·.1 == t) with
      | none => rfl
      | some f => exact walk_toJson_ofJson ts f.2
    | null | bool _ | num _ | str _ => rfl

/-- A value that a non-empty pointer reaches into is not an empty collection. -/
theorem Node.ofJson_isEmpty {v : Json} {t : String} {ts : List String}
    (h : (Pointer.walk v (t :: ts)).isSome) : (Node.ofJson v).isEmpty = false := by
  cases v with
  | arr items =>
    cases items with
    | nil => simp [Pointer.walk] at h
    | cons => rfl
  | obj fields =>
    cases fields with
    | nil => simp [Pointer.walk, Json.get?] at h
    | cons => rfl
  | null | bool _ | num _ | str _ => rfl

/-! ## The rendering is the document's text -/

section Rows

theorem itemRows_ofJson_scalar (lead : Lead) (path : List String) {x : Json} {s : String}
    {req : RequestedStyle} (hx : PlainWritten x) (h : scalarOf x = some (s, req)) :
    Layout.itemRows lead path x = (Node.ofJson x).itemRows lead path := by
  have hlit : valueStyle s req ≠ .literal := by simp [(hx.scalar_plain h).1]
  rw [itemRows_of_scalarOf h, scalarRows_of_ne_literal hlit, Node.ofJson_of_scalarOf h]
  rfl

theorem keyRows_ofJson_scalar (lead : Lead) (path : List String) {key : String}
    (hk : keyText key = key) {x : Json} {s : String} {req : RequestedStyle} (hx : PlainWritten x)
    (h : scalarOf x = some (s, req)) :
    Layout.keyRows lead path key x = (Node.ofJson x).keyRows lead path key := by
  have hlit : valueStyle s req ≠ .literal := by simp [(hx.scalar_plain h).1]
  rw [keyRows_of_scalarOf h, scalarRows_of_ne_literal hlit, Node.ofJson_of_scalarOf h, hk]
  rfl

/- The emitter's layout and the hand-written one agree shape by shape, once keys and scalars
are written as they read. -/
mutual

theorem itemRows_ofJson (lead : Lead) (path : List String) : ∀ x : Json, PlainWritten x →
    Layout.itemRows lead path x = (Node.ofJson x).itemRows lead path
  | .null, hx | .bool _, hx | .num _, hx | .str _, hx => itemRows_ofJson_scalar lead path hx rfl
  | .arr [], _ | .obj [], _ => rfl
  | .arr (x :: xs), hx => seqRows_ofJson lead path 0 (x :: xs) hx.items
  | .obj (f :: fs), hx => mapRows_ofJson lead path (f :: fs) hx.fields.2.1 hx.fields.2.2

theorem keyRows_ofJson (lead : Lead) (path : List String) (key : String)
    (hk : keyText key = key) : ∀ x : Json, PlainWritten x →
    Layout.keyRows lead path key x = (Node.ofJson x).keyRows lead path key
  | .null, hx | .bool _, hx | .num _, hx | .str _, hx =>
    keyRows_ofJson_scalar lead path hk hx rfl
  | .arr [], _ | .obj [], _ => by
    rw [Layout.keyRows, hk]
    rfl
  | .arr (x :: xs), hx => by
    rw [Layout.keyRows, hk, seqRows_ofJson _ path 0 (x :: xs) hx.items]
    rfl
  | .obj (f :: fs), hx => by
    rw [Layout.keyRows, hk, mapRows_ofJson _ path (f :: fs) hx.fields.2.1 hx.fields.2.2]
    rfl

theorem seqRows_ofJson (lead : Lead) (path : List String) (index : Nat) :
    ∀ xs : List Json, (∀ x ∈ xs, PlainWritten x) →
    Layout.seqRows lead path index xs = seqRows lead path index (Node.ofJsonList xs)
  | [], _ => rfl
  | x :: xs, h => by
    rw [Layout.seqRows, Node.ofJsonList, seqRows, itemRows_ofJson _ _ x (h x List.mem_cons_self),
      seqRows_ofJson _ path (index + 1) xs fun y hy => h y (List.mem_cons_of_mem x hy)]

theorem mapRows_ofJson (lead : Lead) (path : List String) : ∀ fs : List (String × Json),
    (∀ f ∈ fs, PlainKey f.1) → (∀ f ∈ fs, PlainWritten f.2) →
    Layout.mapRows lead path fs = mapRows lead path (Node.ofJsonFields fs)
  | [], _, _ => rfl
  | (k, x) :: fs, hk, hx => by
    rw [Layout.mapRows, Node.ofJsonFields, mapRows,
      keyRows_ofJson _ _ k (hk _ List.mem_cons_self).keyText_eq x (hx _ List.mem_cons_self),
      mapRows_ofJson _ path fs (fun f hf => hk f (List.mem_cons_of_mem _ hf))
        (fun f hf => hx f (List.mem_cons_of_mem _ hf))]

end

theorem rows_ofJson {v : Json} (hv : PlainWritten v) : Layout.rows v = (Node.ofJson v).rows := by
  rw [rows_eq_itemRows hv.breakless, itemRows_ofJson _ _ v hv, Node.rows]

/-- A value written plain renders as the text of the document it is written as. -/
theorem render_ofJson {v : Json} (hv : PlainWritten v) : render v = (Node.ofJson v).text := by
  rw [render_eq_rowsText hv.breakless, rows_ofJson hv, Node.text]

theorem marks_ofJson {v : Json} (hv : PlainWritten v) :
    Layout.marks v = (Node.ofJson v).marks := by
  rw [Layout.marks, rows_ofJson hv, Node.marks]

end Rows

end Covenant.SourceIndex.Block

/-! ## Keywords located in a rendered schema -/

namespace Covenant.Schema

open Yaml Yaml.Emit SourceIndex.Block

/-- In a list whose keys are distinct, a lookup finds the entry of its key. -/
theorem lookup_eq_some_of_mem {α β : Type} [BEq α] [LawfulBEq α] {es : List (α × β)}
    (hnd : (es.map Prod.fst).Nodup) {a : α} {b : β} (h : (a, b) ∈ es) :
    es.lookup a = some b := by
  obtain ⟨l₁, l₂, rfl⟩ := List.append_of_mem h
  refine List.lookup_eq_some_iff.mpr ⟨l₁, l₂, rfl, fun e he => ?_⟩
  -- the key occurs once, in the entry found
  rw [List.map_append, List.map_cons, List.nodup_append] at hnd
  exact bne_iff_ne.mpr (hnd.2.2 e.1 (List.mem_map_of_mem he) a List.mem_cons_self).symm

/-- A schema that names its type and requires one property: `type: object`, `required:`,
`- id`. -/
def requiredIdSchema : Json := .obj [("type", .str "object"), ("required", .arr [.str "id"])]

theorem requiredIdSchema_plainWritten : PlainWritten requiredIdSchema := by
  -- each word asks no style and reads back as it is written
  have hword : ∀ s ∈ ["type", "required", "object", "id"], PlainWord s ∧ Plain s := by
    intro s hs
    simp only [List.mem_cons, List.not_mem_nil, or_false] at hs
    rcases hs with rfl | rfl | rfl | rfl <;>
      exact ⟨⟨requestedStyle_eq_any (by decide +kernel) (by decide +kernel) (by decide +kernel)
        (by decide +kernel), by decide +kernel, by decide +kernel, by decide +kernel⟩,
        Plain.of_letters (by simp) (by simp)⟩
  simp only [List.mem_cons, List.not_mem_nil, or_false, forall_eq_or_imp, forall_eq] at hword
  obtain ⟨⟨htype, htype'⟩, ⟨hrequired, hrequired'⟩, ⟨hobject, hobject'⟩, ⟨hid, hid'⟩⟩ :=
    hword
  refine .obj (by decide) ?_ ?_
  · simp only [List.mem_cons, List.not_mem_nil, or_false, forall_eq_or_imp, forall_eq]
    exact ⟨htype.plainKey htype', hrequired.plainKey hrequired'⟩
  · simp only [List.mem_cons, List.not_mem_nil, or_false, forall_eq_or_imp, forall_eq]
    refine ⟨.scalar rfl hobject.valueStyle hobject', .arr ?_⟩
    simp only [List.mem_cons, List.not_mem_nil, or_false, forall_eq]
    exact .scalar rfl hid.valueStyle hid'

end Covenant.Schema
