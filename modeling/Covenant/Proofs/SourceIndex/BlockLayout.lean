import Covenant.Proofs.SourceIndex.BlockLines

/-!
# Hand-written block documents

`Node` is a block YAML document whose scalars stay as written. Its rows are laid out the way
a hand-written document is (items at their key's column or deeper, several `- ` on one line,
empty collections as `[]` and `{}`), and the entries of those rows split at every item lead.
-/

namespace Covenant.SourceIndex.Block

open Yaml.Layout (Lead Row rowsText)

/-- A block YAML document as it is written by hand: scalars are kept as their text. -/
inductive Node where
  | scalar (text : String)
  | seq (items : List Node)
  | map (fields : List (String × Node))

/-- A document whose keys and scalars are one-line plain scalars and whose mappings repeat no
key. -/
inductive Node.Written : Node → Prop
  | scalar {s : String} : Plain s → Node.Written (.scalar s)
  | seq {items : List Node} : (∀ x ∈ items, Node.Written x) → Node.Written (.seq items)
  | map {fields : List (String × Node)} : (fields.map Prod.fst).Nodup → (∀ f ∈ fields, Plain f.1) →
      (∀ f ∈ fields, Node.Written f.2) → Node.Written (.map fields)

/-- Whether a node is an empty collection, written `[]` or `{}` in flow style. -/
def Node.isEmpty : Node → Bool
  | .seq [] | .map [] => true
  | _ => false

mutual

/-- The rows of an item's value; the lead ends with the item's dash, and a collection starts
on the item's row. -/
def Node.itemRows (lead : Lead) (path : List String) : Node → List Row
  | .scalar s => [.value lead s]
  | .seq [] => [.value lead "[]"]
  | .seq (x :: xs) => seqRows lead path 0 (x :: xs)
  | .map [] => [.value lead "\x7b\x7d"]
  | .map (f :: fs) => mapRows lead path (f :: fs)

/-- The rows of a mapping entry whose key begins after the lead: a sequence below the key at
its own column, a mapping one level deeper. -/
def Node.keyRows (lead : Lead) (path : List String) (key : String) : Node → List Row
  | .scalar s => [.key lead path key (" " ++ s)]
  | .seq [] => [.key lead path key " []"]
  | .seq (x :: xs) => .key lead path key "" :: seqRows (.fresh lead.column) path 0 (x :: xs)
  | .map [] => [.key lead path key " \x7b\x7d"]
  | .map (f :: fs) => .key lead path key "" :: mapRows (.fresh (lead.column + 2)) path (f :: fs)

/-- The rows of sequence items from `index` on; the first item's dash follows the lead. -/
def seqRows (lead : Lead) (path : List String) (index : Nat) : List Node → List Row
  | [] => []
  | x :: xs =>
    x.itemRows (lead.push (path ++ [toString index])) (path ++ [toString index]) ++
      seqRows (.fresh lead.column) path (index + 1) xs

/-- The rows of mapping entries; the first key follows the lead. -/
def mapRows (lead : Lead) (path : List String) : List (String × Node) → List Row
  | [] => []
  | (k, v) :: fs => v.keyRows lead (path ++ [k]) k ++ mapRows (.fresh lead.column) path fs

end

/-- The rows of a document, its value starting at the first column of the first row. -/
def Node.rows (d : Node) : List Row := d.itemRows (.fresh 0) []

/-- The text of a document. -/
def Node.text (d : Node) : String := rowsText d.rows

/-- Each key and item of a document with the line and column (from 1) where it begins. -/
def Node.marks (d : Node) : List (List String × Location) :=
  (d.rows.zipIdx 1).flatMap fun (r, n) => r.marks n

/-! Rows that start at a fresh lead, one equation per shape. -/

theorem seqRows_fresh_cons (col : Nat) (path : List String) (index : Nat) (x : Node)
    (xs : List Node) :
    seqRows (.fresh col) path index (x :: xs) =
      x.itemRows ⟨col, [path ++ [toString index]]⟩ (path ++ [toString index]) ++
        seqRows (.fresh col) path (index + 1) xs := by
  simp [seqRows, Lead.push, Lead.fresh, Lead.column]

theorem mapRows_fresh_cons (col : Nat) (path : List String) (k : String) (v : Node)
    (fs : List (String × Node)) :
    mapRows (.fresh col) path ((k, v) :: fs) =
      v.keyRows (.fresh col) (path ++ [k]) k ++ mapRows (.fresh col) path fs := by
  simp [mapRows, Lead.fresh, Lead.column]

theorem keyRows_seq (col : Nat) (path : List String) (key : String) (y : Node) (ys : List Node) :
    (Node.seq (y :: ys)).keyRows (.fresh col) path key =
      .key (.fresh col) path key "" :: seqRows (.fresh col) path 0 (y :: ys) := by
  simp [Node.keyRows, Lead.fresh, Lead.column]

theorem keyRows_map (col : Nat) (path : List String) (key : String) (g : String × Node)
    (gs : List (String × Node)) :
    (Node.map (g :: gs)).keyRows (.fresh col) path key =
      .key (.fresh col) path key "" :: mapRows (.fresh (col + 2)) path (g :: gs) := by
  simp [Node.keyRows, Lead.fresh, Lead.column]

theorem Plain.opensFlow_eq_false {s : String} (hs : Plain s) : opensFlow s.toList = false := by
  obtain ⟨c, cs, hcs, -, -, -, -, -, -, hind⟩ := hs.head
  simp [opensFlow, hcs]
  exact ⟨fun h => hind (.inl h), fun h => hind (.inr (.inl h))⟩

theorem leadEntries_cons_of_ne_nil (line indent : Nat) (p : List String) {ps : List (List String)}
    (hps : ps ≠ []) (flow : Option (Nat × String)) :
    leadEntries line indent (p :: ps) flow =
      (⟨line, indent, .item, none⟩, some p) :: leadEntries line (indent + 2) ps flow := by
  obtain ⟨q, qs, rfl⟩ := List.exists_cons_of_ne_nil hps
  rfl

/-- The items of a lead split at any point: the flow stays with the last item. -/
theorem leadEntries_append (line : Nat) (flow : Option (Nat × String)) :
    ∀ (A P : List (List String)) (n : Nat), (P ≠ [] ∨ flow = none) →
      leadEntries line n (A ++ P) flow =
        leadEntries line n A none ++ leadEntries line (n + 2 * A.length) P flow
  | [], P, n, _ => by simp [leadEntries]
  | p :: A, P, n, h => by
    rcases h with hP | rfl
    · rw [List.cons_append, leadEntries_cons_of_ne_nil line n p (by simp [hP]),
        leadEntries_append line flow A P (n + 2) (.inl hP), leadEntries_cons_none]
      simp [Nat.mul_add, Nat.add_assoc, Nat.add_comm 2]
    · rw [List.cons_append, leadEntries_cons_none, leadEntries_append line none A P (n + 2) (.inr rfl),
        leadEntries_cons_none]
      simp [Nat.mul_add, Nat.add_assoc, Nat.add_comm 2]

mutual

theorem length_itemRows (lead lead' : Lead) (path : List String) : ∀ x : Node,
    (x.itemRows lead path).length = (x.itemRows lead' path).length
  | .scalar _ | .seq [] | .map [] => rfl
  | .seq (x :: xs) => length_seqRows lead lead' path 0 (x :: xs)
  | .map (f :: fs) => length_mapRows lead lead' path (f :: fs)

theorem length_keyRows (lead lead' : Lead) (path : List String) (key : String) : ∀ v : Node,
    (v.keyRows lead path key).length = (v.keyRows lead' path key).length
  | .scalar _ | .seq [] | .map [] => rfl
  | .seq (x :: xs) => by
    simp only [Node.keyRows, List.length_cons,
      length_seqRows (.fresh lead.column) (.fresh lead'.column) path 0 (x :: xs)]
  | .map (f :: fs) => by
    simp only [Node.keyRows, List.length_cons,
      length_mapRows (.fresh (lead.column + 2)) (.fresh (lead'.column + 2)) path (f :: fs)]

theorem length_seqRows (lead lead' : Lead) (path : List String) (index : Nat) :
    ∀ xs : List Node, (seqRows lead path index xs).length = (seqRows lead' path index xs).length
  | [] => rfl
  | x :: xs => by
    simp only [seqRows, List.length_append,
      length_itemRows (lead.push (path ++ [toString index])) (lead'.push (path ++ [toString index]))
        (path ++ [toString index]) x,
      length_seqRows (.fresh lead.column) (.fresh lead'.column) path (index + 1) xs]

theorem length_mapRows (lead lead' : Lead) (path : List String) :
    ∀ fs : List (String × Node), (mapRows lead path fs).length = (mapRows lead' path fs).length
  | [] => rfl
  | (k, v) :: fs => by
    simp only [mapRows, List.length_append, length_keyRows lead lead' (path ++ [k]) k v,
      length_mapRows (.fresh lead.column) (.fresh lead'.column) path fs]

end

theorem column_split (n : Nat) (A P : List (List String)) :
    (⟨n, A ++ P⟩ : Lead).column = (⟨n + 2 * A.length, P⟩ : Lead).column := by
  simp [Lead.column, Nat.mul_add, Nat.add_assoc]

/-- Items opened before a key on its row come first; the rest of the key's rows depend only
on the key's column. -/
theorem rowsEntries_keyRows (line n : Nat) (A P : List (List String)) (path : List String)
    (key : String) (v : Node) :
    rowsEntries line (v.keyRows ⟨n, A ++ P⟩ path key) =
      leadEntries line n A none ++ rowsEntries line (v.keyRows ⟨n + 2 * A.length, P⟩ path key) := by
  have hcol := column_split n A P
  have hlead := leadEntries_append line none A P n (.inr rfl)
  cases v with
  | scalar s => simp [Node.keyRows, rowEntries, hcol, hlead, rowsEntries]
  | seq xs =>
    cases xs <;> simp [Node.keyRows, rowEntries, hcol, hlead, rowsEntries]
  | map fs =>
    cases fs <;> simp [Node.keyRows, rowEntries, hcol, hlead, rowsEntries]

/-- A row of items ending in a flow collection splits like its lead. -/
theorem rowsEntries_flowRow (line n : Nat) (A P : List (List String)) {t : String}
    (ht : opensFlow t.toList = true) (hP : P ≠ []) :
    rowsEntries line [.value ⟨n, A ++ P⟩ t] =
      leadEntries line n A none ++ rowsEntries line [.value ⟨n + 2 * A.length, P⟩ t] := by
  have hlead := leadEntries_append line (some ((⟨n + 2 * A.length, P⟩ : Lead).column, t)) A P n
    (.inl hP)
  simp [rowEntries, ht, column_split n A P, hlead, rowsEntries]

/-- Items opened before an item's value on its row come first; an empty collection's flow
stays with the item it is written after. -/
theorem rowsEntries_itemRows (line n : Nat) (A : List (List String)) :
    ∀ (x : Node) (path : List String) (P : List (List String)), x.Written →
      (P ≠ [] ∨ x.isEmpty = false) →
      rowsEntries line (x.itemRows ⟨n, A ++ P⟩ path) =
        leadEntries line n A none ++ rowsEntries line (x.itemRows ⟨n + 2 * A.length, P⟩ path)
  | .scalar s, path, P, hx, _ => by
    have hs : Plain s := by cases hx; assumption
    have hlead := leadEntries_append line none A P n (.inr rfl)
    simp [Node.itemRows, rowEntries, hs.opensFlow_eq_false, column_split n A P, hlead, rowsEntries]
  | .seq [], path, P, _, h =>
    rowsEntries_flowRow line n A P rfl (by simpa [Node.isEmpty] using h)
  | .map [], path, P, _, h =>
    rowsEntries_flowRow line n A P rfl (by simpa [Node.isEmpty] using h)
  | .seq (y :: ys), path, P, hx, _ => by
    have hy : y.Written := by cases hx with | seq h => exact h y List.mem_cons_self
    have hsplit := rowsEntries_itemRows line n A y (path ++ [toString 0])
      (P ++ [path ++ [toString 0]]) hy (.inl (by simp))
    have hlen := length_itemRows ⟨n, A ++ (P ++ [path ++ [toString 0]])⟩
      ⟨n + 2 * A.length, P ++ [path ++ [toString 0]]⟩ (path ++ [toString 0]) y
    simp only [Node.itemRows, seqRows, rowsEntries_append, Lead.push, List.append_assoc] at hsplit ⊢
    rw [hsplit, hlen, column_split n A P, List.append_assoc]
  | .map ((k, v) :: fs), path, P, _, _ => by
    simp only [Node.itemRows, mapRows, rowsEntries_append]
    rw [rowsEntries_keyRows line n A P (path ++ [k]) k v,
      length_keyRows ⟨n, A ++ P⟩ ⟨n + 2 * A.length, P⟩ (path ++ [k]) k v, column_split n A P,
      List.append_assoc]

/-- A text that holds no line break. -/
def OneLine (s : String) : Prop := ∀ c ∈ s.toList, Yaml.Scan.isBreakChar c = false

instance (s : String) : Decidable (OneLine s) :=
  inferInstanceAs (Decidable (∀ c ∈ s.toList, Yaml.Scan.isBreakChar c = false))

theorem OneLine.append {s t : String} (hs : OneLine s) (ht : OneLine t) : OneLine (s ++ t) := by
  intro c hc
  rw [String.toList_append, List.mem_append] at hc
  exact hc.elim (hs c) (ht c)

theorem oneLine_leadText (lead : Lead) : OneLine lead.text := by
  intro c hc
  rw [toList_leadText, List.mem_append, List.mem_replicate] at hc
  rcases hc with ⟨-, rfl⟩ | hc
  · decide
  · obtain ⟨l, hl, hcl⟩ := List.mem_flatten.mp hc
    obtain ⟨-, -, rfl⟩ := List.mem_map.mp hl
    rcases List.mem_pair.mp hcl with rfl | rfl <;> decide

theorem OneLine.isLine {s : String} (hs : OneLine s) : Text.IsLine s :=
  Text.isLine_of_notMem (fun h => absurd (hs _ h) (by decide)) (fun h => absurd (hs _ h) (by decide))

theorem isLine_value (lead : Lead) {s : String} (hs : OneLine s) :
    Text.IsLine (Row.value lead s).text :=
  ((oneLine_leadText lead).append hs).isLine

theorem isLine_key (lead : Lead) (path : List String) {key after : String} (hkey : Plain key)
    (hafter : OneLine after) : Text.IsLine (Row.key lead path key after).text :=
  ((((oneLine_leadText lead).append hkey.oneLine).append (by simp [OneLine, Yaml.Scan.isBreakChar])).append hafter).isLine

mutual

/-- Every row of a written value is read as it is laid out, on a line of its own. -/
theorem readable_itemRows (lead : Lead) (path : List String) : ∀ x : Node, x.Written →
    (x.isEmpty = false ∨ lead.items ≠ []) → ∀ r ∈ x.itemRows lead path, Readable r ∧ Text.IsLine r.text
  | .scalar s, hx, _, r, hr => by
    have hs : Plain s := by cases hx; assumption
    obtain rfl := List.mem_singleton.mp hr
    exact ⟨.inl hs, isLine_value lead hs.oneLine⟩
  | .seq [], _, h, r, hr => by
    obtain rfl := List.mem_singleton.mp hr
    exact ⟨.inr ⟨rfl, by simpa [Node.isEmpty] using h⟩, isLine_value lead (by simp [OneLine, Yaml.Scan.isBreakChar])⟩
  | .map [], _, h, r, hr => by
    obtain rfl := List.mem_singleton.mp hr
    exact ⟨.inr ⟨rfl, by simpa [Node.isEmpty] using h⟩, isLine_value lead (by simp [OneLine, Yaml.Scan.isBreakChar])⟩
  | .seq (x :: xs), hx, _, r, hr => by
    cases hx with
    | seq h => exact readable_seqRows lead path 0 (x :: xs) h r hr
  | .map (f :: fs), hx, _, r, hr => by
    cases hx with
    | map _ hkeys hvalues => exact readable_mapRows lead path (f :: fs) hkeys hvalues r hr

theorem readable_keyRows (lead : Lead) (path : List String) {key : String} (hkey : Plain key) :
    ∀ v : Node, v.Written → ∀ r ∈ v.keyRows lead path key, Readable r ∧ Text.IsLine r.text
  | .scalar s, hv, r, hr => by
    have hs : Plain s := by cases hv; assumption
    obtain rfl := List.mem_singleton.mp hr
    exact ⟨⟨hkey, .inr (by simp)⟩, isLine_key lead path hkey ((by simp [OneLine, Yaml.Scan.isBreakChar] : OneLine " ").append hs.oneLine)⟩
  | .seq [], _, r, hr => by
    obtain rfl := List.mem_singleton.mp hr
    exact ⟨⟨hkey, .inr (by simp)⟩, isLine_key lead path hkey (by simp [OneLine, Yaml.Scan.isBreakChar])⟩
  | .map [], _, r, hr => by
    obtain rfl := List.mem_singleton.mp hr
    exact ⟨⟨hkey, .inr (by simp)⟩, isLine_key lead path hkey (by simp [OneLine, Yaml.Scan.isBreakChar])⟩
  | .seq (x :: xs), hv, r, hr => by
    rcases List.mem_cons.mp hr with rfl | hr
    · exact ⟨⟨hkey, .inl rfl⟩, isLine_key lead path hkey (by simp [OneLine, Yaml.Scan.isBreakChar])⟩
    · cases hv with
      | seq h => exact readable_seqRows (.fresh lead.column) path 0 (x :: xs) h r hr
  | .map (f :: fs), hv, r, hr => by
    rcases List.mem_cons.mp hr with rfl | hr
    · exact ⟨⟨hkey, .inl rfl⟩, isLine_key lead path hkey (by simp [OneLine, Yaml.Scan.isBreakChar])⟩
    · cases hv with
      | map _ hkeys hvalues =>
        exact readable_mapRows (.fresh (lead.column + 2)) path (f :: fs) hkeys hvalues r hr

theorem readable_seqRows (lead : Lead) (path : List String) (index : Nat) : ∀ xs : List Node,
    (∀ x ∈ xs, x.Written) → ∀ r ∈ seqRows lead path index xs, Readable r ∧ Text.IsLine r.text
  | [], _, r, hr => absurd hr (List.not_mem_nil)
  | x :: xs, h, r, hr => by
    rcases List.mem_append.mp hr with hr | hr
    · exact readable_itemRows (lead.push (path ++ [toString index])) (path ++ [toString index]) x
        (h x List.mem_cons_self) (.inr (by simp [Lead.push])) r hr
    · exact readable_seqRows (.fresh lead.column) path (index + 1) xs
        (fun x' hx' => h x' (List.mem_cons_of_mem x hx')) r hr

theorem readable_mapRows (lead : Lead) (path : List String) : ∀ fs : List (String × Node),
    (∀ f ∈ fs, Plain f.1) → (∀ f ∈ fs, f.2.Written) →
      ∀ r ∈ mapRows lead path fs, Readable r ∧ Text.IsLine r.text
  | [], _, _, r, hr => absurd hr (List.not_mem_nil)
  | (k, v) :: fs, hkeys, hvalues, r, hr => by
    rcases List.mem_append.mp hr with hr | hr
    · exact readable_keyRows lead (path ++ [k]) (hkeys _ List.mem_cons_self) v
        (hvalues _ List.mem_cons_self) r hr
    · exact readable_mapRows (.fresh lead.column) path fs
        (fun f hf => hkeys f (List.mem_cons_of_mem _ hf))
        (fun f hf => hvalues f (List.mem_cons_of_mem _ hf)) r hr

end

end Covenant.SourceIndex.Block
