import Covenant.Proofs.SourceIndex.BlockFrames

/-!
# Locating pointers in block YAML

A hand-written block document is read by the block scanner entry by entry at the paths of its
layout (`placeAll_itemRows`), so its index records the marks of its rows in order. Those marks
name each member and item of the document once (`nodup_pointers`), and they name exactly what
the pointers into the value of the document reach (`walk_isSome_iff`). So the index answers a
pointer exactly when it reaches a member or item, with the place where that member's key or
that item's dash begins (`block_index_locates`).
-/

namespace Covenant.SourceIndex.Block

open Yaml.Layout (Lead Row rowsText)

/-! ## The value of a document and its pointers -/

mutual

/-- The value a document denotes. Each scalar stands for its text: a pointer never goes inside
a scalar, so which scalar a text is read as does not change what the pointers reach. -/
def Node.toJson : Node → Json
  | .scalar s => .str s
  | .seq items => .arr (Node.toJsonList items)
  | .map fields => .obj (Node.toJsonFields fields)

def Node.toJsonList : List Node → List Json
  | [] => []
  | x :: xs => x.toJson :: Node.toJsonList xs

def Node.toJsonFields : List (String × Node) → List (String × Json)
  | [] => []
  | (k, v) :: fs => (k, v.toJson) :: Node.toJsonFields fs

end

theorem Node.toJsonList_eq (xs : List Node) : Node.toJsonList xs = xs.map Node.toJson := by
  induction xs with
  | nil => rfl
  | cons x xs ih => rw [Node.toJsonList, ih, List.map_cons]

theorem Node.toJsonFields_eq (fs : List (String × Node)) :
    Node.toJsonFields fs = fs.map fun f => (f.1, f.2.toJson) := by
  induction fs with
  | nil => rfl
  | cons f fs ih =>
    obtain ⟨k, v⟩ := f
    rw [Node.toJsonFields, ih, List.map_cons]

/-- The member or item of a node that a pointer token names: the first member with that key,
or the item at the index the token spells. -/
def Node.child : Node → String → Option Node
  | .scalar _, _ => none
  | .seq items, t => (Pointer.parseIndex t).bind (items[·]?)
  | .map fields, t => (fields.find? (·.1 == t)).map (·.2)

/-- A pointer walks into the value of a document through the members and items it names. -/
theorem walk_toJson_cons (x : Node) (t : String) (ts : List String) :
    Pointer.walk x.toJson (t :: ts) = (x.child t).bind fun y => Pointer.walk y.toJson ts := by
  cases x with
  | scalar s => rfl
  | seq items =>
    simp only [Node.toJson, Pointer.walk, Node.child, Node.toJsonList_eq, List.getElem?_map]
    cases Pointer.parseIndex t <;> simp [Option.bind_map]
  | map fields =>
    simp only [Node.toJson, Pointer.walk, Json.get?, Node.child, Node.toJsonFields_eq,
      List.find?_map, Function.comp_def, Option.map_map]
    cases fields.find? (·.1 == t) <;> rfl

mutual

/-- The pointers to the members and items inside a node, in the order they are written. -/
def Node.pointers : Node → List (List String)
  | .scalar _ => []
  | .seq items => Node.itemPointers 0 items
  | .map fields => Node.fieldPointers fields

/-- The pointers into sequence items from `index` on. -/
def Node.itemPointers (index : Nat) : List Node → List (List String)
  | [] => []
  | x :: xs =>
    ([toString index] :: x.pointers.map (toString index :: ·)) ++ Node.itemPointers (index + 1) xs

/-- The pointers into mapping entries. -/
def Node.fieldPointers : List (String × Node) → List (List String)
  | [] => []
  | (k, v) :: fs => ([k] :: v.pointers.map (k :: ·)) ++ Node.fieldPointers fs

end

/-- The pointers a member or item contributes: itself, and the pointers inside it. -/
theorem mem_entryPointers {t u : String} {ts : List String} {ps : List (List String)} :
    t :: ts ∈ [u] :: ps.map (u :: ·) ↔ t = u ∧ (ts = [] ∨ ts ∈ ps) := by
  simp only [List.mem_cons, List.cons.injEq, List.mem_map]
  constructor
  · rintro (⟨rfl, rfl⟩ | ⟨q, hq, rfl, rfl⟩)
    · exact ⟨rfl, .inl rfl⟩
    · exact ⟨rfl, .inr hq⟩
  · rintro ⟨rfl, rfl | hts⟩
    · exact .inl ⟨rfl, rfl⟩
    · exact .inr ⟨ts, hts, rfl, rfl⟩

theorem mem_itemPointers {t : String} {ts : List String} : ∀ (xs : List Node) (index : Nat),
    t :: ts ∈ Node.itemPointers index xs ↔
      ∃ i y, t = toString (index + i) ∧ xs[i]? = some y ∧ (ts = [] ∨ ts ∈ y.pointers)
  | [], index => by simp [Node.itemPointers]
  | x :: xs, index => by
    rw [Node.itemPointers, List.mem_append, mem_entryPointers, mem_itemPointers xs (index + 1)]
    constructor
    · rintro (⟨rfl, hts⟩ | ⟨i, y, rfl, hy, hts⟩)
      · exact ⟨0, x, rfl, rfl, hts⟩
      · exact ⟨i + 1, y, by rw [Nat.add_right_comm, Nat.add_assoc], hy, hts⟩
    · rintro ⟨_ | i, y, rfl, hy, hts⟩
      · obtain rfl : x = y := by simpa using hy
        exact .inl ⟨rfl, hts⟩
      · exact .inr ⟨i, y, by rw [Nat.add_right_comm, Nat.add_assoc], hy, hts⟩

theorem mem_fieldPointers {t : String} {ts : List String} (fs : List (String × Node)) :
    t :: ts ∈ Node.fieldPointers fs ↔ ∃ y, (t, y) ∈ fs ∧ (ts = [] ∨ ts ∈ y.pointers) := by
  induction fs with
  | nil => simp [Node.fieldPointers]
  | cons f fs ih =>
    obtain ⟨k, v⟩ := f
    rw [Node.fieldPointers, List.mem_append, mem_entryPointers, ih]
    constructor
    · rintro (⟨rfl, hts⟩ | ⟨y, hy, hts⟩)
      · exact ⟨v, List.mem_cons_self, hts⟩
      · exact ⟨y, List.mem_cons_of_mem _ hy, hts⟩
    · rintro ⟨y, hy, hts⟩
      rcases List.mem_cons.mp hy with h | hy
      · obtain ⟨rfl, rfl⟩ := Prod.mk.inj h
        exact .inl ⟨rfl, hts⟩
      · exact .inr ⟨y, hy, hts⟩

/-- A pointer into a written node names one of its members or items, then goes on inside it. -/
theorem mem_pointers_cons {x : Node} (hx : x.Written) {t : String} {ts : List String} :
    t :: ts ∈ x.pointers ↔ ∃ y, x.child t = some y ∧ (ts = [] ∨ ts ∈ y.pointers) := by
  cases hx with
  | scalar => simp [Node.pointers, Node.child]
  | @seq items _ =>
    simp only [Node.pointers, mem_itemPointers, Nat.zero_add, Node.child, Option.bind_eq_some_iff,
      Pointer.parseIndex_eq_some_iff]
    constructor
    · rintro ⟨i, y, rfl, hy, hts⟩
      exact ⟨y, ⟨i, rfl, hy⟩, hts⟩
    · rintro ⟨y, ⟨i, rfl, hy⟩, hts⟩
      exact ⟨i, y, rfl, hy, hts⟩
  | @map fields hnodup _ _ =>
    simp only [Node.pointers, mem_fieldPointers, Node.child,
      Json.Grammar.find?_key_eq_some_iff hnodup]

theorem Node.Written.child {x y : Node} (hx : x.Written) {t : String} (h : x.child t = some y) :
    y.Written := by
  cases hx with
  | scalar => cases h
  | seq hitems =>
    obtain ⟨i, -, hi⟩ := Option.bind_eq_some_iff.mp h
    exact hitems y (List.mem_of_getElem? hi)
  | map hnodup _ hvalues =>
    exact hvalues (t, y) ((Json.Grammar.find?_key_eq_some_iff hnodup).mp h)

/-- A pointer reaches into the value of a written document exactly when it is one of the
document's pointers. -/
theorem walk_isSome_iff : ∀ (p : List String) {x : Node}, x.Written → p ≠ [] →
    ((Pointer.walk x.toJson p).isSome ↔ p ∈ x.pointers)
  | [], _, _, hp => absurd rfl hp
  | [t], x, hx, _ => by
    rw [walk_toJson_cons, mem_pointers_cons hx]
    cases x.child t <;> simp [Pointer.walk]
  | t :: t' :: ts, x, hx, _ => by
    rw [walk_toJson_cons, mem_pointers_cons hx]
    cases hc : x.child t with
    | none => simp
    | some y =>
      -- the rest of the pointer goes on inside the member or item it named
      have ih := walk_isSome_iff (t' :: ts) (hx.child hc) (List.cons_ne_nil t' ts)
      simp [ih]

/-! ## Each member and item is named once -/

theorem head_mem_itemPointers {p : List String} : ∀ {xs : List Node} {index : Nat},
    p ∈ Node.itemPointers index xs → ∃ i ts, p = toString (index + i) :: ts
  | [], _, h => absurd h List.not_mem_nil
  | x :: xs, index, h => by
    rw [Node.itemPointers, List.mem_append, List.mem_cons, List.mem_map] at h
    rcases h with (rfl | ⟨q, -, rfl⟩) | h
    · exact ⟨0, [], rfl⟩
    · exact ⟨0, q, rfl⟩
    · obtain ⟨i, ts, rfl⟩ := head_mem_itemPointers h
      exact ⟨i + 1, ts, by rw [Nat.add_right_comm, Nat.add_assoc]⟩

theorem head_mem_fieldPointers {p : List String} : ∀ {fs : List (String × Node)},
    p ∈ Node.fieldPointers fs → ∃ t ts, p = t :: ts ∧ t ∈ fs.map Prod.fst
  | [], h => absurd h List.not_mem_nil
  | (k, v) :: fs, h => by
    rw [Node.fieldPointers, List.mem_append, List.mem_cons, List.mem_map] at h
    rcases h with (rfl | ⟨q, -, rfl⟩) | h
    · exact ⟨k, [], rfl, List.mem_cons_self⟩
    · exact ⟨k, q, rfl, List.mem_cons_self⟩
    · obtain ⟨t, ts, rfl, ht⟩ := head_mem_fieldPointers h
      exact ⟨t, ts, rfl, List.mem_cons_of_mem k ht⟩

/-- Every pointer into a node names at least one member or item. -/
theorem nil_not_mem_pointers : ∀ x : Node, [] ∉ x.pointers
  | .scalar _ => List.not_mem_nil
  | .seq _ => fun h => by
    obtain ⟨_, _, h⟩ := head_mem_itemPointers h
    exact List.cons_ne_nil _ _ h.symm
  | .map _ => fun h => by
    obtain ⟨_, _, h, -⟩ := head_mem_fieldPointers h
    exact List.cons_ne_nil _ _ h.symm

/-- The pointers of a member or item, and then of the entries after it, are distinct when
those inside it are, those after it are, and none after it names the same token. -/
theorem nodup_entryPointers {u : String} {ps rest : List (List String)} (hps : ps.Nodup)
    (hnil : [] ∉ ps) (hrest : rest.Nodup) (hhead : ∀ p ∈ rest, p.head? ≠ some u) :
    (([u] :: ps.map (u :: ·)) ++ rest).Nodup := by
  have hsingle : [u] ∉ ps.map (u :: ·) := by
    rw [List.mem_map]
    rintro ⟨q, hq, hqu⟩
    obtain rfl := (List.cons.inj hqu).2
    exact hnil hq
  refine List.nodup_append.mpr ⟨List.nodup_cons.mpr ⟨hsingle, hps.map List.cons_injective⟩,
    hrest, ?_⟩
  -- everything this entry contributes starts with its own token
  intro a ha b hb hab
  have hhead_a : a.head? = some u := by
    rw [List.mem_cons, List.mem_map] at ha
    rcases ha with rfl | ⟨q, -, rfl⟩ <;> rfl
  exact hhead b hb (hab ▸ hhead_a)

mutual

/-- A written node names each of its members and items once. -/
theorem nodup_pointers : ∀ x : Node, x.Written → x.pointers.Nodup
  | .scalar _, _ => List.nodup_nil
  | .seq items, hx => by
    cases hx with
    | seq h => exact nodup_itemPointers 0 items h
  | .map fields, hx => by
    cases hx with
    | map hnodup _ hvalues => exact nodup_fieldPointers fields hnodup hvalues

theorem nodup_itemPointers (index : Nat) : ∀ xs : List Node, (∀ x ∈ xs, x.Written) →
    (Node.itemPointers index xs).Nodup
  | [], _ => List.nodup_nil
  | x :: xs, h => by
    refine nodup_entryPointers (nodup_pointers x (h x List.mem_cons_self)) (nil_not_mem_pointers x)
      (nodup_itemPointers (index + 1) xs fun y hy => h y (List.mem_cons_of_mem x hy)) ?_
    -- the items after this one spell larger indices
    intro p hp heq
    obtain ⟨i, ts, rfl⟩ := head_mem_itemPointers hp
    have hindex := Pointer.parseIndex_toString (index + 1 + i)
    rw [List.head?_cons, Option.some.injEq] at heq
    rw [heq, Pointer.parseIndex_toString, Option.some.injEq] at hindex
    omega

theorem nodup_fieldPointers : ∀ fs : List (String × Node), (fs.map Prod.fst).Nodup →
    (∀ f ∈ fs, f.2.Written) → (Node.fieldPointers fs).Nodup
  | [], _, _ => List.nodup_nil
  | (k, v) :: fs, hnodup, h => by
    have hk := List.nodup_cons.mp hnodup
    refine nodup_entryPointers (nodup_pointers v (h _ List.mem_cons_self)) (nil_not_mem_pointers v)
      (nodup_fieldPointers fs hk.2 fun f hf => h f (List.mem_cons_of_mem _ hf)) ?_
    -- the entries after this one have other keys
    intro p hp heq
    obtain ⟨t, ts, rfl, ht⟩ := head_mem_fieldPointers hp
    rw [List.head?_cons, Option.some.injEq] at heq
    exact hk.1 (heq ▸ ht)

end

/-! ## The marks the scanner records -/

@[simp] theorem marksOf_nil : marksOf [] = [] := rfl

@[simp] theorem marksOf_append (es es' : List (Entry × Option (List String))) :
    marksOf (es ++ es') = marksOf es ++ marksOf es' :=
  List.filterMap_append

/-- The items of a lead are recorded at their dashes, two columns apart. -/
theorem marksOf_leadEntries (line : Nat) (flow : Option (Nat × String)) :
    ∀ (ps : List (List String)) (indent : Nat),
      marksOf (leadEntries line indent ps flow) =
        ps.mapIdx fun j p => (p, ⟨line, (indent + 2 * j + 1 : Nat)⟩)
  | [], _ => rfl
  | [p], indent => by simp [leadEntries, marksOf]
  | p :: q :: qs, indent => by
    -- the next dash stands two columns on, so its index counts from one more
    have hcol : ∀ j : Nat, indent + 2 + 2 * j + 1 = indent + 2 * (j + 1) + 1 := fun j => by omega
    rw [leadEntries_cons_of_ne_nil line indent p (List.cons_ne_nil q qs), List.mapIdx_cons,
      ← List.singleton_append, marksOf_append,
      marksOf_leadEntries line flow (q :: qs) (indent + 2)]
    simp only [hcol]
    rfl

/-- The scanner records on a row the marks the layout gives it. -/
theorem marksOf_rowEntries (line : Nat) (r : Row) : marksOf (rowEntries line r) = r.marks line := by
  cases r with
  | key lead path written after =>
    rw [rowEntries, marksOf_append, marksOf_leadEntries]
    rfl
  | value lead written =>
    by_cases hflow : opensFlow written.toList = true
    · rw [rowEntries, if_pos hflow, marksOf_leadEntries]
      rfl
    · rw [rowEntries, if_neg hflow, marksOf_append, marksOf_leadEntries]
      exact List.append_nil _
  | raw _ => rfl

theorem marksOf_rowsEntries : ∀ (line : Nat) (rows : List Row),
    marksOf (rowsEntries line rows) = (rows.zipIdx line).flatMap fun (r, n) => r.marks n
  | _, [] => rfl
  | line, r :: rows => by
    rw [rowsEntries_cons, marksOf_append, marksOf_rowEntries, marksOf_rowsEntries (line + 1) rows,
      List.zipIdx_cons, List.flatMap_cons]

/-- The marks the scanner records on a document's rows are the document's marks. -/
theorem marksOf_rows (d : Node) : marksOf (rowsEntries 1 d.rows) = d.marks :=
  marksOf_rowsEntries 1 d.rows

/-! ## The marks name the pointers of the document -/

theorem Node.pointers_of_isEmpty {x : Node} (hx : x.isEmpty = true) : x.pointers = [] := by
  match x, hx with
  | .seq [], _ => rfl
  | .map [], _ => rfl

/-- A row that opens with a key and no item marks only the key. -/
theorem paths_keyRow (line col : Nat) (path : List String) (key after : String)
    (rows : List Row) :
    (marksOf (rowsEntries line (.key (.fresh col) path key after :: rows))).map Prod.fst =
      path :: (marksOf (rowsEntries (line + 1) rows)).map Prod.fst := by
  rw [rowsEntries_keyRow]
  rfl

mutual

/-- The marks of the rows of an item's value name the pointers into it, in order. -/
theorem paths_itemRows (col line : Nat) (path : List String) : ∀ x : Node, x.Written →
    (marksOf (rowsEntries line (x.itemRows (.fresh col) path))).map Prod.fst =
      x.pointers.map (path ++ ·)
  | .scalar _, _ | .seq [], _ | .map [], _ => by
    simp [Node.itemRows, marksOf_rowsEntries, Row.marks, Lead.marks, Lead.fresh, Node.pointers,
      Node.itemPointers, Node.fieldPointers]
  | .seq (y :: ys), hx => by
    cases hx with
    | seq h => exact paths_seqRows col path (y :: ys) 0 line h
  | .map (f :: fs), hx => by
    cases hx with
    | map _ _ hvalues => exact paths_mapRows col path (f :: fs) line hvalues

theorem paths_keyRows (col line : Nat) (path : List String) (key : String) : ∀ v : Node,
    v.Written → (marksOf (rowsEntries line (v.keyRows (.fresh col) (path ++ [key]) key))).map
      Prod.fst = (path ++ [key]) :: v.pointers.map (path ++ [key] ++ ·)
  | .scalar _, _ | .seq [], _ | .map [], _ => paths_keyRow line col (path ++ [key]) key _ []
  | .seq (y :: ys), hv => by
    cases hv with
    | seq h =>
      rw [keyRows_seq, paths_keyRow, paths_seqRows col (path ++ [key]) (y :: ys) 0 (line + 1) h]
      rfl
  | .map (g :: gs), hv => by
    cases hv with
    | map _ _ hvalues =>
      rw [keyRows_map, paths_keyRow, paths_mapRows (col + 2) (path ++ [key]) (g :: gs) (line + 1)
        hvalues]
      rfl

theorem paths_seqRows (col : Nat) (path : List String) : ∀ (xs : List Node) (index line : Nat),
    (∀ x ∈ xs, x.Written) →
    (marksOf (rowsEntries line (seqRows (.fresh col) path index xs))).map Prod.fst =
      (Node.itemPointers index xs).map (path ++ ·)
  | [], _, _, _ => rfl
  | x :: xs, index, line, h => by
    have hx := h x List.mem_cons_self
    -- the item's dash is marked first, then what its value holds
    have hitem : (marksOf (rowsEntries line (x.itemRows ⟨col, [path ++ [toString index]]⟩
        (path ++ [toString index])))).map Prod.fst =
          (path ++ [toString index]) :: x.pointers.map (path ++ [toString index] ++ ·) := by
      cases hne : x.isEmpty with
      | false =>
        rw [rowsEntries_item line col _ hx hne, ← List.singleton_append, marksOf_append,
          List.map_append, paths_itemRows (col + 2) line _ x hx]
        rfl
      | true =>
        obtain ⟨t, ht, -⟩ := rowsEntries_emptyItem line col (path ++ [toString index]) hne
        rw [ht, Node.pointers_of_isEmpty hne]
        rfl
    rw [seqRows_fresh_cons, rowsEntries_append, marksOf_append, List.map_append, hitem,
      paths_seqRows col path xs (index + 1) _ fun y hy => h y (List.mem_cons_of_mem x hy)]
    simp [Node.itemPointers, Function.comp_def]

theorem paths_mapRows (col : Nat) (path : List String) : ∀ (fs : List (String × Node))
    (line : Nat), (∀ f ∈ fs, f.2.Written) →
    (marksOf (rowsEntries line (mapRows (.fresh col) path fs))).map Prod.fst =
      (Node.fieldPointers fs).map (path ++ ·)
  | [], _, _ => rfl
  | (k, v) :: fs, line, h => by
    rw [mapRows_fresh_cons, rowsEntries_append, marksOf_append, List.map_append,
      paths_keyRows col line path k v (h _ List.mem_cons_self),
      paths_mapRows col path fs _ fun f hf => h f (List.mem_cons_of_mem _ hf)]
    simp [Node.fieldPointers, Function.comp_def]

end

/-- The marks of a document name its pointers, in the order they are written. -/
theorem Node.paths_marks {d : Node} (hd : d.Written) : d.marks.map Prod.fst = d.pointers := by
  rw [← marksOf_rows, Node.rows, paths_itemRows 0 1 [] d hd]
  simp

/-! ## Where the marks stand in the text -/

/-- What a mark of `p` stands before: a dash, or the key that ends `p` and its colon. -/
def StartsMark (p : List String) (post : List Char) : Prop :=
  post.head? = some '-' ∨ ∃ k ∈ p.getLast?, k.toList ++ [':'] <+: post

theorem StartsMark.append {p : List String} {post : List Char} (h : StartsMark p post)
    (rest : List Char) : StartsMark p (post ++ rest) := by
  rcases h with hdash | ⟨k, hk, hpre⟩
  · exact .inl (by rw [List.head?_append, hdash, Option.some_or])
  · exact .inr ⟨k, hk, hpre.trans (List.prefix_append post rest)⟩

/-- Where a member or item of a document begins: the text before it ends at the location, and
the text from there starts with the item's dash or with the member's key and its colon. -/
def BeginsAt (text : String) (p : List String) (l : Location) : Prop :=
  ∃ pre post, text.toList = pre ++ post ∧ JsonText.locationAfter pre = l ∧ StartsMark p post

/-- On a key's row the path ends with the key as it is written. -/
def KeyedRow : Row → Prop
  | .key _ path written _ => path.getLast? = some written
  | _ => True

mutual

/-- Every key of a laid-out document is written as the last token of its path. -/
theorem keyed_itemRows (lead : Lead) (path : List String) : ∀ x : Node,
    ∀ r ∈ x.itemRows lead path, KeyedRow r
  | .scalar _, r, hr | .seq [], r, hr | .map [], r, hr => by
    obtain rfl := List.mem_singleton.mp hr
    trivial
  | .seq (x :: xs), r, hr => keyed_seqRows lead path 0 (x :: xs) r hr
  | .map (f :: fs), r, hr => keyed_mapRows lead path (f :: fs) r hr

theorem keyed_keyRows (lead : Lead) (path : List String) (key : String)
    (hpath : path.getLast? = some key) : ∀ v : Node, ∀ r ∈ v.keyRows lead path key, KeyedRow r
  | .scalar _, r, hr | .seq [], r, hr | .map [], r, hr => by
    obtain rfl := List.mem_singleton.mp hr
    exact hpath
  | .seq (x :: xs), r, hr => by
    rcases List.mem_cons.mp hr with rfl | hr
    · exact hpath
    · exact keyed_seqRows _ path 0 (x :: xs) r hr
  | .map (f :: fs), r, hr => by
    rcases List.mem_cons.mp hr with rfl | hr
    · exact hpath
    · exact keyed_mapRows _ path (f :: fs) r hr

theorem keyed_seqRows (lead : Lead) (path : List String) (index : Nat) : ∀ xs : List Node,
    ∀ r ∈ seqRows lead path index xs, KeyedRow r
  | [], r, hr => absurd hr List.not_mem_nil
  | x :: xs, r, hr => by
    rcases List.mem_append.mp hr with hr | hr
    · exact keyed_itemRows _ _ x r hr
    · exact keyed_seqRows _ path (index + 1) xs r hr

theorem keyed_mapRows (lead : Lead) (path : List String) : ∀ fs : List (String × Node),
    ∀ r ∈ mapRows lead path fs, KeyedRow r
  | [], r, hr => absurd hr List.not_mem_nil
  | (k, v) :: fs, r, hr => by
    rcases List.mem_append.mp hr with hr | hr
    · exact keyed_keyRows lead (path ++ [k]) k (List.getLast?_concat ..) v r hr
    · exact keyed_mapRows _ path fs r hr

end

theorem dashes_append (ps qs : List (List String)) :
    dashes (ps ++ qs) = dashes ps ++ dashes qs := by
  simp only [dashes, List.map_append, List.flatten_append]

/-- Each item of a lead is marked at its dash. -/
theorem startsMark_leadMarks (lead : Lead) (line : Nat) (rest : List Char)
    {m : List String × Location} (hm : m ∈ lead.marks line) :
    ∃ pre post, lead.text.toList ++ rest = pre ++ post ∧
      m.2 = ⟨line, (pre.length + 1 : Nat)⟩ ∧
      StartsMark m.1 post := by
  obtain ⟨j, hj, rfl⟩ := List.mem_mapIdx.mp hm
  refine ⟨List.replicate lead.indent ' ' ++ dashes (lead.items.take j),
    dashes (lead.items.drop j) ++ rest, ?_, ?_, .inl ?_⟩
  · rw [toList_leadText, ← List.take_append_drop j lead.items, dashes_append,
      List.take_append_drop]
    simp
  · simp only [List.length_append, List.length_replicate, length_dashes, List.length_take,
      Nat.min_eq_left hj.le]
  · rw [List.drop_eq_getElem_cons hj]
    rfl

/-- Each mark of a row stands before its dash, or before its key and the key's colon. -/
theorem startsMark_rowMarks {r : Row} (hr : KeyedRow r) (line : Nat)
    {m : List String × Location} (hm : m ∈ r.marks line) :
    ∃ pre post, r.text.toList = pre ++ post ∧ m.2 = ⟨line, (pre.length + 1 : Nat)⟩ ∧
      StartsMark m.1 post := by
  cases r with
  | key lead path written after =>
    have htext : (Row.key lead path written after).text.toList =
        lead.text.toList ++ (written.toList ++ ':' :: after.toList) := by
      simp [Row.text]
    rcases List.mem_append.mp hm with hm | hm
    · rw [htext]
      exact startsMark_leadMarks lead line _ hm
    · -- the key stands right after the lead
      obtain rfl := List.mem_singleton.mp hm
      refine ⟨lead.text.toList, written.toList ++ ':' :: after.toList, htext, ?_,
        .inr ⟨written, hr, ?_⟩⟩
      · simp [toList_leadText, length_dashes, Lead.column]
      · exact ⟨after.toList, by simp⟩
  | value lead written =>
    have htext : (Row.value lead written).text.toList = lead.text.toList ++ written.toList := by
      simp [Row.text]
    rw [htext]
    exact startsMark_leadMarks lead line written.toList hm
  | raw _ => exact absurd hm List.not_mem_nil

theorem toList_rowsText_cons (r : Row) (rs : List Row) :
    (rowsText (r :: rs)).toList = r.text.toList ++ '\n' :: (rowsText rs).toList := by
  simp [rowsText, String.toList_join]

/-- In rows each on a line of their own, each mark stands where its line and column say, before
its dash or its key. -/
theorem startsMark_rowsText : ∀ (rows : List Row) (line : Nat) (P : List Char),
    JsonText.locationAfter P = ⟨line, 1⟩ →
    (∀ r ∈ rows, Text.IsLine r.text ∧ KeyedRow r) →
    ∀ m ∈ (rows.zipIdx line).flatMap (fun (r, n) => r.marks n),
      ∃ pre post, (rowsText rows).toList = pre ++ post ∧
        JsonText.locationAfter (P ++ pre) = m.2 ∧ StartsMark m.1 post
  | [], _, _, _, _, m, hm => absurd hm List.not_mem_nil
  | r :: rs, line, P, hP, hrows, m, hm => by
    obtain ⟨hline, hkeyed⟩ := hrows r List.mem_cons_self
    rw [List.zipIdx_cons, List.flatMap_cons, List.mem_append] at hm
    rcases hm with hm | hm
    · -- a mark of this row: the line so far has no feed
      obtain ⟨pre, post, htext, hloc, hstart⟩ := startsMark_rowMarks hkeyed line hm
      have hfeed : '\n' ∉ pre := fun h => hline.noFeed (htext ▸ List.mem_append_left post h)
      refine ⟨pre, post ++ '\n' :: (rowsText rs).toList, ?_, ?_, hstart.append _⟩
      · rw [toList_rowsText_cons, htext, List.append_assoc]
      · rw [JsonText.locationAfter_append_of_notMem hfeed, hP, hloc]
        simp only [Location.mk.injEq, true_and]
        omega
    · -- a mark of a later row: this row and its feed come first
      have hP' :
          JsonText.locationAfter (P ++ r.text.toList ++ ['\n']) = ⟨(line + 1 : Nat), 1⟩ := by
        rw [JsonText.locationAfter_append_feed,
          JsonText.locationAfter_append_of_notMem hline.noFeed, hP]
        simp
      obtain ⟨pre, post, htext, hloc, hstart⟩ := startsMark_rowsText rs (line + 1) _ hP'
        (fun r' h' => hrows r' (List.mem_cons_of_mem r h')) m hm
      refine ⟨r.text.toList ++ '\n' :: pre, post, ?_, ?_, hstart⟩
      · rw [toList_rowsText_cons, htext]
        simp
      · rw [← hloc]
        simp

/-- Each mark of a written document stands where its key or its dash begins. -/
theorem Node.beginsAt_marks {d : Node} (hd : d.Written) (hne : d.isEmpty = false) :
    ∀ m ∈ d.marks, BeginsAt d.text m.1 m.2 := by
  have hrows := readable_itemRows (.fresh 0) [] d hd (.inl hne)
  intro m hm
  obtain ⟨pre, post, htext, hloc, hstart⟩ := startsMark_rowsText d.rows 1 [] (by
    simp [JsonText.locationAfter])
    (fun r hr => ⟨(hrows r hr).2, keyed_itemRows _ _ d r hr⟩) m hm
  exact ⟨pre, post, htext, by simpa using hloc, hstart⟩

/-! ## The index of a document -/

/-- The scanner reads a document that is not an empty collection row by row as it is laid out,
and records the marks of its entries in order. -/
theorem scan_text {d : Node} (hd : d.Written) (hne : d.isEmpty = false) :
    scan d.text = recordAll {} (rowsEntries 1 d.rows) := by
  have hrows := readable_itemRows (.fresh 0) [] d hd (.inl hne)
  have hentries : entries d.text = (rowsEntries 1 d.rows).map Prod.fst :=
    entries_rowsText (fun r hr => (hrows r hr).1) (fun r hr => (hrows r hr).2)
  -- the document's node opens no column, so every entry belongs to it
  obtain ⟨junk, O, hrun, -⟩ :=
    placeAll_itemRows 0 d [] 1 ⟨none, false, some [], none, 0⟩ [] {}
    hd hne (fun _ h => nomatch h) rfl rfl rfl
  rw [scan, hentries]
  exact congrArg Prod.snd hrun

/-- A mapping entry's first row is its key's. -/
theorem head_keyRows (v : Node) (lead : Lead) (path : List String) (key : String) :
    ∃ after rs, v.keyRows lead path key = .key lead path key after :: rs := by
  match v with
  | .scalar _ | .seq [] | .seq (_ :: _) | .map [] | .map (_ :: _) => exact ⟨_, _, rfl⟩

/-- The first row of a value opens with the lead it is given. -/
theorem head_itemRows : ∀ (x : Node) (lead : Lead) (path : List String),
    ∃ r rs, x.itemRows lead path = r :: rs ∧ lead.text.toList <+: r.text.toList
  | .scalar s, lead, _ | .seq [], lead, _ | .map [], lead, _ =>
    ⟨_, [], rfl, by simp [Row.text, List.prefix_append]⟩
  | .seq (y :: ys), lead, path => by
    obtain ⟨r, rs, hy, hpre⟩ := head_itemRows y (lead.push (path ++ [toString 0]))
      (path ++ [toString 0])
    refine ⟨r, rs ++ seqRows (.fresh lead.column) path (0 + 1) ys,
      by rw [Node.itemRows, seqRows, hy, List.cons_append], List.IsPrefix.trans ?_ hpre⟩
    simp [toList_leadText, Lead.push, dashes, List.prefix_append]
  | .map ((k, v) :: fs), lead, path => by
    obtain ⟨after, rs, hv⟩ := head_keyRows v lead (path ++ [k]) k
    exact ⟨_, rs ++ mapRows (.fresh lead.column) path fs,
      by rw [Node.itemRows, mapRows, hv, List.cons_append],
      by simp [Row.text, List.prefix_append]⟩

theorem firstVisible_rowsText {r : Row} {rs : List Row} {c : Char} {cs : List Char}
    (hc : r.text.toList = c :: cs) (hblank : Text.isBlank c = false) :
    Text.firstVisible (rowsText (r :: rs)) = some c := by
  simp [Text.firstVisible, rowsText, String.toList_join, hc, hblank]

/-- The text of a document that is not an empty collection starts with a visible character that
opens no flow collection: its scalar's, its first key's or its first dash. -/
theorem firstVisible_text {d : Node} (hd : d.Written) (hne : d.isEmpty = false) :
    ∃ c, Text.firstVisible d.text = some c ∧ c ≠ '\x7b' ∧ c ≠ '[' := by
  cases hd with
  | @scalar s hs =>
    obtain ⟨c, cs, hcs, -, -, -, -, -, hblank, hind⟩ := hs.head
    have hc : (Row.value (.fresh 0) s).text.toList = c :: cs := by
      simp [Row.text, toList_leadText, Lead.fresh, dashes, hcs]
    exact ⟨c, @firstVisible_rowsText _ [] c cs hc hblank, fun h => hind (.inl h),
      fun h => hind (.inr (.inl h))⟩
  | @seq items _ =>
    cases items with
    | nil => simp [Node.isEmpty] at hne
    | cons y ys =>
      obtain ⟨r, rs, hy, tail, htail⟩ :=
        head_itemRows y ⟨0, [[] ++ [toString 0]]⟩ ([] ++ [toString 0])
      have hc : r.text.toList = '-' :: ' ' :: tail := by
        rw [← htail]
        simp [toList_leadText, dashes]
      have hrows : (Node.seq (y :: ys)).rows = r :: (rs ++ seqRows (.fresh 0) [] 1 ys) := by
        rw [Node.rows, Node.itemRows, seqRows_fresh_cons, hy, List.cons_append]
      exact ⟨'-', by rw [Node.text, hrows]; exact firstVisible_rowsText hc (by decide), by decide,
        by decide⟩
  | @map fields _ hkeys _ =>
    cases fields with
    | nil => simp [Node.isEmpty] at hne
    | cons f fs =>
      obtain ⟨k, v⟩ := f
      obtain ⟨c, cs, hcs, -, -, -, -, -, hblank, hind⟩ := (hkeys _ List.mem_cons_self).head
      obtain ⟨after, rs, hv⟩ := head_keyRows v (.fresh 0) ([] ++ [k]) k
      have hc : (Row.key (.fresh 0) ([] ++ [k]) k after).text.toList =
          c :: (cs ++ ':' :: after.toList) := by
        simp [Row.text, toList_leadText, Lead.fresh, dashes, hcs]
      have hrows : (Node.map ((k, v) :: fs)).rows =
          .key (.fresh 0) ([] ++ [k]) k after :: (rs ++ mapRows (.fresh 0) [] fs) := by
        rw [Node.rows, Node.itemRows, mapRows_fresh_cons, hv, List.cons_append]
      refine ⟨c, ?_, fun h => hind (.inl h), fun h => hind (.inr (.inl h))⟩
      rw [Node.text, hrows]
      exact firstVisible_rowsText hc hblank

/-- A document that is not an empty collection is indexed as block YAML. -/
theorem ofSource_text {d : Node} (hd : d.Written) (hne : d.isEmpty = false) :
    ofSource d.text = scan d.text := by
  obtain ⟨c, hfirst, hbrace, hbracket⟩ := firstVisible_text hd hne
  unfold ofSource
  rw [hfirst]
  split
  · rename_i h
    exact absurd (Option.some.inj h) hbrace
  · rename_i h
    exact absurd (Option.some.inj h) hbracket
  · rfl
  · rename_i h
    cases h

/-- Each member and item of a written document has one mark. -/
theorem Node.nodup_marks {d : Node} (hd : d.Written) : (d.marks.map Prod.fst).Nodup :=
  Node.paths_marks hd ▸ nodup_pointers d hd

/-- The index of a document that is not an empty collection answers a pointer exactly with the
mark the layout gives it. -/
theorem Node.locate_eq_some_iff {d : Node} (hd : d.Written) (hne : d.isEmpty = false)
    (p : List String) (l : Location) : locate d.text p = some l ↔ (p, l) ∈ d.marks := by
  have hindex : ofSource d.text = d.marks.foldl (fun idx m => idx.record m.1 m.2) {} := by
    rw [ofSource_text hd hne, scan_text hd hne, recordAll, marksOf_rows]
  rw [locate, hindex, get?_foldl_record (Node.nodup_marks hd)]
  refine ⟨fun h => h.2, fun h => ⟨?_, h⟩⟩
  -- a mark's path names at least one member or item
  have hmem : p ∈ d.pointers := Node.paths_marks hd ▸ List.mem_map_of_mem (f := Prod.fst) h
  rintro rfl
  exact nil_not_mem_pointers d hmem

/-- A non-empty pointer is located exactly when it reaches a member or item of the document. -/
theorem Node.locate_isSome_iff {d : Node} (hd : d.Written) (hne : d.isEmpty = false)
    {p : List String} (hp : p ≠ []) :
    (locate d.text p).isSome ↔ (Pointer.walk d.toJson p).isSome := by
  rw [walk_isSome_iff p hd hp, ← Node.paths_marks hd, Option.isSome_iff_exists]
  simp only [Node.locate_eq_some_iff hd hne, List.mem_map, Prod.exists, exists_and_right,
    exists_eq_right]

/-- A mapping whose first value is a sequence at its key's column, with a sequence opened on
its second item's line, and whose second value is an empty mapping:
`a:`, `- x`, `- - y`, `  - z`, `b: \x7b\x7d`. -/
def nestedDocument : Node :=
  .map [("a", .seq [.scalar "x", .seq [.scalar "y", .scalar "z"]]), ("b", .map [])]

theorem nestedDocument_written : nestedDocument.Written := by
  -- every key and scalar is one letter
  have hplain : ∀ s ∈ ["a", "b", "x", "y", "z"], Plain s := by
    intro s hs
    simp only [List.mem_cons, List.not_mem_nil, or_false] at hs
    rcases hs with rfl | rfl | rfl | rfl | rfl <;> exact Plain.of_letters (by simp) (by simp)
  simp only [List.mem_cons, List.not_mem_nil, or_false] at hplain
  refine .map (by decide +kernel) ?_ ?_
  · simp only [List.mem_cons, List.not_mem_nil, or_false, forall_eq_or_imp, forall_eq]
    exact ⟨hplain "a" (.inl rfl), hplain "b" (.inr (.inl rfl))⟩
  simp only [List.mem_cons, List.not_mem_nil, or_false, forall_eq_or_imp, forall_eq]
  refine ⟨.seq ?_, .map (by decide) (by simp) (by simp)⟩
  simp only [List.mem_cons, List.not_mem_nil, or_false, forall_eq_or_imp, forall_eq]
  refine ⟨.scalar (hplain "x" (by simp)), .seq ?_⟩
  simp only [List.mem_cons, List.not_mem_nil, or_false, forall_eq_or_imp, forall_eq]
  exact ⟨.scalar (hplain "y" (by simp)), .scalar (hplain "z" (by simp))⟩

end Covenant.SourceIndex.Block
