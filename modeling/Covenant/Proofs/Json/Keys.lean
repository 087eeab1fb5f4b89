import Covenant.Json.Reader
import Covenant.Yaml.Document
import Covenant.Proofs.Schema.Inline
import Mathlib.Tactic.SplitIfs

/-!
# Distinct keys in parsed documents

Both readers add an object's members with `Json.setField`, which gives a key already present
its new value in place. So every object a reader builds holds each key once: for JSON text
(`Json.read_distinctKeys_of_ok`) and for YAML text (`Yaml.read_distinctKeys_of_ok`). A loop over an
object's members then meets each member as the one its key names.

Each reader is a group of functions over a shared fuel; for each function one inversion lemma
says what a successful step can return, and one induction on the fuel carries `DistinctKeys`
through all of them together.
-/

namespace Covenant.Json

/-- Every object inside a value holds each key once. -/
inductive DistinctKeys : Json → Prop
  | null : DistinctKeys .null
  | bool (b : Bool) : DistinctKeys (.bool b)
  | num (n : Number) : DistinctKeys (.num n)
  | str (s : String) : DistinctKeys (.str s)
  | arr {items : List Json} : (∀ x ∈ items, DistinctKeys x) → DistinctKeys (.arr items)
  | obj {fields : List (String × Json)} : (fields.map Prod.fst).Nodup →
      (∀ p ∈ fields, DistinctKeys p.2) → DistinctKeys (.obj fields)

/-- The members of an object with distinct keys whose values have distinct keys throughout. -/
def DistinctFields (fields : List (String × Json)) : Prop :=
  (fields.map Prod.fst).Nodup ∧ ∀ p ∈ fields, DistinctKeys p.2

theorem distinctKeys_obj {fields : List (String × Json)} (h : DistinctFields fields) :
    DistinctKeys (.obj fields) :=
  .obj h.1 h.2

theorem DistinctFields.nil : DistinctFields [] := ⟨List.nodup_nil, by simp⟩

theorem map_fst_setField (fields : List (String × Json)) (key : String) (v : Json) :
    (setField fields key v).map Prod.fst =
      if key ∈ fields.map Prod.fst then fields.map Prod.fst else fields.map Prod.fst ++ [key] := by
  unfold setField
  by_cases hkey : key ∈ fields.map Prod.fst
  · have hany : fields.any (fun p => p.1 == key) = true := by
      obtain ⟨p, hp, rfl⟩ := List.mem_map.mp hkey
      exact List.any_eq_true.mpr ⟨p, hp, by simp⟩
    simp only [hany, if_true, hkey, List.map_map]
    congr 1
    funext p
    by_cases hp : p.1 = key <;> simp [hp]
  · have hany : fields.any (fun p => p.1 == key) = false := by
      simpa using fun p hp heq => hkey (List.mem_map.mpr ⟨p, hp, heq⟩)
    simp [hany, hkey]

/-- Setting a member keeps the keys distinct and the values' keys distinct. -/
theorem DistinctFields.setField {fields : List (String × Json)} (h : DistinctFields fields)
    (key : String) {v : Json} (hv : DistinctKeys v) : DistinctFields (setField fields key v) := by
  constructor
  · rw [map_fst_setField]
    split
    · exact h.1
    · rename_i hkey
      refine List.nodup_append.mpr ⟨h.1, by simp, fun a ha b hb hab => hkey ?_⟩
      rw [← List.mem_singleton.mp hb, ← hab]
      exact ha
  · intro p hp
    unfold Json.setField at hp
    split at hp
    · obtain ⟨q, hq, rfl⟩ := List.mem_map.mp hp
      split
      · exact hv
      · exact h.2 q hq
    · rcases List.mem_append.mp hp with hp | hp
      · exact h.2 p hp
      · rw [List.mem_singleton.mp hp]
        exact hv

section Reader

variable {fuel depth : Nat} {c c' : Cursor}

theorem except_map_eq_ok {ε α β : Type} {f : α → β} {x : Except ε α} {b : β} :
    x.map f = .ok b ↔ ∃ a, x = .ok a ∧ f a = b := by
  cases x <;> simp [Except.map]

/-- What one successful step of `readValue` did: the byte it found after the blanks, and what it
read from there. -/
theorem readValue_step {v : Json} (h : readValue (fuel + 1) depth c = .ok (v, c')) :
    ∃ b, c.skipBlank.peek = some b ∧
      ((b = 110 ∧ v = .null ∧ readIdent [117, 108, 108] c.skipBlank.bump = .ok c') ∨
       (b = 116 ∧ v = .bool true ∧ readIdent [114, 117, 101] c.skipBlank.bump = .ok c') ∨
       (b = 102 ∧ v = .bool false ∧ readIdent [97, 108, 115, 101] c.skipBlank.bump = .ok c') ∨
       (∃ n, v = .num n ∧ ((b = 45 ∧ readNumber false c.skipBlank.bump = .ok (n, c')) ∨
         (isDigit b = true ∧ readNumber true c.skipBlank = .ok (n, c')))) ∨
       (∃ s, b = 34 ∧ v = .str s ∧ readStringBody c.skipBlank.bump = .ok (s, c')) ∨
       (∃ items c₂, b = 91 ∧ v = .arr items ∧
         readItems fuel (depth + 1) true c.skipBlank.bump [] = .ok (items, c₂) ∧
         c' = c₂.skipBlank.bump) ∨
       (∃ fields c₂, b = 123 ∧ v = .obj fields ∧
         readMembers fuel (depth + 1) true c.skipBlank.bump [] = .ok (fields, c₂) ∧
         c' = c₂.skipBlank.bump)) := by
  simp only [readValue] at h
  split at h
  · cases h
  rename_i b hb
  refine ⟨b, hb, ?_⟩
  -- the byte's tests in the reader's order; `split` would simplify the whole remaining reader
  -- at each of them, so each test is opened by `if_pos` and `if_neg`
  by_cases h110 : (b == 110) = true
  · rw [if_pos h110] at h
    obtain ⟨_, hc, hv⟩ := except_map_eq_ok.mp h
    cases hv
    exact .inl ⟨by simpa using h110, rfl, hc⟩
  rw [if_neg h110] at h
  by_cases h116 : (b == 116) = true
  · rw [if_pos h116] at h
    obtain ⟨_, hc, hv⟩ := except_map_eq_ok.mp h
    cases hv
    exact .inr (.inl ⟨by simpa using h116, rfl, hc⟩)
  rw [if_neg h116] at h
  by_cases h102 : (b == 102) = true
  · rw [if_pos h102] at h
    obtain ⟨_, hc, hv⟩ := except_map_eq_ok.mp h
    cases hv
    exact .inr (.inr (.inl ⟨by simpa using h102, rfl, hc⟩))
  rw [if_neg h102] at h
  by_cases h45 : (b == 45) = true
  · rw [if_pos h45] at h
    obtain ⟨⟨n, _⟩, hn, hv⟩ := except_map_eq_ok.mp h
    cases hv
    exact .inr (.inr (.inr (.inl ⟨n, rfl, .inl ⟨by simpa using h45, hn⟩⟩)))
  rw [if_neg h45] at h
  by_cases hdigit : isDigit b = true
  · rw [if_pos hdigit] at h
    obtain ⟨⟨n, _⟩, hn, hv⟩ := except_map_eq_ok.mp h
    cases hv
    exact .inr (.inr (.inr (.inl ⟨n, rfl, .inr ⟨hdigit, hn⟩⟩)))
  rw [if_neg hdigit] at h
  by_cases h34 : (b == 34) = true
  · rw [if_pos h34] at h
    obtain ⟨⟨s, _⟩, hs, hv⟩ := except_map_eq_ok.mp h
    cases hv
    exact .inr (.inr (.inr (.inr (.inl ⟨s, by simpa using h34, rfl, hs⟩))))
  rw [if_neg h34] at h
  by_cases h91 : (b == 91) = true
  · rw [if_pos h91] at h
    split at h
    · cases h
    split at h
    · cases h
    cases h
    exact .inr (.inr (.inr (.inr (.inr (.inl ⟨_, _, by simpa using h91, rfl, ‹_›, rfl⟩)))))
  rw [if_neg h91] at h
  by_cases h123 : (b == 123) = true
  · rw [if_pos h123] at h
    split at h
    · cases h
    split at h
    · cases h
    cases h
    exact .inr (.inr (.inr (.inr (.inr (.inr ⟨_, _, by simpa using h123, rfl, ‹_›, rfl⟩)))))
  rw [if_neg h123] at h
  cases h

/-- The cursor at the next item of a list: as it is before the first item, past a comma and
blanks before any other. -/
def nextItem (first : Bool) (b : UInt8) (c cn : Cursor) : Prop :=
  if first then cn = c else b = 44 ∧ cn = c.bump.skipBlank

theorem readItems_step {first : Bool} {acc items : List Json}
    (h : readItems (fuel + 1) depth first c acc = .ok (items, c')) :
    (c.skipBlank.peek = some 93 ∧ items = acc.reverse ∧ c' = c.skipBlank) ∨
      ∃ b cn v c₂, c.skipBlank.peek = some b ∧ nextItem first b c.skipBlank cn ∧
        readValue fuel depth cn = .ok (v, c₂) ∧
        readItems fuel depth false c₂ (v :: acc) = .ok (items, c') := by
  simp only [readItems] at h
  split at h
  · cases h
  · rename_i hp
    cases h
    exact .inl ⟨hp, rfl, rfl⟩
  · rename_i b _ hp
    split at h
    · cases h
    · rename_i cn hnext
      split at h
      · cases h
      · cases h
      · split at h
        · cases h
        · refine .inr ⟨b, cn, _, _, hp, ?_, ‹_›, h⟩
          unfold nextItem
          split_ifs at hnext with h44 hfirst
          · cases hnext
            simp only [Bool.and_eq_true, beq_iff_eq, Bool.not_eq_eq_eq_not, Bool.not_true] at h44
            simp [h44.2, h44.1]
          · cases hnext
            simp [hfirst]

theorem readMembers_step {first : Bool} {acc fields : List (String × Json)}
    (h : readMembers (fuel + 1) depth first c acc = .ok (fields, c')) :
    (c.skipBlank.peek = some 125 ∧ fields = acc ∧ c' = c.skipBlank) ∨
      ∃ b cn key c₃ v c₅, c.skipBlank.peek = some b ∧ nextItem first b c.skipBlank cn ∧
        cn.peek = some 34 ∧ readStringBody cn.bump = .ok (key, c₃) ∧
        c₃.skipBlank.peek = some 58 ∧ readValue fuel depth c₃.skipBlank.bump = .ok (v, c₅) ∧
        readMembers fuel depth false c₅ (setField acc key v) = .ok (fields, c') := by
  simp only [readMembers] at h
  split at h
  · cases h
  · rename_i hp
    cases h
    exact .inl ⟨hp, rfl, rfl⟩
  · rename_i b _ hp
    split at h
    · cases h
    · rename_i cn hnext
      split at h
      · rename_i hq
        split at h
        · cases h
        · rename_i key c₃ hkey
          split at h
          · rename_i hcolon
            split at h
            · cases h
            · refine .inr ⟨b, cn, key, c₃, _, _, hp, ?_, hq, hkey, hcolon, ‹_›, h⟩
              unfold nextItem
              split_ifs at hnext with h44 hfirst
              · cases hnext
                simp only [Bool.and_eq_true, beq_iff_eq, Bool.not_eq_eq_eq_not, Bool.not_true] at h44
                simp [h44.2, h44.1]
              · cases hnext
                simp [hfirst]
          · cases h
          · cases h
      · cases h
      · cases h
      · cases h

/-- The JSON reader's three functions build only values with distinct keys, given lists of
items and members that already have them. -/
theorem read_distinctKeys (fuel : Nat) :
    (∀ depth c v c', readValue fuel depth c = .ok (v, c') → DistinctKeys v) ∧
    (∀ depth first c acc items c', (∀ x ∈ acc, DistinctKeys x) →
      readItems fuel depth first c acc = .ok (items, c') → ∀ x ∈ items, DistinctKeys x) ∧
    (∀ depth first c acc fields c', DistinctFields acc →
      readMembers fuel depth first c acc = .ok (fields, c') → DistinctFields fields) := by
  induction fuel with
  | zero =>
    refine ⟨?_, ?_, ?_⟩ <;> intros <;> simp_all [readValue, readItems, readMembers]
  | succ fuel ih =>
    obtain ⟨ihValue, ihItems, ihMembers⟩ := ih
    refine ⟨?_, ?_, ?_⟩
    · intro depth c v c' h
      obtain ⟨b, -, hcases⟩ := readValue_step h
      rcases hcases with ⟨-, rfl, -⟩ | ⟨-, rfl, -⟩ | ⟨-, rfl, -⟩ | ⟨n, rfl, -⟩ | ⟨s, -, rfl, -⟩ |
        ⟨items, c₂, -, rfl, hitems, -⟩ | ⟨fields, c₂, -, rfl, hfields, -⟩
      · exact .null
      · exact .bool true
      · exact .bool false
      · exact .num n
      · exact .str s
      · exact .arr (ihItems _ _ _ _ _ _ (by simp) hitems)
      · exact distinctKeys_obj (ihMembers _ _ _ _ _ _ .nil hfields)
    · intro depth first c acc items c' hacc h
      rcases readItems_step h with ⟨-, rfl, -⟩ | ⟨b, cn, v, c₂, -, -, hv, hrest⟩
      · simpa using hacc
      · have hv' := ihValue _ _ _ _ hv
        exact ihItems _ _ _ _ _ _ (by simpa [hv'] using hacc) hrest
    · intro depth first c acc fields c' hacc h
      rcases readMembers_step h with ⟨-, rfl, -⟩ | ⟨b, cn, key, c₃, v, c₅, -, -, -, -, -, hv, hrest⟩
      · exact hacc
      · exact ihMembers _ _ _ _ _ _ (hacc.setField key (ihValue _ _ _ _ hv)) hrest

/-- Every object of a value read from JSON text holds each key once. -/
theorem readBytes_distinctKeys {input : List UInt8} {v : Json} (h : readBytes input = .ok v) :
    DistinctKeys v := by
  unfold readBytes at h
  split at h
  · cases h
  · rename_i w c hread
    dsimp only at h
    split at h
    · cases h
      exact (read_distinctKeys _).1 _ _ _ _ hread
    · cases h

theorem read_distinctKeys_of_ok {text : String} {v : Json} (h : read text = .ok v) :
    DistinctKeys v :=
  readBytes_distinctKeys h

end Reader

end Covenant.Json

namespace Covenant.Yaml

open Json

section Scalars

theorem floatJson_distinctKeys (f : Float) : DistinctKeys (Scalar.floatJson f) := by
  unfold Scalar.floatJson
  split
  · exact .num _
  · exact .null

theorem int?_distinctKeys {s : String} {v : Json} (h : Scalar.int? s = some (.ok v)) :
    DistinctKeys v := by
  unfold Scalar.int? at h
  split at h
  · cases h
    exact .num _
  · split at h
    · cases h
      exact .num _
    · split at h
      · cases h
      · split at h <;> cases h

theorem untagged_distinctKeys {s : String} {v : Json} (h : Scalar.untagged s = .ok v) :
    DistinctKeys v := by
  unfold Scalar.untagged at h
  split at h
  · cases h
    exact .null
  · split at h
    · cases h
      exact .bool _
    · split at h
      · exact int?_distinctKeys (by rw [‹Scalar.int? s = _›, h])
      · split at h
        · cases h
          exact .str _
        · split at h
          · cases h
            exact floatJson_distinctKeys _
          · cases h
            exact .str _

/-- A resolved scalar is a JSON scalar. -/
theorem resolve_distinctKeys {tag : Option String} {s : String} {style : ScalarStyle}
    {v : Json} (h : Scalar.resolve tag s style = .ok v) : DistinctKeys v := by
  unfold Scalar.resolve at h
  split at h
  · split at h
    · split at h
      · cases h
        exact .bool _
      · cases h
    · split at h
      · split at h
        · exact int?_distinctKeys (by rw [‹Scalar.int? s = _›, h])
        · cases h
      · split at h
        · split at h
          · cases h
            exact floatJson_distinctKeys _
          · cases h
        · split at h
          · split at h
            · cases h
              exact .null
            · cases h
          · split at h
            · exact untagged_distinctKeys h
            · cases h
              exact .str _
  · split at h
    · exact untagged_distinctKeys h
    · cases h
      exact .str _

end Scalars

section Reader

variable {d : Loaded} {fuel pos depth jumps pos' jumps' : Nat} {path : Path}

/-- What one step of `readNode` returns: a resolved scalar, the empty document's null, the
value an alias points to, or the items or entries of a collection. -/
theorem readNode_cases {v : Json} (h : readNode d (fuel + 1) pos path depth jumps = .ok (v, pos', jumps')) :
    (∃ tag value style, Scalar.resolve tag value style = .ok v) ∨ v = .null ∨
    (∃ pos₁ jumps₁ p j, readNode d fuel pos₁ path depth jumps₁ = .ok (v, p, j)) ∨
    (∃ items pos₁ depth₁ p j, v = .arr items ∧
      readItems d fuel pos₁ path depth₁ jumps 0 [] = .ok (items, p, j)) ∨
    (∃ fields pos₁ depth₁ p j, v = .obj fields ∧
      readEntries d fuel pos₁ path depth₁ jumps true [] = .ok (fields, p, j)) := by
  simp only [readNode] at h
  split at h
  · cases h
  · split at h
    · -- an alias reads the node it points to
      split at h
      · cases h
      · obtain ⟨⟨w, p, j⟩, hw, hv⟩ := (Contract.except_bind_eq_ok _ _ _).mp h
        cases hv
        exact .inr (.inr (.inl ⟨_, _, _, _, hw⟩))
    · split at h
      · cases h
      · split at h
        · cases h
          exact .inl ⟨_, _, _, ‹_›⟩
        · cases h
    · split at h
      · cases h
      · split at h
        · cases h
        · obtain ⟨⟨items, p, j⟩, hitems, hv⟩ := (Contract.except_bind_eq_ok _ _ _).mp h
          cases hv
          exact .inr (.inr (.inr (.inl ⟨_, _, _, _, _, rfl, hitems⟩)))
    · split at h
      · cases h
      · split at h
        · cases h
        · obtain ⟨⟨fields, p, j⟩, hfields, hv⟩ := (Contract.except_bind_eq_ok _ _ _).mp h
          cases hv
          exact .inr (.inr (.inr (.inr ⟨_, _, _, _, _, rfl, hfields⟩)))
    · cases h
      exact .inr (.inl rfl)
    · cases h
    · cases h

/-- A step of `readItems` ends the sequence or reads one more node. -/
theorem readItems_cases {index : Nat} {acc items : List Json}
    (h : readItems d (fuel + 1) pos path depth jumps index acc = .ok (items, pos', jumps')) :
    items = acc.reverse ∨
      ∃ v path₁ pos₁ jumps₁, readNode d fuel pos path₁ depth jumps = .ok (v, pos₁, jumps₁) ∧
        readItems d fuel pos₁ path depth jumps₁ (index + 1) (v :: acc) =
          .ok (items, pos', jumps') := by
  simp only [readItems] at h
  split at h
  · cases h
  · cases h
    exact .inl rfl
  · cases h
    exact .inl rfl
  · obtain ⟨⟨v, p, j⟩, hv, hrest⟩ := (Contract.except_bind_eq_ok _ _ _).mp h
    exact .inr ⟨v, _, p, j, hv, hrest⟩

/-- A step of `readEntries` ends the mapping or sets one more entry. -/
theorem readEntries_cases {first : Bool} {acc fields : List (String × Json)}
    (h : readEntries d (fuel + 1) pos path depth jumps first acc = .ok (fields, pos', jumps')) :
    fields = acc ∨
      ∃ key v path₁ pos₁ pos₂ jumps₁ jumps₂,
        readNode d fuel pos₁ path₁ depth jumps₁ = .ok (v, pos₂, jumps₂) ∧
        readEntries d fuel pos₂ path depth jumps₂ false (setField acc key v) =
          .ok (fields, pos', jumps') := by
  simp only [readEntries] at h
  split at h
  · cases h
  · cases h
    exact .inl rfl
  · cases h
    exact .inl rfl
  · obtain ⟨⟨key, p, j⟩, -, hrest⟩ := (Contract.except_bind_eq_ok _ _ _).mp h
    obtain ⟨⟨v, p', j'⟩, hv, hrest⟩ := (Contract.except_bind_eq_ok _ _ _).mp hrest
    exact .inr ⟨key, v, _, p, p', j, j', hv, hrest⟩

/-- The YAML reader's functions build only values with distinct keys, given lists of items and
entries that already have them. -/
theorem read_distinctKeys (d : Loaded) (fuel : Nat) :
    (∀ pos path depth jumps v pos' jumps',
      readNode d fuel pos path depth jumps = .ok (v, pos', jumps') → DistinctKeys v) ∧
    (∀ pos path depth jumps index acc items pos' jumps', (∀ x ∈ acc, DistinctKeys x) →
      readItems d fuel pos path depth jumps index acc = .ok (items, pos', jumps') →
      ∀ x ∈ items, DistinctKeys x) ∧
    (∀ pos path depth jumps first acc fields pos' jumps', DistinctFields acc →
      readEntries d fuel pos path depth jumps first acc = .ok (fields, pos', jumps') →
      DistinctFields fields) := by
  induction fuel with
  | zero =>
    refine ⟨?_, ?_, ?_⟩ <;> intros <;> simp_all [readNode, readItems, readEntries]
  | succ fuel ih =>
    obtain ⟨ihNode, ihItems, ihEntries⟩ := ih
    refine ⟨?_, ?_, ?_⟩
    · intro pos path depth jumps v pos' jumps' h
      rcases readNode_cases h with ⟨_, _, _, hres⟩ | rfl | ⟨_, _, _, _, halias⟩ |
          ⟨items, _, _, _, _, rfl, hitems⟩ | ⟨fields, _, _, _, _, rfl, hentries⟩
      · exact resolve_distinctKeys hres
      · exact .null
      · exact ihNode _ _ _ _ _ _ _ halias
      · exact .arr (ihItems _ _ _ _ _ _ _ _ _ (by simp) hitems)
      · exact distinctKeys_obj (ihEntries _ _ _ _ _ _ _ _ _ .nil hentries)
    · intro pos path depth jumps index acc items pos' jumps' hacc h
      rcases readItems_cases h with rfl | ⟨v, _, _, _, hv, hrest⟩
      · simpa using hacc
      · have hv' := ihNode _ _ _ _ _ _ _ hv
        exact ihItems _ _ _ _ _ _ _ _ _ (by simpa [hv'] using hacc) hrest
    · intro pos path depth jumps first acc fields pos' jumps' hacc h
      rcases readEntries_cases h with rfl | ⟨key, v, _, _, _, _, _, hv, hrest⟩
      · exact hacc
      · exact ihEntries _ _ _ _ _ _ _ _ _ (hacc.setField key (ihNode _ _ _ _ _ _ _ hv)) hrest

end Reader

/-- Every object of a value read from YAML text holds each key once. -/
theorem read_distinctKeys_of_ok {text : String} {v : Json} (h : read text = .ok v) :
    DistinctKeys v := by
  unfold read at h
  obtain ⟨⟨w, p, j⟩, hw, hrest⟩ := (Contract.except_bind_eq_ok _ _ _).mp h
  dsimp only at hrest
  split at hrest
  · cases hrest
  · split at hrest
    · cases hrest
    · cases hrest
      exact (read_distinctKeys _ _).1 _ _ _ _ _ _ _ hw

end Covenant.Yaml
