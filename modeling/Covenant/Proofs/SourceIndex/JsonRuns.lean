import Covenant.Proofs.SourceIndex.Loops
import Covenant.Proofs.SourceIndex.JsonWalk

/-!
# The JSON walk ends

The walk over JSON text is three functions that call each other, run on a budget of two turns
for each character. `Runs` is the walk with no budget: one rule for each way a call goes on.
Every call that hands back a cursor has read at least one character (`Runs.shrinks`): a
scalar that reads nothing ends the walk, and members and items end only at their closing
bracket. Each turn of the object and array loops therefore reads a character or ends the walk,
so the budget of every call covers its run (`Runs.of_budget`), and the walk on a budget answers
what the run does, the only answer there is (`Call.halts`).
-/

namespace Covenant.SourceIndex.JsonText

/-- A call of the walk: one of its three functions, with the arguments it reads. -/
inductive Call where
  | value (path : List String) (idx : SourceIndex) (c : Cursor)
  | members (path : List String) (idx : SourceIndex) (c : Cursor)
  | items (path : List String) (position : Nat) (idx : SourceIndex) (c : Cursor)

namespace Call

def cursor : Call → Cursor
  | value _ _ c => c
  | members _ _ c => c
  | items _ _ _ c => c

/-- The call on a budget. -/
def run (fuel : Nat) : Call → Walk
  | value path idx c => JsonText.value fuel path idx c
  | members path idx c => JsonText.members fuel path idx c
  | items path position idx c => JsonText.items fuel path position idx c

/-- Two turns for each character left, and one more: an array's items take one more still,
for the value each of them starts with. -/
def budget : Call → Nat
  | value _ _ c | members _ _ c => 2 * c.rest.length + 1
  | items _ _ _ c => 2 * c.rest.length + 2

/-- The call that reads a member's value: at the path of its key, the key recorded where its
opening quote stands, after the colon that follows the key. -/
def member (path : List String) (idx : SourceIndex) (c : Cursor) (key : String) (c₁ : Cursor) :
    Call :=
  .value (path ++ [key]) (idx.record (path ++ [key]) c.skipBlank.here) c₁.skipBlank.bumpOrStay

/-- The call that reads an item's value: at the path of its position, recorded where it
begins. -/
def item (path : List String) (i : Nat) (idx : SourceIndex) (c : Cursor) : Call :=
  .value (path ++ [toString i]) (idx.record (path ++ [toString i]) c.skipBlank.here) c.skipBlank

end Call

/-- The walk with no budget. A value opens an object or an array, or reads a string or a
scalar, after blanks; members and items end at their closing bracket, pass commas, and read
an entry's value, going on from where it ends. Anything else ends the walk. -/
inductive Runs : Call → Walk → Prop
  | valueEnd {path : List String} {idx : SourceIndex} {c : Cursor} :
      c.skipBlank.peek = none → Runs (.value path idx c) (idx, none)
  | object {path : List String} {idx : SourceIndex} {c : Cursor} {w : Walk} :
      c.skipBlank.peek = some '{' → Runs (.members path idx c.skipBlank.bumpOrStay) w →
      Runs (.value path idx c) w
  | array {path : List String} {idx : SourceIndex} {c : Cursor} {w : Walk} :
      c.skipBlank.peek = some '[' → Runs (.items path 0 idx c.skipBlank.bumpOrStay) w →
      Runs (.value path idx c) w
  | string {path : List String} {idx : SourceIndex} {c : Cursor} :
      c.skipBlank.peek = some '"' →
      Runs (.value path idx c) (idx, (string c.skipBlank).map (·.2))
  | scalar {path : List String} {idx : SourceIndex} {c : Cursor} {x : Char} :
      c.skipBlank.peek = some x → x ≠ '{' → x ≠ '[' → x ≠ '"' →
      Runs (.value path idx c) (idx, scalar c.skipBlank)
  | membersEnd {path : List String} {idx : SourceIndex} {c : Cursor} :
      c.skipBlank.peek = none → Runs (.members path idx c) (idx, none)
  | membersClose {path : List String} {idx : SourceIndex} {c : Cursor} :
      c.skipBlank.peek = some '}' → Runs (.members path idx c) (idx, some c.skipBlank.bumpOrStay)
  | membersComma {path : List String} {idx : SourceIndex} {c : Cursor} {w : Walk} :
      c.skipBlank.peek = some ',' → Runs (.members path idx c.skipBlank.bumpOrStay) w →
      Runs (.members path idx c) w
  | membersStray {path : List String} {idx : SourceIndex} {c : Cursor} {x : Char} :
      c.skipBlank.peek = some x → x ≠ '}' → x ≠ ',' → x ≠ '"' →
      Runs (.members path idx c) (idx, none)
  | keyUnread {path : List String} {idx : SourceIndex} {c : Cursor} :
      c.skipBlank.peek = some '"' → string c.skipBlank = none →
      Runs (.members path idx c) (idx, none)
  | colonMissing {path : List String} {idx : SourceIndex} {c c₁ : Cursor} {key : String} :
      c.skipBlank.peek = some '"' → string c.skipBlank = some (key, c₁) →
      c₁.skipBlank.peek ≠ some ':' → Runs (.members path idx c) (idx, none)
  | memberStops {path : List String} {idx idx' : SourceIndex} {c c₁ : Cursor} {key : String} :
      c.skipBlank.peek = some '"' → string c.skipBlank = some (key, c₁) →
      c₁.skipBlank.peek = some ':' →
      Runs (.member path idx c key c₁) (idx', none) →
      Runs (.members path idx c) (idx', none)
  | memberNext {path : List String} {idx idx' : SourceIndex} {c c₁ c₂ : Cursor} {key : String}
      {w : Walk} :
      c.skipBlank.peek = some '"' → string c.skipBlank = some (key, c₁) →
      c₁.skipBlank.peek = some ':' →
      Runs (.member path idx c key c₁) (idx', some c₂) →
      Runs (.members path idx' c₂) w → Runs (.members path idx c) w
  | itemsEnd {path : List String} {i : Nat} {idx : SourceIndex} {c : Cursor} :
      c.skipBlank.peek = none → Runs (.items path i idx c) (idx, none)
  | itemsClose {path : List String} {i : Nat} {idx : SourceIndex} {c : Cursor} :
      c.skipBlank.peek = some ']' → Runs (.items path i idx c) (idx, some c.skipBlank.bumpOrStay)
  | itemsComma {path : List String} {i : Nat} {idx : SourceIndex} {c : Cursor} {w : Walk} :
      c.skipBlank.peek = some ',' → Runs (.items path i idx c.skipBlank.bumpOrStay) w →
      Runs (.items path i idx c) w
  | itemStops {path : List String} {i : Nat} {idx idx' : SourceIndex} {c : Cursor} {x : Char} :
      c.skipBlank.peek = some x → x ≠ ']' → x ≠ ',' →
      Runs (.item path i idx c) (idx', none) →
      Runs (.items path i idx c) (idx', none)
  | itemNext {path : List String} {i : Nat} {idx idx' : SourceIndex} {c c₂ : Cursor} {x : Char}
      {w : Walk} :
      c.skipBlank.peek = some x → x ≠ ']' → x ≠ ',' →
      Runs (.item path i idx c) (idx', some c₂) →
      Runs (.items path (i + 1) idx' c₂) w → Runs (.items path i idx c) w

/-! ## What the readers consume -/

section Consumed

variable {c c' : Cursor}

theorem length_skipBlank_go_le : ∀ (fuel : Nat) (c : Cursor),
    (Cursor.skipBlank.go fuel c).rest.length ≤ c.rest.length
  | 0, _ => Nat.le_refl _
  | fuel + 1, c => by
    rw [skipBlank_go_succ]
    cases h : blankStep c with
    | inl c' =>
      obtain rfl : c' = c := by
        unfold blankStep at h
        split at h <;> cases h
        rfl
      exact Nat.le_refl _
    | inr c' =>
      have := blankStep_lowers h
      have := length_skipBlank_go_le fuel c'
      simp only [Sum.elim_inr]
      omega

theorem length_skipBlank_le (c : Cursor) : c.skipBlank.rest.length ≤ c.rest.length :=
  length_skipBlank_go_le _ c

/-- A string's body read hands back a cursor past at least its closing quote. -/
theorem length_string_go_lt : ∀ {fuel : Nat} {s : Cursor × List Char} {key : String},
    string.go fuel s.1 s.2 = some (key, c') → c'.rest.length < s.1.rest.length
  | 0, _, _, h => by cases h
  | fuel + 1, s, key, h => by
    rw [string_go_succ] at h
    cases hs : stringStep s with
    | inl a =>
      rw [hs] at h
      cases h
      exact stringStep_close_lowers hs
    | inr s' =>
      rw [hs] at h
      exact Nat.lt_trans (length_string_go_lt h) (stringStep_lowers hs)

theorem length_string_lt {key : String} (h : string c = some (key, c')) :
    c'.rest.length < c.rest.length := by
  simp only [string, bind, Option.bind] at h
  split at h
  · cases h
  · rename_i p hb
    obtain ⟨q, c₁⟩ := p
    dsimp only at h
    split at h
    · cases h
    · have hbody : c'.rest.length < c₁.rest.length := length_string_go_lt (s := (c₁, [])) h
      simp only [Cursor.rest_of_bump hb, List.length_cons]
      omega

theorem length_scalar_lt (h : scalar c = some c') : c'.rest.length < c.rest.length := by
  simp only [scalar] at h
  split at h
  · cases h
  · rename_i hrun
    cases h
    -- the run read is not empty
    have hdrop : ∀ p : Char → Bool, ¬(c.rest.takeWhile p).isEmpty = true →
        (c.rest.drop (c.rest.takeWhile p).length).length < c.rest.length := by
      intro p hp
      have hle := (List.takeWhile_prefix p (l := c.rest)).length_le
      have hne : c.rest.takeWhile p ≠ [] := fun hnil => hp (by rw [hnil]; rfl)
      have hpos := List.length_pos_iff.mpr hne
      simp only [List.length_drop]
      omega
    exact hdrop _ hrun

theorem length_bumpOrStay_skipBlank_lt {x : Char} (h : c.skipBlank.peek = some x) :
    c.skipBlank.bumpOrStay.rest.length < c.rest.length := by
  have := length_skipBlank_le c
  have := Cursor.length_bumpOrStay h
  omega

end Consumed

/-! ## One turn of each function -/

section Steps

variable {fuel : Nat} {path : List String} {i : Nat} {idx : SourceIndex} {c c₁ : Cursor}
  {x : Char} {key : String}

theorem value_end (h : c.skipBlank.peek = none) : value (fuel + 1) path idx c = (idx, none) := by
  rw [value]
  simp only [h]

theorem members_end (h : c.skipBlank.peek = none) :
    members (fuel + 1) path idx c = (idx, none) := by
  rw [members]
  simp only [h]

theorem members_stray (h : c.skipBlank.peek = some x) (hx : x ≠ '}' ∧ x ≠ ',' ∧ x ≠ '"') :
    members (fuel + 1) path idx c = (idx, none) := by
  obtain ⟨h1, h2, h3⟩ := hx
  rw [members]
  simp only [h]

theorem members_keyUnread (h : c.skipBlank.peek = some '"') (hs : string c.skipBlank = none) :
    members (fuel + 1) path idx c = (idx, none) := by
  rw [members]
  simp only [h, hs]

theorem members_colonMissing (h : c.skipBlank.peek = some '"')
    (hs : string c.skipBlank = some (key, c₁)) (hcolon : c₁.skipBlank.peek ≠ some ':') :
    members (fuel + 1) path idx c = (idx, none) := by
  rw [members]
  simp only [h, hs]
  cases hpeek : c₁.skipBlank.peek with
  | none =>
    have hrest : c₁.skipBlank.rest = [] := by simpa [Cursor.peek] using hpeek
    simp [Cursor.bump, hrest]
  | some y =>
    have hy : y ≠ ':' := fun hy => hcolon (hy ▸ hpeek)
    simp [Cursor.bump_of_peek hpeek, hy]

/-- A member's value is read, and the members go on from where it ends. -/
theorem members_entry (h : c.skipBlank.peek = some '"') (hs : string c.skipBlank = some (key, c₁))
    (hcolon : c₁.skipBlank.peek = some ':') :
    members (fuel + 1) path idx c =
      match (Call.member path idx c key c₁).run fuel with
      | (idx, none) => (idx, none)
      | (idx, some c) => members fuel path idx c := by
  rw [members]
  simp only [h, hs, Cursor.bump_of_peek hcolon]
  rfl

theorem items_end (h : c.skipBlank.peek = none) : items (fuel + 1) path i idx c = (idx, none) := by
  rw [items]
  simp only [h]

/-- An item's value is read, and the items go on from where it ends. -/
theorem items_entry (h : c.skipBlank.peek = some x) (hx : x ≠ ']' ∧ x ≠ ',') :
    items (fuel + 1) path i idx c =
      match (Call.item path i idx c).run fuel with
      | (idx, none) => (idx, none)
      | (idx, some c) => items fuel path (i + 1) idx c := by
  obtain ⟨h1, h2⟩ := hx
  rw [items]
  simp only [h]
  rfl

end Steps

/-! ## Runs read what they hand back -/

namespace Call

theorem budget_pos (call : Call) : 0 < call.budget := by
  cases call <;> simp [budget]

theorem exists_succ_of_budget_le {call : Call} {fuel : Nat} (h : call.budget ≤ fuel) :
    ∃ g, fuel = g + 1 :=
  ⟨fuel - 1, by have := call.budget_pos; omega⟩

@[simp] theorem cursor_member (path : List String) (idx : SourceIndex) (c : Cursor) (key : String)
    (c₁ : Cursor) : (member path idx c key c₁).cursor = c₁.skipBlank.bumpOrStay := rfl

@[simp] theorem cursor_item (path : List String) (i : Nat) (idx : SourceIndex) (c : Cursor) :
    (item path i idx c).cursor = c.skipBlank := rfl

/-- A call whose every turn answers `w` answers it on every budget that covers it. -/
theorem run_eq_of_succ {call : Call} {w : Walk} (h : ∀ g, call.run (g + 1) = w) :
    ∀ fuel, call.budget ≤ fuel → call.run fuel = w :=
  SourceIndex.run_eq_of_succ call.budget_pos h

/-- A call that turns into another on each turn answers what that one does, when that one's
budget is smaller. -/
theorem run_eq_of_next {call call' : Call} {w : Walk}
    (h : ∀ fuel, call'.budget ≤ fuel → call'.run fuel = w)
    (hnext : ∀ g, call.run (g + 1) = call'.run g) (hbudget : call'.budget < call.budget) :
    ∀ fuel, call.budget ≤ fuel → call.run fuel = w :=
  SourceIndex.run_eq_of_next h hnext hbudget

end Call

/-- A member's value starts past its key and the colon after it. -/
theorem length_member_value {c c₁ : Cursor} {key : String}
    (hs : string c.skipBlank = some (key, c₁)) (hcolon : c₁.skipBlank.peek = some ':') :
    c₁.skipBlank.bumpOrStay.rest.length + 2 ≤ c.rest.length := by
  have := length_string_lt hs
  have := length_skipBlank_le c
  have := length_skipBlank_le c₁
  have := Cursor.length_bumpOrStay hcolon
  omega

/-- A call that hands back a cursor has read at least one character: a value that is not a
string, an object or an array is a scalar of at least one character, and members and items
hand back a cursor only past their closing bracket. -/
theorem Runs.shrinks {call : Call} {w : Walk} (h : Runs call w) :
    ∀ c', w.2 = some c' → c'.rest.length < call.cursor.rest.length := by
  induction h with
  | valueEnd | membersEnd | membersStray | keyUnread | colonMissing | memberStops | itemsEnd
    | itemStops => intro _ h; cases h
  | object hpeek _ ih | array hpeek _ ih | membersComma hpeek _ ih | itemsComma hpeek _ ih =>
    intro c' hc'
    have := ih c' hc'
    have := length_bumpOrStay_skipBlank_lt hpeek
    simp only [Call.cursor] at *
    omega
  | string hpeek =>
    intro c' hc'
    obtain ⟨⟨key, c''⟩, hs, rfl⟩ := Option.map_eq_some_iff.mp hc'
    exact Nat.lt_of_lt_of_le (length_string_lt hs) (length_skipBlank_le _)
  | scalar hpeek =>
    intro c' hc'
    exact Nat.lt_of_lt_of_le (length_scalar_lt hc') (length_skipBlank_le _)
  | membersClose hpeek | itemsClose hpeek =>
    intro c' hc'
    cases hc'
    exact length_bumpOrStay_skipBlank_lt hpeek
  | memberNext _ hs hcolon _ _ ihv ihm =>
    intro c' hc'
    have hrest := ihm c' hc'
    have hvalue := ihv _ rfl
    rw [Call.cursor_member] at hvalue
    have := length_member_value hs hcolon
    simp only [Call.cursor] at hrest ⊢
    omega
  | @itemNext _ _ _ _ c _ _ _ _ _ _ _ _ ihv ihi =>
    intro c' hc'
    have hrest := ihi c' hc'
    have hvalue := ihv _ rfl
    rw [Call.cursor_item] at hvalue
    have := length_skipBlank_le c
    simp only [Call.cursor] at hrest ⊢
    omega

/-! ## The budget covers the run -/

section Budget

variable {fuel : Nat} (ih : ∀ call : Call, call.budget ≤ fuel → Runs call (call.run fuel))
  {path : List String} {i : Nat} {idx : SourceIndex} {c : Cursor}

include ih

theorem runs_value_succ (hbudget : 2 * c.rest.length + 1 ≤ fuel + 1) :
    Runs (.value path idx c) (value (fuel + 1) path idx c) := by
  cases hpeek : c.skipBlank.peek with
  | none =>
    rw [value_end hpeek]
    exact .valueEnd hpeek
  | some x =>
    have hnext := length_bumpOrStay_skipBlank_lt hpeek
    by_cases hobject : x = '{'
    · subst hobject
      rw [value_object hpeek]
      exact .object hpeek (ih (.members ..) (by simp only [Call.budget]; omega))
    by_cases harray : x = '['
    · subst harray
      rw [value_array hpeek]
      exact .array hpeek (ih (.items ..) (by simp only [Call.budget]; omega))
    by_cases hstring : x = '"'
    · subst hstring
      rw [value_string hpeek]
      exact .string hpeek
    · rw [value_scalar hpeek ⟨hobject, harray, hstring⟩]
      exact .scalar hpeek hobject harray hstring

theorem runs_members_succ (hbudget : 2 * c.rest.length + 1 ≤ fuel + 1) :
    Runs (.members path idx c) (members (fuel + 1) path idx c) := by
  cases hpeek : c.skipBlank.peek with
  | none =>
    rw [members_end hpeek]
    exact .membersEnd hpeek
  | some x =>
    have hnext := length_bumpOrStay_skipBlank_lt hpeek
    by_cases hclose : x = '}'
    · subst hclose
      rw [members_close hpeek]
      exact .membersClose hpeek
    by_cases hcomma : x = ','
    · subst hcomma
      rw [members_comma hpeek]
      exact .membersComma hpeek (ih (.members ..) (by simp only [Call.budget]; omega))
    by_cases hquote : x = '"'
    · subst hquote
      cases hs : string c.skipBlank with
      | none =>
        rw [members_keyUnread hpeek hs]
        exact .keyUnread hpeek hs
      | some p =>
        obtain ⟨key, c₁⟩ := p
        by_cases hcolon : c₁.skipBlank.peek = some ':'
        · have hstart := length_member_value hs hcolon
          have hv := ih (.member path idx c key c₁)
            (by simp only [Call.member, Call.budget]; omega)
          rw [members_entry hpeek hs hcolon]
          rcases hw : (Call.member path idx c key c₁).run fuel with ⟨idx', _ | c₂⟩
          · rw [hw] at hv
            exact .memberStops hpeek hs hcolon hv
          · rw [hw] at hv
            -- the value read a character, so the members that follow are covered too
            have hshrink := hv.shrinks c₂ rfl
            rw [Call.cursor_member] at hshrink
            exact .memberNext hpeek hs hcolon hv
              (ih (.members path idx' c₂) (by simp only [Call.budget]; omega))
        · rw [members_colonMissing hpeek hs hcolon]
          exact .colonMissing hpeek hs hcolon
    · rw [members_stray hpeek ⟨hclose, hcomma, hquote⟩]
      exact .membersStray hpeek hclose hcomma hquote

theorem runs_items_succ (hbudget : 2 * c.rest.length + 2 ≤ fuel + 1) :
    Runs (.items path i idx c) (items (fuel + 1) path i idx c) := by
  cases hpeek : c.skipBlank.peek with
  | none =>
    rw [items_end hpeek]
    exact .itemsEnd hpeek
  | some x =>
    have hnext := length_bumpOrStay_skipBlank_lt hpeek
    by_cases hclose : x = ']'
    · subst hclose
      rw [items_close hpeek]
      exact .itemsClose hpeek
    by_cases hcomma : x = ','
    · subst hcomma
      rw [items_comma hpeek]
      exact .itemsComma hpeek (ih (.items ..) (by simp only [Call.budget]; omega))
    · have hskip := length_skipBlank_le c
      have hv := ih (.item path i idx c) (by simp only [Call.item, Call.budget]; omega)
      rw [items_entry hpeek ⟨hclose, hcomma⟩]
      rcases hw : (Call.item path i idx c).run fuel with ⟨idx', _ | c₂⟩
      · rw [hw] at hv
        exact .itemStops hpeek hclose hcomma hv
      · rw [hw] at hv
        have hshrink := hv.shrinks c₂ rfl
        rw [Call.cursor_item] at hshrink
        exact .itemNext hpeek hclose hcomma hv
          (ih (.items path (i + 1) idx' c₂) (by simp only [Call.budget]; omega))

end Budget

/-- The budget of every call covers a run of it. -/
theorem Runs.of_budget :
    ∀ (fuel : Nat) (call : Call), call.budget ≤ fuel → Runs call (call.run fuel)
  | 0, call, h => absurd h (Nat.not_le.mpr call.budget_pos)
  | fuel + 1, .value _ _ _, h => runs_value_succ (Runs.of_budget fuel) h
  | fuel + 1, .members _ _ _, h => runs_members_succ (Runs.of_budget fuel) h
  | fuel + 1, .items _ _ _ _, h => runs_items_succ (Runs.of_budget fuel) h

/-- A run is what the walk computes on every budget that covers the call. -/
theorem Runs.run_eq {call : Call} {w : Walk} (h : Runs call w) :
    ∀ fuel, call.budget ≤ fuel → call.run fuel = w := by
  induction h with
  | valueEnd hpeek => exact Call.run_eq_of_succ fun _ => value_end hpeek
  | object hpeek _ ih =>
    have := length_bumpOrStay_skipBlank_lt hpeek
    exact Call.run_eq_of_next ih (fun _ => value_object hpeek) (by simp only [Call.budget]; omega)
  | array hpeek _ ih =>
    have := length_bumpOrStay_skipBlank_lt hpeek
    exact Call.run_eq_of_next ih (fun _ => value_array hpeek) (by simp only [Call.budget]; omega)
  | string hpeek => exact Call.run_eq_of_succ fun _ => value_string hpeek
  | scalar hpeek hobject harray hstring =>
    exact Call.run_eq_of_succ fun _ => value_scalar hpeek ⟨hobject, harray, hstring⟩
  | membersEnd hpeek => exact Call.run_eq_of_succ fun _ => members_end hpeek
  | membersClose hpeek => exact Call.run_eq_of_succ fun _ => members_close hpeek
  | membersComma hpeek _ ih =>
    have := length_bumpOrStay_skipBlank_lt hpeek
    exact Call.run_eq_of_next ih (fun _ => members_comma hpeek) (by simp only [Call.budget]; omega)
  | membersStray hpeek hclose hcomma hquote =>
    exact Call.run_eq_of_succ fun _ => members_stray hpeek ⟨hclose, hcomma, hquote⟩
  | keyUnread hpeek hs => exact Call.run_eq_of_succ fun _ => members_keyUnread hpeek hs
  | colonMissing hpeek hs hcolon =>
    exact Call.run_eq_of_succ fun _ => members_colonMissing hpeek hs hcolon
  | memberStops hpeek hs hcolon _ ihv =>
    intro fuel hf
    obtain ⟨g, rfl⟩ := Call.exists_succ_of_budget_le hf
    have := length_member_value hs hcolon
    simp only [Call.budget] at hf
    have hv := ihv g (by simp only [Call.member, Call.budget]; omega)
    rw [Call.run, members_entry hpeek hs hcolon, hv]
  | memberNext hpeek hs hcolon hrun _ ihv ihm =>
    intro fuel hf
    obtain ⟨g, rfl⟩ := Call.exists_succ_of_budget_le hf
    have := length_member_value hs hcolon
    have hshrink := hrun.shrinks _ rfl
    rw [Call.cursor_member] at hshrink
    simp only [Call.budget] at hf
    have hv := ihv g (by simp only [Call.member, Call.budget]; omega)
    rw [Call.run, members_entry hpeek hs hcolon, hv]
    exact ihm g (by simp only [Call.budget]; omega)
  | itemsEnd hpeek => exact Call.run_eq_of_succ fun _ => items_end hpeek
  | itemsClose hpeek => exact Call.run_eq_of_succ fun _ => items_close hpeek
  | itemsComma hpeek _ ih =>
    have := length_bumpOrStay_skipBlank_lt hpeek
    exact Call.run_eq_of_next ih (fun _ => items_comma hpeek) (by simp only [Call.budget]; omega)
  | @itemStops _ _ _ _ c _ hpeek hclose hcomma _ ihv =>
    intro fuel hf
    obtain ⟨g, rfl⟩ := Call.exists_succ_of_budget_le hf
    have := length_skipBlank_le c
    simp only [Call.budget] at hf
    have hv := ihv g (by simp only [Call.item, Call.budget]; omega)
    rw [Call.run, items_entry hpeek ⟨hclose, hcomma⟩, hv]
  | @itemNext _ _ _ _ c _ _ _ hpeek hclose hcomma hrun _ ihv ihi =>
    intro fuel hf
    obtain ⟨g, rfl⟩ := Call.exists_succ_of_budget_le hf
    have := length_skipBlank_le c
    have hshrink := hrun.shrinks _ rfl
    rw [Call.cursor_item] at hshrink
    simp only [Call.budget] at hf
    have hv := ihv g (by simp only [Call.item, Call.budget]; omega)
    rw [Call.run, items_entry hpeek ⟨hclose, hcomma⟩, hv]
    exact ihi g (by simp only [Call.budget]; omega)

/-- The walk halts within its budget: on every budget that covers a call, it answers the run
of the call with no budget, and that run is the only one. -/
theorem Call.halts (call : Call) : HaltsWithin Runs Call.run Call.budget call :=
  .of_runs (fun fuel hfuel => Runs.of_budget fuel call hfuel)
    (fun _ _ h h' => (h.run_eq _ (Nat.le_refl _)).symm.trans (h'.run_eq _ (Nat.le_refl _)))

/-- The index of a JSON text is what the walk's run from the text's start records. -/
theorem scan_eq_of_runs {source : String} {w : Walk}
    (h : Runs (.value [] {} ⟨source.toList, 1, 1⟩) w) : scan source = w.1 := by
  have hrun := h.run_eq (2 * source.toList.length + 2) (by simp only [Call.budget]; omega)
  simp only [scan]
  rw [← hrun]
  rfl

end Covenant.SourceIndex.JsonText
