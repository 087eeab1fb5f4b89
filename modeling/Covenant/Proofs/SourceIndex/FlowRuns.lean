import Covenant.Proofs.SourceIndex.Loops

/-!
# The flow walk ends

The walk over a one-line flow collection is three functions that call each other, run on a
budget of two turns for each character. Unlike the JSON walk, a value here may hand back the
cursor it was given: a plain scalar may be empty, as the key read at `]` in `{]` or the item
read at `}` in `[}`. Every call hands back a cursor at or after the one it was given
(`Runs.reaches`), so a loop whose entry ends where it began has read nothing, and the walk stops
it there (`entryStalls`, `itemStalls`). Each turn of the mapping and sequence loops therefore
reads a character or ends the walk, so the budget of every call covers its run
(`Runs.of_budget`), and the walk on a budget answers what the run does, the only answer there is
(`Call.halts`).
-/

namespace Covenant.SourceIndex.Flow

/-- A call of the walk: one of its three functions, or what follows a mapping's key (its value
after a colon, or nothing), with the arguments it reads. -/
inductive Call where
  | value (path : List String) (idx : SourceIndex) (c : Cursor)
  | members (path : List String) (idx : SourceIndex) (c : Cursor)
  | items (path : List String) (position : Nat) (idx : SourceIndex) (c : Cursor)
  | entry (path : List String) (idx : SourceIndex) (c : Cursor)

namespace Call

def cursor : Call → Cursor
  | value _ _ c => c
  | members _ _ c => c
  | items _ _ _ c => c
  | entry _ _ c => c

/-- The call on a budget, for a text whose offset 0 stands at `line` and `column`. -/
def run (line : Int) (column : Nat) (fuel : Nat) : Call → Walk
  | value path idx c => Flow.value fuel line column path idx c
  | members path idx c => Flow.members fuel line column path idx c
  | items path position idx c => Flow.items fuel line column path position idx c
  | entry path idx c =>
    if c.peek = some ':' then Flow.value fuel line column path idx c.bump else (idx, some c)

/-- Two turns for each character left, and one more: an array's items take one more still,
for the value each of them starts with, and what follows a key takes its value's budget. -/
def budget : Call → Nat
  | value _ _ c => 2 * c.rest.length + 1
  | members _ _ c => 2 * c.rest.length + 1
  | items _ _ _ c => 2 * c.rest.length + 2
  | entry _ _ c => 2 * c.rest.length

/-- What follows a member's key, the key recorded where it begins. -/
def member (line : Int) (column : Nat) (path : List String) (idx : SourceIndex) (c : Cursor)
    (key : String) (c₁ : Cursor) : Call :=
  .entry (path ++ [key])
    (idx.record (path ++ [key]) ⟨line, (column + c.skipSpaces.offset + 1 : Nat)⟩)
    c₁.skipSpaces

/-- The call that reads an item's value: at the path of its position, recorded where it
begins. -/
def item (line : Int) (column : Nat) (path : List String) (i : Nat) (idx : SourceIndex)
    (c : Cursor) : Call :=
  .value (path ++ [toString i])
    (idx.record (path ++ [toString i]) ⟨line, (column + c.skipSpaces.offset + 1 : Nat)⟩)
    c.skipSpaces

@[simp] theorem cursor_member (line : Int) (column : Nat) (path : List String) (idx : SourceIndex)
    (c : Cursor) (key : String) (c₁ : Cursor) :
    (member line column path idx c key c₁).cursor = c₁.skipSpaces := rfl

@[simp] theorem cursor_item (line : Int) (column : Nat) (path : List String) (i : Nat)
    (idx : SourceIndex) (c : Cursor) : (item line column path i idx c).cursor = c.skipSpaces := rfl

end Call

/-- The walk with no budget. A value opens a mapping or a sequence, or reads a scalar, after
spaces; entries and items end at their closing bracket and pass commas. A mapping's entry is a
key, recorded, then a value after a colon; an item is a value. When an entry or an item ends at
a cursor, the walk goes on from there unless it has not moved, and stops then. -/
inductive Runs (line : Int) (column : Nat) : Call → Walk → Prop
  | valueEnd {path : List String} {idx : SourceIndex} {c : Cursor} :
      c.skipSpaces.peek = none → Runs line column (.value path idx c) (idx, none)
  | object {path : List String} {idx : SourceIndex} {c : Cursor} {w : Walk} :
      c.skipSpaces.peek = some '{' → Runs line column (.members path idx c.skipSpaces.bump) w →
      Runs line column (.value path idx c) w
  | array {path : List String} {idx : SourceIndex} {c : Cursor} {w : Walk} :
      c.skipSpaces.peek = some '[' → Runs line column (.items path 0 idx c.skipSpaces.bump) w →
      Runs line column (.value path idx c) w
  | scalar {path : List String} {idx : SourceIndex} {c : Cursor} {x : Char} :
      c.skipSpaces.peek = some x → x ≠ '{' → x ≠ '[' →
      Runs line column (.value path idx c) (idx, (scalar false c.skipSpaces).map (·.2))
  | membersEnd {path : List String} {idx : SourceIndex} {c : Cursor} :
      c.skipSpaces.peek = none → Runs line column (.members path idx c) (idx, none)
  | membersClose {path : List String} {idx : SourceIndex} {c : Cursor} :
      c.skipSpaces.peek = some '}' →
      Runs line column (.members path idx c) (idx, some c.skipSpaces.bump)
  | membersComma {path : List String} {idx : SourceIndex} {c : Cursor} {w : Walk} :
      c.skipSpaces.peek = some ',' → Runs line column (.members path idx c.skipSpaces.bump) w →
      Runs line column (.members path idx c) w
  | keyUnread {path : List String} {idx : SourceIndex} {c : Cursor} {x : Char} :
      c.skipSpaces.peek = some x → x ≠ '}' → x ≠ ',' → scalar true c.skipSpaces = none →
      Runs line column (.members path idx c) (idx, none)
  | entryStops {path : List String} {idx idx' : SourceIndex} {c c₁ : Cursor} {x : Char}
      {key : String} :
      c.skipSpaces.peek = some x → x ≠ '}' → x ≠ ',' →
      scalar true c.skipSpaces = some (key, c₁) →
      Runs line column (.member line column path idx c key c₁) (idx', none) →
      Runs line column (.members path idx c) (idx', none)
  | entryStalls {path : List String} {idx idx' : SourceIndex} {c c₁ c₂ : Cursor} {x : Char}
      {key : String} :
      c.skipSpaces.peek = some x → x ≠ '}' → x ≠ ',' →
      scalar true c.skipSpaces = some (key, c₁) →
      Runs line column (.member line column path idx c key c₁) (idx', some c₂) →
      c₂.offset = c.skipSpaces.offset → Runs line column (.members path idx c) (idx', none)
  | entryNext {path : List String} {idx idx' : SourceIndex} {c c₁ c₂ : Cursor} {x : Char}
      {key : String} {w : Walk} :
      c.skipSpaces.peek = some x → x ≠ '}' → x ≠ ',' →
      scalar true c.skipSpaces = some (key, c₁) →
      Runs line column (.member line column path idx c key c₁) (idx', some c₂) →
      c₂.offset ≠ c.skipSpaces.offset → Runs line column (.members path idx' c₂) w →
      Runs line column (.members path idx c) w
  | colon {path : List String} {idx : SourceIndex} {c : Cursor} {w : Walk} :
      c.peek = some ':' → Runs line column (.value path idx c.bump) w →
      Runs line column (.entry path idx c) w
  | noColon {path : List String} {idx : SourceIndex} {c : Cursor} :
      c.peek ≠ some ':' → Runs line column (.entry path idx c) (idx, some c)
  | itemsEnd {path : List String} {i : Nat} {idx : SourceIndex} {c : Cursor} :
      c.skipSpaces.peek = none → Runs line column (.items path i idx c) (idx, none)
  | itemsClose {path : List String} {i : Nat} {idx : SourceIndex} {c : Cursor} :
      c.skipSpaces.peek = some ']' →
      Runs line column (.items path i idx c) (idx, some c.skipSpaces.bump)
  | itemsComma {path : List String} {i : Nat} {idx : SourceIndex} {c : Cursor} {w : Walk} :
      c.skipSpaces.peek = some ',' → Runs line column (.items path i idx c.skipSpaces.bump) w →
      Runs line column (.items path i idx c) w
  | itemStops {path : List String} {i : Nat} {idx idx' : SourceIndex} {c : Cursor} {x : Char} :
      c.skipSpaces.peek = some x → x ≠ ']' → x ≠ ',' →
      Runs line column (.item line column path i idx c) (idx', none) →
      Runs line column (.items path i idx c) (idx', none)
  | itemStalls {path : List String} {i : Nat} {idx idx' : SourceIndex} {c c₂ : Cursor}
      {x : Char} :
      c.skipSpaces.peek = some x → x ≠ ']' → x ≠ ',' →
      Runs line column (.item line column path i idx c) (idx', some c₂) →
      c₂.offset = c.skipSpaces.offset → Runs line column (.items path i idx c) (idx', none)
  | itemNext {path : List String} {i : Nat} {idx idx' : SourceIndex} {c c₂ : Cursor} {x : Char}
      {w : Walk} :
      c.skipSpaces.peek = some x → x ≠ ']' → x ≠ ',' →
      Runs line column (.item line column path i idx c) (idx', some c₂) →
      c₂.offset ≠ c.skipSpaces.offset → Runs line column (.items path (i + 1) idx' c₂) w →
      Runs line column (.items path i idx c) w

namespace Cursor

/-- `c'` stands at or after `c`: no more characters are left, and those read moved the offset
by their number. -/
structure Reaches (c c' : Cursor) : Prop where
  le : c'.rest.length ≤ c.rest.length
  total : c'.offset + c'.rest.length = c.offset + c.rest.length

theorem Reaches.refl (c : Cursor) : c.Reaches c := ⟨Nat.le_refl _, rfl⟩

theorem Reaches.trans {c c' c'' : Cursor} (h : c.Reaches c') (h' : c'.Reaches c'') :
    c.Reaches c'' :=
  ⟨Nat.le_trans h'.le h.le, h'.total.trans h.total⟩

/-- A cursor that moved has read a character. -/
theorem Reaches.lt_of_offset_ne {c c' : Cursor} (h : c.Reaches c') (hne : c'.offset ≠ c.offset) :
    c'.rest.length < c.rest.length := by
  have := h.total
  have := h.le
  omega

theorem reaches_skipSpaces (c : Cursor) : c.Reaches c.skipSpaces := by
  have hle := (List.takeWhile_prefix (fun x => x = ' ' || x = '\t') (l := c.rest)).length_le
  constructor <;> simp only [skipSpaces, List.length_drop] <;> omega

theorem reaches_bump {c : Cursor} {x : Char} (h : c.peek = some x) : c.Reaches c.bump := by
  obtain ⟨rest, offset⟩ := c
  cases rest with
  | nil => cases h
  | cons y ys =>
    constructor <;> simp [bump]
    omega

theorem reaches_tail (x : Char) (rest : List Char) (offset : Nat) :
    Reaches ⟨x :: rest, offset⟩ ⟨rest, offset + 1⟩ := by
  constructor <;> simp only [List.length_cons] <;> omega

theorem length_bump {c : Cursor} {x : Char} (h : c.peek = some x) :
    c.bump.rest.length + 1 = c.rest.length := by
  obtain ⟨rest, offset⟩ := c
  cases rest with
  | nil => cases h
  | cons y ys => simp [bump]

end Cursor

open Cursor

/-! ## What the readers consume -/

section Consumed

theorem quotedStep_reaches {quote : Char} {s s' : Cursor × List Char}
    (h : quotedStep quote s = .inr s') : s.1.Reaches s'.1 := by
  obtain ⟨⟨rest, offset⟩, acc⟩ := s
  cases rest with
  | nil => cases h
  | cons x rest =>
    simp only [quotedStep] at h
    -- each turn reads the character it looks at, and an escape or a doubled quote one more
    split at h
    · split at h
      · cases h
      · rename_i _ y tail
        cases h
        exact (reaches_tail x (y :: tail) offset).trans (reaches_bump (x := y) rfl)
    split at h
    · rename_i hpair
      cases h
      exact (reaches_tail x rest offset).trans (reaches_bump hpair.2.2)
    split at h
    · cases h
    · cases h
      exact reaches_tail x rest offset

theorem quotedStep_close_reaches {quote : Char} {s : Cursor × List Char} {text : String}
    {c' : Cursor} (h : quotedStep quote s = .inl (some (text, c'))) : s.1.Reaches c' := by
  obtain ⟨⟨rest, offset⟩, acc⟩ := s
  cases rest with
  | nil => cases h
  | cons x rest =>
    simp only [quotedStep] at h
    -- only the closing quote answers with a text
    split at h
    · split at h <;> cases h
    split at h
    · cases h
    split at h
    · cases h
      exact reaches_tail x rest offset
    · cases h

theorem quotedBody_reaches {quote : Char} : ∀ {fuel : Nat} {s : Cursor × List Char}
    {text : String} {c' : Cursor},
    quotedBody quote fuel s.1 s.2 = some (text, c') → s.1.Reaches c'
  | 0, _, _, _, h => by cases h
  | fuel + 1, s, text, c', h => by
    rw [quotedBody_succ] at h
    cases hs : quotedStep quote s with
    | inl a =>
      rw [hs] at h
      cases h
      exact quotedStep_close_reaches hs
    | inr s' =>
      rw [hs] at h
      exact (quotedStep_reaches hs).trans (quotedBody_reaches h)

theorem length_plain_le (key : Bool) : ∀ l : List Char, (scalar.plain key l).length ≤ l.length
  | [] => Nat.le_refl _
  | x :: rest => by
    have ih := length_plain_le key rest
    show (if _ then [] else x :: scalar.plain key rest).length ≤ (x :: rest).length
    -- whatever the next character says about a key's end, the run stops or keeps `x`
    split <;> split <;> simp <;> omega

/-- A scalar is read from where it begins on. -/
theorem scalar_reaches {key : Bool} {c c' : Cursor} {text : String}
    (h : scalar key c = some (text, c')) : c.Reaches c' := by
  obtain ⟨rest, offset⟩ := c
  cases rest with
  | nil => cases h
  | cons q rest =>
    simp only [scalar] at h
    split at h
    · exact (reaches_bump (x := q) rfl).trans (quotedBody_reaches (s := (_, [])) h)
    · -- a plain scalar stops where its run of characters does
      obtain ⟨-, rfl⟩ := Prod.mk.inj (Option.some.inj h)
      have := length_plain_le key (q :: rest)
      constructor <;> simp only [List.length_drop] <;> omega

/-- What follows a key starts where the key ends, blanks passed. -/
theorem reaches_member {c c₁ : Cursor} {key : String}
    (hs : scalar true c.skipSpaces = some (key, c₁)) :
    c.skipSpaces.Reaches c₁.skipSpaces :=
  (scalar_reaches hs).trans (reaches_skipSpaces c₁)

end Consumed

/-! ## One turn of each function -/

section Steps

variable {fuel : Nat} {line : Int} {column : Nat} {path : List String} {i : Nat}
  {idx : SourceIndex} {c c₁ : Cursor} {x : Char} {key : String}

theorem value_end (h : c.skipSpaces.peek = none) :
    value (fuel + 1) line column path idx c = (idx, none) := by
  rw [value]
  simp only [h]

theorem value_object (h : c.skipSpaces.peek = some '{') :
    value (fuel + 1) line column path idx c =
      members fuel line column path idx c.skipSpaces.bump := by
  rw [value]
  simp only [h]

theorem value_array (h : c.skipSpaces.peek = some '[') :
    value (fuel + 1) line column path idx c =
      items fuel line column path 0 idx c.skipSpaces.bump := by
  rw [value]
  simp only [h]

theorem value_scalar (h : c.skipSpaces.peek = some x) (hx : x ≠ '{' ∧ x ≠ '[') :
    value (fuel + 1) line column path idx c = (idx, (scalar false c.skipSpaces).map (·.2)) := by
  obtain ⟨h1, h2⟩ := hx
  rw [value]
  simp only [h]

theorem members_end (h : c.skipSpaces.peek = none) :
    members (fuel + 1) line column path idx c = (idx, none) := by
  rw [members]
  simp only [h]

theorem members_close (h : c.skipSpaces.peek = some '}') :
    members (fuel + 1) line column path idx c = (idx, some c.skipSpaces.bump) := by
  rw [members]
  simp only [h]

theorem members_comma (h : c.skipSpaces.peek = some ',') :
    members (fuel + 1) line column path idx c =
      members fuel line column path idx c.skipSpaces.bump := by
  rw [members]
  simp only [h]

theorem members_keyUnread (h : c.skipSpaces.peek = some x) (hx : x ≠ '}' ∧ x ≠ ',')
    (hs : scalar true c.skipSpaces = none) :
    members (fuel + 1) line column path idx c = (idx, none) := by
  obtain ⟨h1, h2⟩ := hx
  rw [members]
  simp only [h, hs]

/-- A key is read and recorded, then what follows it, and the entries go on from where that
ends unless it has not moved. -/
theorem members_entry {w : Walk} (h : c.skipSpaces.peek = some x) (hx : x ≠ '}' ∧ x ≠ ',')
    (hs : scalar true c.skipSpaces = some (key, c₁))
    (hw : (Call.member line column path idx c key c₁).run line column fuel = w) :
    members (fuel + 1) line column path idx c =
      match w with
      | (idx, none) => (idx, none)
      | (idx, some c') =>
        if c'.offset = c.skipSpaces.offset then (idx, none)
        else members fuel line column path idx c' := by
  obtain ⟨h1, h2⟩ := hx
  simp only [Call.member, Call.run] at hw
  rw [members]
  simp only [h, hs, hw]
  obtain ⟨idx', _ | c'⟩ := w <;> rfl

theorem items_end (h : c.skipSpaces.peek = none) :
    items (fuel + 1) line column path i idx c = (idx, none) := by
  rw [items]
  simp only [h]

theorem items_close (h : c.skipSpaces.peek = some ']') :
    items (fuel + 1) line column path i idx c = (idx, some c.skipSpaces.bump) := by
  rw [items]
  simp only [h]

theorem items_comma (h : c.skipSpaces.peek = some ',') :
    items (fuel + 1) line column path i idx c =
      items fuel line column path i idx c.skipSpaces.bump := by
  rw [items]
  simp only [h]

/-- An item is recorded and read, and the items go on from where it ends unless it has not
moved. -/
theorem items_entry {w : Walk} (h : c.skipSpaces.peek = some x) (hx : x ≠ ']' ∧ x ≠ ',')
    (hw : (Call.item line column path i idx c).run line column fuel = w) :
    items (fuel + 1) line column path i idx c =
      match w with
      | (idx, none) => (idx, none)
      | (idx, some c') =>
        if c'.offset = c.skipSpaces.offset then (idx, none)
        else items fuel line column path (i + 1) idx c' := by
  obtain ⟨h1, h2⟩ := hx
  simp only [Call.item, Call.run] at hw
  rw [items]
  simp only [h, hw]
  obtain ⟨idx', _ | c'⟩ := w <;> rfl

end Steps

/-! ## Runs move forward -/

namespace Call

/-- Every call but an entry's has a positive budget. -/
theorem budget_pos {call : Call} (hcall : ∀ path idx c, call ≠ .entry path idx c) :
    0 < call.budget := by
  cases call with
  | entry path idx c => exact absurd rfl (hcall path idx c)
  | _ => simp only [budget]; omega

/-- Each of the three functions takes a turn on every budget that covers it. -/
theorem exists_succ_of_budget_le {call : Call} {fuel : Nat} (h : call.budget ≤ fuel)
    (hcall : ∀ path idx c, call ≠ .entry path idx c) : ∃ g, fuel = g + 1 :=
  ⟨fuel - 1, by have := budget_pos hcall; omega⟩

section Run

variable {line : Int} {column : Nat} {call : Call} {w : Walk}

/-- A call whose every turn answers `w` answers it on every budget that covers it. -/
theorem run_eq_of_succ (hcall : ∀ path idx c, call ≠ .entry path idx c)
    (h : ∀ g, call.run line column (g + 1) = w) :
    ∀ fuel, call.budget ≤ fuel → call.run line column fuel = w :=
  SourceIndex.run_eq_of_succ (budget_pos hcall) h

/-- A call that turns into another on each turn answers what that one does, when that one's
budget is smaller. -/
theorem run_eq_of_next {call' : Call}
    (h : ∀ fuel, call'.budget ≤ fuel → call'.run line column fuel = w)
    (hnext : ∀ g, call.run line column (g + 1) = call'.run line column g)
    (hbudget : call'.budget < call.budget) :
    ∀ fuel, call.budget ≤ fuel → call.run line column fuel = w :=
  SourceIndex.run_eq_of_next h hnext hbudget

end Run

end Call

section Runs

variable {line : Int} {column : Nat}

/-- Every call hands back a cursor at or after the one it was given. -/
theorem Runs.reaches {call : Call} {w : Walk} (h : Runs line column call w) :
    ∀ c', w.2 = some c' → call.cursor.Reaches c' := by
  induction h with
  | valueEnd | membersEnd | keyUnread | entryStops | entryStalls | itemsEnd | itemStops
    | itemStalls => intro _ h; cases h
  | @object _ _ c _ hpeek _ ih | @array _ _ c _ hpeek _ ih | @membersComma _ _ c _ hpeek _ ih
    | @itemsComma _ _ _ c _ hpeek _ ih =>
    intro c' hc'
    exact (reaches_skipSpaces c).trans ((reaches_bump hpeek).trans (ih c' hc'))
  | @scalar _ _ c _ hpeek =>
    intro c' hc'
    obtain ⟨⟨text, c''⟩, hs, rfl⟩ := Option.map_eq_some_iff.mp hc'
    exact (reaches_skipSpaces c).trans (scalar_reaches hs)
  | @membersClose _ _ c hpeek | @itemsClose _ _ _ c hpeek =>
    intro c' hc'
    cases hc'
    exact (reaches_skipSpaces c).trans (reaches_bump hpeek)
  | @entryNext _ _ _ c _ _ _ _ _ _ _ _ hs _ _ _ ihe ihm =>
    intro c' hc'
    have he := ihe _ rfl
    rw [Call.cursor_member] at he
    exact (reaches_skipSpaces c).trans ((reaches_member hs).trans (he.trans (ihm c' hc')))
  | colon hcolon _ ih =>
    intro c' hc'
    exact (reaches_bump hcolon).trans (ih c' hc')
  | noColon =>
    intro c' hc'
    cases hc'
    exact Reaches.refl _
  | @itemNext _ _ _ _ c _ _ _ _ _ _ _ _ _ ihv ihi =>
    intro c' hc'
    have hv := ihv _ rfl
    rw [Call.cursor_item] at hv
    exact (reaches_skipSpaces c).trans (hv.trans (ihi c' hc'))

/-- What follows a key takes a value's budget when a colon opens one. -/
theorem runs_entry {fuel : Nat}
    (hvalue : ∀ path idx (c : Cursor), 2 * c.rest.length + 1 ≤ fuel →
      Runs line column (.value path idx c) (value fuel line column path idx c))
    {path : List String} {idx : SourceIndex} {c : Cursor} (hbudget : 2 * c.rest.length ≤ fuel) :
    Runs line column (.entry path idx c) ((Call.entry path idx c).run line column fuel) := by
  by_cases hcolon : c.peek = some ':'
  · have := length_bump hcolon
    simp only [Call.run, if_pos hcolon]
    exact .colon hcolon (hvalue path idx c.bump (by omega))
  · simp only [Call.run, if_neg hcolon]
    exact .noColon hcolon

end Runs

/-! ## The budget covers the run -/

section Budget

variable {line : Int} {column : Nat} {fuel : Nat}
  (ih : ∀ call : Call, call.budget ≤ fuel → Runs line column call (call.run line column fuel))
  {path : List String} {i : Nat} {idx : SourceIndex} {c : Cursor}

include ih

theorem runs_value_succ (hbudget : 2 * c.rest.length + 1 ≤ fuel + 1) :
    Runs line column (.value path idx c) (value (fuel + 1) line column path idx c) := by
  have hskip := (reaches_skipSpaces c).le
  cases hpeek : c.skipSpaces.peek with
  | none =>
    rw [value_end hpeek]
    exact .valueEnd hpeek
  | some x =>
    have hnext := length_bump hpeek
    by_cases hobject : x = '{'
    · subst hobject
      rw [value_object hpeek]
      exact .object hpeek (ih (.members ..) (by simp only [Call.budget]; omega))
    by_cases harray : x = '['
    · subst harray
      rw [value_array hpeek]
      exact .array hpeek (ih (.items ..) (by simp only [Call.budget]; omega))
    · rw [value_scalar hpeek ⟨hobject, harray⟩]
      exact .scalar hpeek hobject harray

theorem runs_members_succ (hbudget : 2 * c.rest.length + 1 ≤ fuel + 1) :
    Runs line column (.members path idx c) (members (fuel + 1) line column path idx c) := by
  have hskip := (reaches_skipSpaces c).le
  cases hpeek : c.skipSpaces.peek with
  | none =>
    rw [members_end hpeek]
    exact .membersEnd hpeek
  | some x =>
    have hnext := length_bump hpeek
    by_cases hclose : x = '}'
    · subst hclose
      rw [members_close hpeek]
      exact .membersClose hpeek
    by_cases hcomma : x = ','
    · subst hcomma
      rw [members_comma hpeek]
      exact .membersComma hpeek (ih (.members ..) (by simp only [Call.budget]; omega))
    cases hs : scalar true c.skipSpaces with
    | none =>
      rw [members_keyUnread hpeek ⟨hclose, hcomma⟩ hs]
      exact .keyUnread hpeek hclose hcomma hs
    | some p =>
      obtain ⟨key, c₁⟩ := p
      have hkey := reaches_member hs
      have he := ih (.member line column path idx c key c₁)
        (by simp only [Call.member, Call.budget]; have := hkey.le; omega)
      rcases hw : (Call.member line column path idx c key c₁).run line column fuel with
        ⟨idx', _ | c₂⟩
      · rw [members_entry hpeek ⟨hclose, hcomma⟩ hs hw]
        rw [hw] at he
        exact .entryStops hpeek hclose hcomma hs he
      · rw [members_entry hpeek ⟨hclose, hcomma⟩ hs hw]
        rw [hw] at he
        by_cases hstall : c₂.offset = c.skipSpaces.offset
        · simp only [if_pos hstall]
          exact .entryStalls hpeek hclose hcomma hs he hstall
        · simp only [if_neg hstall]
          -- the entry moved, so it read a character
          have hentry := he.reaches c₂ rfl
          rw [Call.cursor_member] at hentry
          have hmoved := (hkey.trans hentry).lt_of_offset_ne hstall
          exact .entryNext hpeek hclose hcomma hs he hstall
            (ih (.members path idx' c₂) (by simp only [Call.budget]; omega))

theorem runs_items_succ (hbudget : 2 * c.rest.length + 2 ≤ fuel + 1) :
    Runs line column (.items path i idx c) (items (fuel + 1) line column path i idx c) := by
  have hskip := (reaches_skipSpaces c).le
  cases hpeek : c.skipSpaces.peek with
  | none =>
    rw [items_end hpeek]
    exact .itemsEnd hpeek
  | some x =>
    have hnext := length_bump hpeek
    by_cases hclose : x = ']'
    · subst hclose
      rw [items_close hpeek]
      exact .itemsClose hpeek
    by_cases hcomma : x = ','
    · subst hcomma
      rw [items_comma hpeek]
      exact .itemsComma hpeek (ih (.items ..) (by simp only [Call.budget]; omega))
    · have hv := ih (.item line column path i idx c) (by simp only [Call.item, Call.budget]; omega)
      rcases hw : (Call.item line column path i idx c).run line column fuel with
        ⟨idx', _ | c₂⟩
      · rw [items_entry hpeek ⟨hclose, hcomma⟩ hw]
        rw [hw] at hv
        exact .itemStops hpeek hclose hcomma hv
      · rw [items_entry hpeek ⟨hclose, hcomma⟩ hw]
        rw [hw] at hv
        by_cases hstall : c₂.offset = c.skipSpaces.offset
        · simp only [if_pos hstall]
          exact .itemStalls hpeek hclose hcomma hv hstall
        · simp only [if_neg hstall]
          -- the item moved, so it read a character
          have hitem := hv.reaches c₂ rfl
          rw [Call.cursor_item] at hitem
          have hmoved := hitem.lt_of_offset_ne hstall
          exact .itemNext hpeek hclose hcomma hv hstall
            (ih (.items path (i + 1) idx' c₂) (by simp only [Call.budget]; omega))

end Budget

section Halts

variable {line : Int} {column : Nat}

/-- The budget of every call covers a run of it. -/
theorem Runs.of_budget : ∀ (fuel : Nat) (call : Call), call.budget ≤ fuel →
    Runs line column call (call.run line column fuel)
  | 0, .value .., h | 0, .members .., h | 0, .items .., h => absurd h (by simp [Call.budget])
  | 0, .entry .., h => runs_entry (fun _ _ _ hb => absurd hb (by omega)) h
  | fuel + 1, .value .., h => runs_value_succ (Runs.of_budget fuel) h
  | fuel + 1, .members .., h => runs_members_succ (Runs.of_budget fuel) h
  | fuel + 1, .items .., h => runs_items_succ (Runs.of_budget fuel) h
  | fuel + 1, .entry .., h =>
    runs_entry (fun _ _ _ hb => runs_value_succ (Runs.of_budget fuel) hb) h

/-- A run is what the walk computes on every budget that covers the call. -/
theorem Runs.run_eq {call : Call} {w : Walk} (h : Runs line column call w) :
    ∀ fuel, call.budget ≤ fuel → call.run line column fuel = w := by
  induction h with
  | valueEnd hpeek => exact Call.run_eq_of_succ nofun fun _ => value_end hpeek
  | scalar hpeek hobject harray =>
    exact Call.run_eq_of_succ nofun fun _ => value_scalar hpeek ⟨hobject, harray⟩
  | membersEnd hpeek => exact Call.run_eq_of_succ nofun fun _ => members_end hpeek
  | membersClose hpeek => exact Call.run_eq_of_succ nofun fun _ => members_close hpeek
  | keyUnread hpeek hclose hcomma hs =>
    exact Call.run_eq_of_succ nofun fun _ => members_keyUnread hpeek ⟨hclose, hcomma⟩ hs
  | itemsEnd hpeek => exact Call.run_eq_of_succ nofun fun _ => items_end hpeek
  | itemsClose hpeek => exact Call.run_eq_of_succ nofun fun _ => items_close hpeek
  | @object _ _ c _ hpeek _ ih =>
    have := length_bump hpeek
    have := (reaches_skipSpaces c).le
    exact Call.run_eq_of_next ih (fun _ => value_object hpeek)
      (by simp only [Call.budget]; omega)
  | @membersComma _ _ c _ hpeek _ ih =>
    have := length_bump hpeek
    have := (reaches_skipSpaces c).le
    exact Call.run_eq_of_next ih (fun _ => members_comma hpeek)
      (by simp only [Call.budget]; omega)
  | @array _ _ c _ hpeek _ ih =>
    have := length_bump hpeek
    have := (reaches_skipSpaces c).le
    exact Call.run_eq_of_next ih (fun _ => value_array hpeek)
      (by simp only [Call.budget]; omega)
  | @itemsComma _ _ _ c _ hpeek _ ih =>
    have := length_bump hpeek
    have := (reaches_skipSpaces c).le
    exact Call.run_eq_of_next ih (fun _ => items_comma hpeek)
      (by simp only [Call.budget]; omega)
  | @entryStops _ _ _ c _ _ _ hpeek hclose hcomma hs _ ihe =>
    intro fuel hf
    obtain ⟨g, rfl⟩ := Call.exists_succ_of_budget_le hf nofun
    have := (reaches_member hs).le
    have := (reaches_skipSpaces c).le
    simp only [Call.budget] at hf
    have he := ihe g (by simp only [Call.member, Call.budget]; omega)
    rw [Call.run, members_entry hpeek ⟨hclose, hcomma⟩ hs he]
  | @entryStalls _ _ _ c _ _ _ _ hpeek hclose hcomma hs _ hstall ihe =>
    intro fuel hf
    obtain ⟨g, rfl⟩ := Call.exists_succ_of_budget_le hf nofun
    have := (reaches_member hs).le
    have := (reaches_skipSpaces c).le
    simp only [Call.budget] at hf
    have he := ihe g (by simp only [Call.member, Call.budget]; omega)
    rw [Call.run, members_entry hpeek ⟨hclose, hcomma⟩ hs he]
    simp only [if_pos hstall]
  | @entryNext _ _ _ c _ _ _ _ _ hpeek hclose hcomma hs hrun hstall _ ihe ihm =>
    intro fuel hf
    obtain ⟨g, rfl⟩ := Call.exists_succ_of_budget_le hf nofun
    have hkey := reaches_member hs
    have := (reaches_skipSpaces c).le
    have hentry := hrun.reaches _ rfl
    rw [Call.cursor_member] at hentry
    have hmoved := (hkey.trans hentry).lt_of_offset_ne hstall
    simp only [Call.budget] at hf
    have he := ihe g (by simp only [Call.member, Call.budget]; have := hkey.le; omega)
    rw [Call.run, members_entry hpeek ⟨hclose, hcomma⟩ hs he]
    simp only [if_neg hstall]
    exact ihm g (by simp only [Call.budget]; omega)
  | @colon _ _ c _ hcolon _ ih =>
    intro fuel hf
    have := length_bump hcolon
    simp only [Call.budget] at hf
    simp only [Call.run, if_pos hcolon]
    exact ih fuel (by simp only [Call.budget]; omega)
  | noColon hcolon =>
    intro fuel _
    simp only [Call.run, if_neg hcolon]
  | @itemStops _ _ _ _ c _ hpeek hclose hcomma _ ihv =>
    intro fuel hf
    obtain ⟨g, rfl⟩ := Call.exists_succ_of_budget_le hf nofun
    have := (reaches_skipSpaces c).le
    simp only [Call.budget] at hf
    have hv := ihv g (by simp only [Call.item, Call.budget]; omega)
    rw [Call.run, items_entry hpeek ⟨hclose, hcomma⟩ hv]
  | @itemStalls _ _ _ _ c _ _ hpeek hclose hcomma _ hstall ihv =>
    intro fuel hf
    obtain ⟨g, rfl⟩ := Call.exists_succ_of_budget_le hf nofun
    have := (reaches_skipSpaces c).le
    simp only [Call.budget] at hf
    have hv := ihv g (by simp only [Call.item, Call.budget]; omega)
    rw [Call.run, items_entry hpeek ⟨hclose, hcomma⟩ hv]
    simp only [if_pos hstall]
  | @itemNext _ _ _ _ c _ _ _ hpeek hclose hcomma hrun hstall _ ihv ihi =>
    intro fuel hf
    obtain ⟨g, rfl⟩ := Call.exists_succ_of_budget_le hf nofun
    have := (reaches_skipSpaces c).le
    have hitem := hrun.reaches _ rfl
    rw [Call.cursor_item] at hitem
    have hmoved := hitem.lt_of_offset_ne hstall
    simp only [Call.budget] at hf
    have hv := ihv g (by simp only [Call.item, Call.budget]; omega)
    rw [Call.run, items_entry hpeek ⟨hclose, hcomma⟩ hv]
    simp only [if_neg hstall]
    exact ihi g (by simp only [Call.budget]; omega)

/-- The walk halts within its budget: on every budget that covers a call, it answers the run
of the call with no budget, and that run is the only one. -/
theorem Call.halts (call : Call) :
    HaltsWithin (Runs line column) (Call.run line column) Call.budget call :=
  .of_runs (fun fuel hfuel => Runs.of_budget fuel call hfuel)
    (fun _ _ h h' => (h.run_eq _ (Nat.le_refl _)).symm.trans (h'.run_eq _ (Nat.le_refl _)))

-- In `{]` the key read at `]` and in `[}` the item read at `}` are empty, and the walk stops there.
example : Runs 1 0 (.value [] {} ⟨"\x7b]".toList, 0⟩) (⟨[("/", ⟨1, 2⟩)]⟩, none) :=
  .object rfl (.entryStalls rfl (by decide) (by decide) rfl (.noColon (by decide)) rfl)

example : Runs 1 0 (.value [] {} ⟨"[\x7d".toList, 0⟩) (⟨[("/0", ⟨1, 2⟩)]⟩, none) :=
  .array rfl (.itemStalls rfl (by decide) (by decide) (.scalar rfl (by decide) (by decide)) rfl)

/-- The positions a flow collection adds to an index are what the walk's run from the
collection's start records. -/
theorem scan_eq_of_runs {text : String} {path : List String} {idx : SourceIndex} {w : Walk}
    (h : Runs line column (.value path idx ⟨text.toList, 0⟩) w) :
    scan text line column path idx = w.1 := by
  have hrun := h.run_eq (2 * text.toList.length + 2) (by simp only [Call.budget]; omega)
  simp only [scan]
  rw [← hrun]
  rfl

end Halts

end Covenant.SourceIndex.Flow
