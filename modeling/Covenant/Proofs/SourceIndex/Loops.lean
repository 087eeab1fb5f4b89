import Covenant.SourceIndex.Scan

/-!
# Loops that read their input

The indexers run their loops on a budget of the characters left: the blanks before a JSON
token, the body of a JSON string, the body of a quoted flow scalar and the dashes that open
block items. Such a loop is stated without a budget by its turn, which either answers or hands
over the next state (`Loop`). When every turn reads a character, and an input read to its end
answers as the spent budget does, the budgeted definition computes on every budget from the
input's length the answer of the loop, which is the only one (`Loop.haltsWithin`).
-/

namespace Covenant.SourceIndex

/-- A definition on a budget halts within `budget k` at `k` when, on every budget at least that,
it computes the answer of a run that needs no budget, and that run answers only this. -/
def HaltsWithin {κ β : Type} (Runs : κ → β → Prop) (run : Nat → κ → β)
    (budget : κ → Nat) (k : κ) : Prop :=
  ∃ b, Runs k b ∧ (∀ b', Runs k b' → b' = b) ∧
    ∀ fuel, budget k ≤ fuel → run fuel k = b

theorem HaltsWithin.of_runs {κ β : Type} {Runs : κ → β → Prop} {run : Nat → κ → β}
    {budget : κ → Nat} {k : κ} (hruns : ∀ fuel, budget k ≤ fuel → Runs k (run fuel k))
    (hunique : ∀ b b', Runs k b → Runs k b' → b = b') : HaltsWithin Runs run budget k :=
  ⟨run (budget k) k, hruns _ (Nat.le_refl _), fun _ h => hunique _ _ h (hruns _ (Nat.le_refl _)),
    fun fuel hfuel => hunique _ _ (hruns fuel hfuel) (hruns _ (Nat.le_refl _))⟩

section Budget

variable {β : Type} {run run' : Nat → β} {w : β} {b b' : Nat}

/-- A definition on a budget that answers `w` at every turn answers it on every budget from a
positive one. -/
theorem run_eq_of_succ (hpos : 0 < b) (h : ∀ g, run (g + 1) = w) :
    ∀ fuel, b ≤ fuel → run fuel = w := by
  intro fuel hfuel
  obtain ⟨g, rfl⟩ : ∃ g, fuel = g + 1 := ⟨fuel - 1, by omega⟩
  exact h g

/-- A definition on a budget whose every turn hands over to another answers what the other
does, when the other needs a smaller budget. -/
theorem run_eq_of_next (h : ∀ fuel, b' ≤ fuel → run' fuel = w)
    (hnext : ∀ g, run (g + 1) = run' g) (hb : b' < b) : ∀ fuel, b ≤ fuel → run fuel = w := by
  intro fuel hfuel
  obtain ⟨g, rfl⟩ : ∃ g, fuel = g + 1 := ⟨fuel - 1, by omega⟩
  rw [hnext]
  exact h g (by omega)

end Budget

section Loop

variable {σ α : Type} {step : σ → α ⊕ σ}

/-- A run of a loop with no budget: each turn answers or gives the state of the next. -/
inductive Loop (step : σ → α ⊕ σ) : σ → α → Prop
  | done {s : σ} {a : α} : step s = .inl a → Loop step s a
  | next {s s' : σ} {a : α} : step s = .inr s' → Loop step s' a → Loop step s a

theorem Loop.unique {s : σ} {a a' : α} (h : Loop step s a) (h' : Loop step s a') : a = a' := by
  induction h with
  | done hs =>
    cases h' with
    | done hs' => simpa [hs] using hs'
    | next hs' => simp [hs] at hs'
  | next hs _ ih =>
    cases h' with
    | done hs' => simp [hs] at hs'
    | next hs' h' =>
      obtain rfl : _ = _ := Sum.inr.inj (hs.symm.trans hs')
      exact ih h'

variable {go : Nat → σ → α} {μ : σ → Nat}

/-- A budget of the measure suffices when every turn lowers it and the spent budget answers as
the turn at measure zero does. -/
theorem Loop.of_budget (hgo : ∀ fuel s, go (fuel + 1) s = (step s).elim id (go fuel))
    (hzero : ∀ s, μ s = 0 → step s = .inl (go 0 s))
    (hlower : ∀ s s', step s = .inr s' → μ s' < μ s) :
    ∀ fuel s, μ s ≤ fuel → Loop step s (go fuel s) := by
  intro fuel
  induction fuel with
  | zero => exact fun s hs => .done (hzero s (by omega))
  | succ fuel ih =>
    intro s hs
    rw [hgo]
    cases hstep : step s with
    | inl a => exact .done hstep
    | inr s' => exact .next hstep (ih s' (by have := hlower s s' hstep; omega))

theorem Loop.haltsWithin (hgo : ∀ fuel s, go (fuel + 1) s = (step s).elim id (go fuel))
    (hzero : ∀ s, μ s = 0 → step s = .inl (go 0 s))
    (hlower : ∀ s s', step s = .inr s' → μ s' < μ s) (s : σ) :
    HaltsWithin (Loop step) go μ s :=
  .of_runs (fun fuel hfuel => Loop.of_budget hgo hzero hlower fuel s hfuel)
    (fun _ _ h h' => h.unique h')

end Loop

/-! ## The JSON cursor -/

namespace JsonText

namespace Cursor

variable {c c' : Cursor} {x : Char}

theorem rest_of_bump (h : c.bump = some (x, c')) : c.rest = x :: c'.rest := by
  unfold bump at h
  split at h
  · cases h
  · rename_i y ys hrest
    obtain ⟨rfl, rfl⟩ := Prod.mk.inj (Option.some.inj h)
    split <;> simp [hrest]

theorem bump_eq_none (h : c.bump = none) : c.rest = [] := by
  unfold bump at h
  split at h <;> simp_all

theorem bump_of_peek (h : c.peek = some x) : c.bump = some (x, c.bumpOrStay) := by
  unfold peek at h
  unfold bumpOrStay bump
  split <;> simp_all

theorem length_bumpOrStay (h : c.peek = some x) : c.bumpOrStay.rest.length + 1 = c.rest.length := by
  simp [rest_of_bump (bump_of_peek h)]

theorem length_bumpOrStay_le (c : Cursor) : c.bumpOrStay.rest.length ≤ c.rest.length := by
  cases h : c.peek with
  | none => simp [bumpOrStay, bump, show c.rest = [] by simpa [peek] using h]
  | some x => have := length_bumpOrStay h; omega

end Cursor

/-- One turn of skipping blanks: a blank is read, anything else ends the skip. -/
def blankStep (c : Cursor) : Cursor ⊕ Cursor :=
  match c.peek with
  | some ' ' | some '\t' | some '\n' | some '\r' => .inr c.bumpOrStay
  | _ => .inl c

theorem skipBlank_go_succ (fuel : Nat) (c : Cursor) :
    Cursor.skipBlank.go (fuel + 1) c = (blankStep c).elim id (Cursor.skipBlank.go fuel) := by
  simp only [Cursor.skipBlank.go, blankStep]
  split <;> simp_all

theorem blankStep_lowers {c c' : Cursor} (h : blankStep c = .inr c') :
    c'.rest.length < c.rest.length := by
  unfold blankStep at h
  split at h <;> cases h <;> (rename_i hpeek; have := Cursor.length_bumpOrStay hpeek; omega)

/-- Skipping blanks is the loop of `blankStep`, its budget never spent before the loop ends. -/
theorem skipBlank_halts (c : Cursor) :
    HaltsWithin (Loop blankStep) Cursor.skipBlank.go (fun c => c.rest.length) c :=
  Loop.haltsWithin skipBlank_go_succ
    (fun c hc => by
      simp [blankStep, Cursor.peek, List.length_eq_zero_iff.mp hc, Cursor.skipBlank.go])
    (fun _ _ h => blankStep_lowers h) c

theorem length_unicodeEscape {c c' : Cursor} {ch : Char} (h : unicodeEscape c = some (ch, c')) :
    c'.rest.length < c.rest.length := by
  simp only [unicodeEscape, bind, Option.bind_eq_some_iff] at h
  obtain ⟨⟨a, c₁⟩, h₁, ⟨b, c₂⟩, h₂, ⟨d, c₃⟩, h₃, ⟨e, c₄⟩, h₄, h⟩ := h
  dsimp only at h₂ h₃ h₄ h
  -- the four digits are read, whatever they turn out to be
  have hc' : c' = c₄ := by
    obtain ⟨_, _, _, _, _, _, _, _, h⟩ := h
    simp only [pure, Option.some.injEq, Prod.mk.injEq] at h
    exact h.2.symm
  simp only [hc', Cursor.rest_of_bump h₁, Cursor.rest_of_bump h₂, Cursor.rest_of_bump h₃,
    Cursor.rest_of_bump h₄, List.length_cons]
  omega

/-- One turn of reading a string's body: the closing quote answers with the text read, an
escape or any other character is read into the text, and the input's end, a cut escape or a
bad `\u` escape answer nothing. -/
def stringStep : Cursor × List Char → Option (String × Cursor) ⊕ (Cursor × List Char)
  | (c, acc) =>
    match c.bump with
    | none => .inl none
    | some (x, c) =>
      if x = '"' then .inl (some (String.ofList acc.reverse, c))
      else if x = '\\' then
        match c.bump with
        | none => .inl none
        | some (y, c) =>
          if y = 'u' then
            match unicodeEscape c with
            | none => .inl none
            | some (ch, c) => .inr (c, ch :: acc)
          else
            let ch := match y with
              | 'n' => '\n'
              | 't' => '\t'
              | 'r' => '\r'
              | 'b' => Char.ofNat 8
              | 'f' => Char.ofNat 12
              | other => other
            .inr (c, ch :: acc)
      else .inr (c, x :: acc)

theorem string_go_succ (fuel : Nat) (s : Cursor × List Char) :
    string.go (fuel + 1) s.1 s.2 = (stringStep s).elim id (fun s => string.go fuel s.1 s.2) := by
  obtain ⟨c, acc⟩ := s
  simp only [string.go, stringStep]
  cases hb : c.bump with
  | none => rfl
  | some p =>
    obtain ⟨x, c₁⟩ := p
    simp only [bind, Option.bind]
    by_cases hq : x = '"'
    · simp [hq, pure]
    by_cases hesc : x = '\\'
    · simp only [hesc]
      cases c₁.bump with
      | none => rfl
      | some p =>
        obtain ⟨y, c₂⟩ := p
        by_cases hu : y = 'u'
        · simp only [hu, if_true]
          cases unicodeEscape c₂ <;> rfl
        · simp only [hu, if_false]
          rfl
    · simp [hq, hesc]

theorem stringStep_lowers {s s' : Cursor × List Char} (h : stringStep s = .inr s') :
    s'.1.rest.length < s.1.rest.length := by
  obtain ⟨c, acc⟩ := s
  simp only [stringStep] at h
  split at h
  · cases h
  · rename_i x c₁ hb
    have h₁ := Cursor.rest_of_bump hb
    split at h
    · cases h
    split at h
    · -- an escape reads one more character, and `\u` four more
      split at h
      · cases h
      rename_i y c₂ hb₂
      have h₂ := Cursor.rest_of_bump hb₂
      split at h
      · split at h
        · cases h
        · rename_i ch c₃ hu
          cases h
          have h₃ := length_unicodeEscape hu
          simp only [h₁, h₂, List.length_cons] at h₃ ⊢
          omega
      · cases h
        simp only [h₁, h₂, List.length_cons]
        omega
    · cases h
      simp [h₁]

theorem stringStep_close_lowers {s : Cursor × List Char} {key : String} {c' : Cursor}
    (h : stringStep s = .inl (some (key, c'))) : c'.rest.length < s.1.rest.length := by
  obtain ⟨c, acc⟩ := s
  simp only [stringStep] at h
  split at h
  · cases h
  · rename_i x c₁ hb
    -- only the closing quote answers with a text
    split at h
    · cases h
      simp [Cursor.rest_of_bump hb]
    split at h
    · split at h
      · cases h
      split at h
      · split at h <;> cases h
      · cases h
    · cases h

/-- Reading a string's body is the loop of `stringStep`, its budget never spent before the loop
ends. -/
theorem string_halts (s : Cursor × List Char) :
    HaltsWithin (Loop stringStep) (fun fuel s => string.go fuel s.1 s.2)
      (fun s => s.1.rest.length) s :=
  Loop.haltsWithin string_go_succ
    (fun s hs => by simp [stringStep, Cursor.bump, List.length_eq_zero_iff.mp hs, string.go])
    (fun _ _ h => stringStep_lowers h) s

end JsonText

/-! ## Quoted flow scalars -/

namespace Flow

/-- One turn of reading a quoted scalar's body: a backslash in double quotes reads the next
character as it is, two single quotes in single quotes read one, the closing quote answers with
the text read, and the input's end answers nothing. -/
def quotedStep (quote : Char) :
    Cursor × List Char → Option (String × Cursor) ⊕ (Cursor × List Char)
  | (c, acc) =>
    match c.rest with
    | [] => .inl none
    | x :: rest =>
      let c : Cursor := ⟨rest, c.offset + 1⟩
      if x = '\\' ∧ quote = '"' then
        match c.rest with
        | [] => .inl none
        | y :: _ => .inr (c.bump, y :: acc)
      else if x = '\'' ∧ quote = '\'' ∧ c.peek = some '\'' then .inr (c.bump, '\'' :: acc)
      else if x = quote then .inl (some (String.ofList acc.reverse, c))
      else .inr (c, x :: acc)

theorem quotedBody_succ (quote : Char) (fuel : Nat) (s : Cursor × List Char) :
    quotedBody quote (fuel + 1) s.1 s.2 =
      (quotedStep quote s).elim id (fun s => quotedBody quote fuel s.1 s.2) := by
  obtain ⟨⟨rest, offset⟩, acc⟩ := s
  cases rest with
  | nil => rfl
  | cons x rest =>
    simp only [quotedBody, quotedStep]
    by_cases hesc : x = '\\' ∧ quote = '"'
    · rw [if_pos hesc, if_pos hesc]
      cases rest <;> rfl
    by_cases hpair : x = '\'' ∧ quote = '\'' ∧ Cursor.peek ⟨rest, offset + 1⟩ = some '\''
    · rw [if_neg hesc, if_neg hesc, if_pos hpair, if_pos hpair]
      rfl
    by_cases hclose : x = quote
    · rw [if_neg hesc, if_neg hesc, if_neg hpair, if_neg hpair, if_pos hclose, if_pos hclose]
      rfl
    · rw [if_neg hesc, if_neg hesc, if_neg hpair, if_neg hpair, if_neg hclose, if_neg hclose]
      rfl

theorem quotedStep_lowers {quote : Char} {s s' : Cursor × List Char}
    (h : quotedStep quote s = .inr s') : s'.1.rest.length < s.1.rest.length := by
  obtain ⟨⟨rest, offset⟩, acc⟩ := s
  cases rest with
  | nil => cases h
  | cons x rest =>
    simp only [quotedStep] at h
    -- each turn reads the character it looks at, and an escape or a doubled quote one more
    split at h
    · split at h
      · cases h
      · cases h
        simp only [Cursor.bump, List.length_drop, List.length_cons]
        omega
    split at h
    · cases h
      simp only [Cursor.bump, List.length_drop, List.length_cons]
      omega
    split at h
    · cases h
    · cases h
      simp

/-- Reading a quoted scalar's body is the loop of `quotedStep`, its budget never spent before
the loop ends. -/
theorem quotedBody_halts (quote : Char) (s : Cursor × List Char) :
    HaltsWithin (Loop (quotedStep quote)) (fun fuel s => quotedBody quote fuel s.1 s.2)
      (fun s => s.1.rest.length) s :=
  Loop.haltsWithin (quotedBody_succ quote)
    (fun s hs => by simp [quotedStep, List.length_eq_zero_iff.mp hs, quotedBody])
    (fun _ _ h => quotedStep_lowers h) s

end Flow

/-! ## The dashes that open block items -/

namespace Block

/-- One turn of reading the dashes before a line's entry: a `-` alone or followed by a space
opens an item, the spaces after it are passed, and anything else ends the items. -/
def dashStep (line : Nat) :
    List Entry × Nat × List Char →
      (List Entry × Nat × List Char) ⊕ (List Entry × Nat × List Char)
  | (out, indent, rest) =>
    match rest with
    | ['-'] | '-' :: ' ' :: _ =>
      let after := (rest.drop 1).dropWhile (· = ' ')
      .inr (out ++ [⟨line, indent, .item, none⟩], indent + (rest.length - after.length), after)
    | _ => .inl (out, indent, rest)

theorem items_succ (line fuel : Nat) (s : List Entry × Nat × List Char) :
    lineEntries.items line (fuel + 1) s.1 s.2.1 s.2.2 =
      (dashStep line s).elim id (fun s => lineEntries.items line fuel s.1 s.2.1 s.2.2) := by
  obtain ⟨out, indent, rest⟩ := s
  by_cases hone : rest = ['-']
  · subst hone
    rfl
  by_cases hpair : ∃ tail, rest = '-' :: ' ' :: tail
  · obtain ⟨tail, rfl⟩ := hpair
    rfl
  · -- neither opens an item: both answer the state as it is
    have hpair' : ∀ tail, rest = '-' :: ' ' :: tail → False := fun tail h => hpair ⟨tail, h⟩
    simp only [lineEntries.items.eq_4 line out indent rest fuel hone hpair',
      dashStep.eq_3 line out indent rest hone hpair', Sum.elim_inl, id]

theorem dashStep_lowers {line : Nat} {s s' : List Entry × Nat × List Char}
    (h : dashStep line s = .inr s') : s'.2.2.length < s.2.2.length := by
  obtain ⟨out, indent, rest⟩ := s
  simp only [dashStep] at h
  -- the dash is read, and the spaces after it at most
  split at h <;> cases h
  · simp
  · rename_i tail
    have hsuf : ((' ' :: tail).dropWhile fun x => decide (x = ' ')) <:+ ' ' :: tail :=
      List.dropWhile_suffix _
    have := hsuf.length_le
    simp only [List.drop_one, List.tail_cons, List.length_cons] at this ⊢
    omega

/-- Reading the dashes before a line's entry is the loop of `dashStep`, its budget never spent
before the loop ends. -/
theorem items_halts (line : Nat) (s : List Entry × Nat × List Char) :
    HaltsWithin (Loop (dashStep line)) (fun fuel s => lineEntries.items line fuel s.1 s.2.1 s.2.2)
      (fun s => s.2.2.length) s :=
  Loop.haltsWithin (items_succ line)
    (fun s hs => by simp [dashStep, List.length_eq_zero_iff.mp hs, lineEntries.items])
    (fun _ _ h => dashStep_lowers h) s

end Block

end Covenant.SourceIndex
