import Mathlib
import Covenant.Binary64.Parse
import Covenant.Proofs.Pointer.Index

/-!
# The spellings of a double

The grammar of float literals, stated on the text's parts: an optional sign, integer digits, an
optional point with more digits (at least one digit in all), and an optional exponent `e` or `E`
with its own sign and at least one digit (`DecimalSpelling`), or one of the words `inf`,
`infinity` and `nan` in any case after an optional sign (`SpecialSpelling`). The decimal reader
accepts exactly the decimal spellings, with the sign, digits and power of ten they write
(`decimalLiteral?_eq_some_iff`), and the special reader exactly the special ones
(`specialLiteral?_isSome_iff`).
-/

namespace Covenant.Binary64

/-- An optional sign, and whether it negates. -/
inductive SignPart : List Char → Bool → Prop
  | none : SignPart [] false
  | plus : SignPart ['+'] false
  | minus : SignPart ['-'] true

/-- What may follow the integer digits: nothing, or a point and more digits. -/
inductive FractionPart : List Char → List Char → Prop
  | none : FractionPart [] []
  | point {ds : List Char} (h : ∀ c ∈ ds, c.isDigit) : FractionPart ('.' :: ds) ds

/-- An exponent and its value: nothing, or `e` or `E` with a sign and at least one digit. -/
inductive ExponentPart : List Char → Int → Prop
  | none : ExponentPart [] 0
  | marked {mark : Char} {s ds : List Char} {neg : Bool} (hmark : mark = 'e' ∨ mark = 'E')
      (hs : SignPart s neg) (hne : ds ≠ []) (hd : ∀ c ∈ ds, c.isDigit) :
      ExponentPart (mark :: (s ++ ds))
        (if neg then -(Nat.ofDigitChars 10 ds 0 : Int) else Nat.ofDigitChars 10 ds 0)

/-- The decimal spellings of a double, with the sign, digits and power of ten each one writes:
a sign, integer digits, a fraction, at least one digit between the two, and an exponent. -/
def DecimalSpelling (cs : List Char) (neg : Bool) (m : Nat) (e : Int) : Prop :=
  ∃ s w p fd x k, cs = s ++ (w ++ (p ++ x)) ∧ SignPart s neg ∧ (∀ c ∈ w, c.isDigit) ∧
    FractionPart p fd ∧ w ++ fd ≠ [] ∧ ExponentPart x k ∧
    m = Nat.ofDigitChars 10 (w ++ fd) 0 ∧ e = k - fd.length

theorem FractionPart.digits {p fd : List Char} (hp : FractionPart p fd) :
    ∀ c ∈ fd, c.isDigit := by
  cases hp with
  | none => simp
  | point h => exact h

theorem takeWhile_append_drop (p : Char → Bool) :
    ∀ l : List Char, l.takeWhile p ++ l.drop (l.takeWhile p).length = l
  | [] => rfl
  | a :: l => by
    by_cases h : p a <;> simp [h, takeWhile_append_drop p l]

theorem takeWhile_digits_append {w r : List Char} (hw : ∀ c ∈ w, c.isDigit)
    (hr : r.takeWhile Char.isDigit = []) : (w ++ r).takeWhile Char.isDigit = w := by
  rw [List.takeWhile_append_of_pos hw, hr, List.append_nil]

theorem takeWhile_exponentPart {x : List Char} {k : Int} (hx : ExponentPart x k) :
    x.takeWhile Char.isDigit = [] := by
  cases hx with
  | none => rfl
  | marked hmark => rcases hmark with rfl | rfl <;> rfl

theorem takeWhile_fractionPart {p fd x : List Char} (hp : FractionPart p fd)
    {k : Int} (hx : ExponentPart x k) : (p ++ x).takeWhile Char.isDigit = [] := by
  cases hp with
  | none => exact takeWhile_exponentPart hx
  | point => rfl

theorem toNat?_ofList_digits {ds : List Char} (hne : ds ≠ []) (hd : ∀ c ∈ ds, c.isDigit) :
    (String.ofList ds).toNat?.getD 0 = Nat.ofDigitChars 10 ds 0 := by
  rw [Pointer.toNat?_of_digits (by simpa using hne) (by simpa using hd)]
  simp

theorem exponentPart_of_guard {c : Char} {s ds : List Char} {neg : Bool}
    (hc : (decide (c = 'e') || decide (c = 'E')) = true) (hs : SignPart s neg)
    (hg : ¬(ds.isEmpty || !ds.all Char.isDigit) = true) :
    ExponentPart (c :: (s ++ ds))
      (if neg then -((String.ofList ds).toNat?.getD 0 : Int)
        else ((String.ofList ds).toNat?.getD 0 : Int)) := by
  obtain ⟨hne, hd⟩ : ds ≠ [] ∧ ∀ c ∈ ds, c.isDigit := by simpa using hg
  rw [toNat?_ofList_digits hne hd]
  exact .marked (by simpa using hc) hs hne hd

theorem spelling_of_decimalLiteral? {cs : List Char} {neg : Bool} {m : Nat} {e : Int}
    (h : decimalLiteral? cs = some (neg, m, e)) : DecimalSpelling cs neg m e := by
  unfold decimalLiteral? at h
  split at h
  rename_i neg0 body hsign
  obtain ⟨s, hs, rfl⟩ : ∃ s, SignPart s neg0 ∧ cs = s ++ body := by
    split at hsign <;> (simp only [Prod.mk.injEq] at hsign; obtain ⟨rfl, rfl⟩ := hsign)
    · exact ⟨_, .minus, rfl⟩
    · exact ⟨_, .plus, rfl⟩
    · exact ⟨_, .none, rfl⟩
  clear hsign
  extract_lets w rest1 at h
  have hw : w = body.takeWhile Char.isDigit := rfl
  have hr1 : rest1 = body.drop w.length := rfl
  clear_value w rest1
  split at h
  rename_i fd x hfrac
  have hwd : ∀ c ∈ w, c.isDigit := fun c hc => List.mem_takeWhile_imp (hw ▸ hc)
  obtain ⟨p, hp, hrest⟩ : ∃ p, FractionPart p fd ∧ rest1 = p ++ x := by
    split at hfrac <;> (simp only [Prod.mk.injEq] at hfrac; obtain ⟨rfl, rfl⟩ := hfrac)
    · exact ⟨_, .point fun c hc => List.mem_takeWhile_imp hc,
        by rw [List.cons_append, takeWhile_append_drop]⟩
    · exact ⟨_, .none, rfl⟩
  have hbody : body = w ++ (p ++ x) := by
    rw [← hrest, hr1, hw]
    exact (takeWhile_append_drop _ body).symm
  clear hfrac hrest hr1 hw
  -- at least one digit, then the exponent
  extract_lets digits mval jpk jp at h
  split at h
  · simp at h
  rename_i hdigits
  simp only [jp] at h
  obtain ⟨k, hx, hk⟩ : ∃ k, ExponentPart x k ∧ jpk k = some (neg, m, e) := by
    split at h
    · exact ⟨0, .none, by simpa using h⟩
    rename_i c rest
    split at h
    swap
    · simp at h
    rename_i hc
    -- the exponent's own sign, then its digits
    split at h <;> split at h <;> (try simp at h) <;> rename_i hg
    · exact ⟨_, exponentPart_of_guard hc .minus hg, by simpa using h⟩
    · exact ⟨_, exponentPart_of_guard hc .plus hg, by simpa using h⟩
    · exact ⟨_, exponentPart_of_guard hc .none hg, by simpa using h⟩
  have hne : w ++ fd ≠ [] := by simpa using hdigits
  simp only [jpk, mval, digits,
    toNat?_ofList_digits hne (List.forall_mem_append.2 ⟨hwd, hp.digits⟩),
    pure, Option.some.injEq, Prod.mk.injEq] at hk
  obtain ⟨rfl, rfl, rfl⟩ := hk
  exact ⟨s, w, p, fd, x, k, by rw [hbody], hs, hwd, hp, hne, hx, rfl, rfl⟩

theorem ne_sign_of_isDigit {c : Char} (h : c.isDigit) : c ≠ '-' ∧ c ≠ '+' := by
  constructor <;> (rintro rfl; simp at h)

theorem head_of_body {w p fd x : List Char} (hw : ∀ c ∈ w, c.isDigit) (hp : FractionPart p fd)
    (hne : w ++ fd ≠ []) : ∃ c r, w ++ (p ++ x) = c :: r ∧ c ≠ '-' ∧ c ≠ '+' := by
  cases w with
  | cons c r => exact ⟨c, _, rfl, ne_sign_of_isDigit (hw c List.mem_cons_self)⟩
  | nil =>
    cases hp with
    | none => simp at hne
    | point => exact ⟨'.', _, rfl, by decide, by decide⟩

theorem decimalLiteral?_of_spelling {cs : List Char} {neg : Bool} {m : Nat} {e : Int}
    (h : DecimalSpelling cs neg m e) : decimalLiteral? cs = some (neg, m, e) := by
  obtain ⟨s, w, p, fd, x, k, rfl, hs, hw, hp, hne, hx, rfl, rfl⟩ := h
  obtain ⟨c, r, hcr, hc1, hc2⟩ := head_of_body (x := x) hw hp hne
  unfold decimalLiteral?
  split
  rename_i neg0 body hsign
  obtain ⟨rfl, rfl⟩ : neg0 = neg ∧ body = w ++ (p ++ x) := by
    cases hs with
    | minus => simpa using hsign.symm
    | plus => simpa using hsign.symm
    | none =>
      -- no sign: the body's first character is none either
      simp only [List.nil_append] at hsign
      rw [hcr] at hsign
      split at hsign
      · simp_all
      · simp_all
      · simp_all
  clear hsign
  extract_lets w' rest1
  have hw' : w = w' := (takeWhile_digits_append hw (takeWhile_fractionPart hp hx)).symm
  have hr1 : p ++ x = rest1 := by
    show _ = List.drop w'.length _
    rw [← hw', List.drop_left]
  clear_value w' rest1
  subst hw' hr1
  have hfd := hp.digits
  split
  rename_i fd' x' hfrac
  obtain ⟨rfl, rfl⟩ : fd = fd' ∧ x = x' := by
    cases hp with
    | point =>
      simp only [List.cons_append, takeWhile_digits_append hfd (takeWhile_exponentPart hx),
        List.drop_left, Prod.mk.injEq] at hfrac
      exact hfrac
    | none =>
      simp only [List.nil_append] at hfrac
      split at hfrac
      · -- an exponent does not start with a point
        cases hx with
        | marked hmark => simp at hmark
      · simp_all
  extract_lets digits mval jpk jp
  have hmval : mval = Nat.ofDigitChars 10 (w ++ fd) 0 :=
    toNat?_ofList_digits hne (List.forall_mem_append.2 ⟨hw, hfd⟩)
  rw [if_neg (by simpa using hne)]
  simp only [jp]
  cases hx with
  | none => simp [jpk, hmval]
  | marked hmark hs' hne' hd' =>
    rename_i mark s' ds eneg
    have hmark' : (decide (mark = 'e') || decide (mark = 'E')) = true := by
      rcases hmark with rfl | rfl <;> rfl
    have hguard : ¬(ds.isEmpty || !ds.all Char.isDigit) = true := by simpa using ⟨hne', hd'⟩
    have hval := toNat?_ofList_digits hne' hd'
    simp only [hmark', if_true]
    cases hs' with
    | minus => simp only [List.cons_append, List.nil_append, if_neg hguard]; simp [jpk, hmval, hval]
    | plus => simp only [List.cons_append, List.nil_append, if_neg hguard]; simp [jpk, hmval, hval]
    | none =>
      -- the exponent's digits do not start with a sign
      simp only [List.nil_append]
      split
      · exact absurd (hd' _ List.mem_cons_self) (by decide)
      · exact absurd (hd' _ List.mem_cons_self) (by decide)
      · simp only [if_neg hguard]
        simp [jpk, hmval, hval]

theorem decimalLiteral?_eq_some_iff {cs : List Char} {neg : Bool} {m : Nat} {e : Int} :
    decimalLiteral? cs = some (neg, m, e) ↔ DecimalSpelling cs neg m e :=
  ⟨spelling_of_decimalLiteral?, decimalLiteral?_of_spelling⟩

/-- The words for the special values, `inf`, `infinity` and `nan`, after an optional sign and in
any mix of cases. -/
def SpecialSpelling (cs : List Char) : Prop :=
  ∃ s neg word, SignPart s neg ∧ cs = s ++ word ∧
    word.map Char.toLower ∈ ["inf".toList, "infinity".toList, "nan".toList]

theorem toLower_ofList_eq {word : List Char} {t : String} :
    (String.ofList word).toLower = t ↔ word.map Char.toLower = t.toList := by
  rw [← String.toList_inj, String.toLower, String.toList_map, String.toList_ofList]

theorem head_of_special {word : List Char}
    (h : word.map Char.toLower ∈ ["inf".toList, "infinity".toList, "nan".toList]) :
    ∃ c r, word = c :: r ∧ c ≠ '-' ∧ c ≠ '+' := by
  cases word with
  | nil => simp at h
  | cons c r =>
    refine ⟨c, r, rfl, ?_, ?_⟩ <;> (rintro rfl; simp at h)

theorem specialLiteral?_isSome_iff {cs : List Char} :
    (specialLiteral? cs).isSome ↔ SpecialSpelling cs := by
  unfold specialLiteral?
  split
  rename_i neg body hsign
  have hword : (if (String.ofList body).toLower = "inf" ∨ (String.ofList body).toLower = "infinity"
      then some (infinity neg) else if (String.ofList body).toLower = "nan" then some (0.0 / 0.0)
      else none).isSome ↔ body.map Char.toLower ∈ ["inf".toList, "infinity".toList, "nan".toList] := by
    simp only [toLower_ofList_eq]
    split_ifs with h1 h2
    · simp only [Option.isSome_some, List.mem_cons, true_iff]
      tauto
    · simp [h2]
    · simp at h1 h2 ⊢
      tauto
  dsimp only
  simp only [Bool.or_eq_true, decide_eq_true_eq]
  rw [hword]
  constructor
  · intro hb
    obtain ⟨s, hs, rfl⟩ : ∃ s, SignPart s neg ∧ cs = s ++ body := by
      split at hsign <;> (simp only [Prod.mk.injEq] at hsign; obtain ⟨rfl, rfl⟩ := hsign)
      · exact ⟨_, .minus, rfl⟩
      · exact ⟨_, .plus, rfl⟩
      · exact ⟨_, .none, rfl⟩
    exact ⟨s, neg, body, hs, rfl, hb⟩
  · rintro ⟨s, neg', word, hs, rfl, hw⟩
    obtain ⟨c, r, rfl, hc1, hc2⟩ := head_of_special hw
    -- the sign the reader strips is the spelling's sign
    have hbody : body = c :: r := by
      cases hs with
      | minus => simp_all
      | plus => simp_all
      | none =>
        simp only [List.nil_append] at hsign
        split at hsign <;> simp_all
    rwa [hbody]

end Covenant.Binary64
