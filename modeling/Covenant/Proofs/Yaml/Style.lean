import Covenant.Proofs.Yaml.Layout

/-!
# What a written style says about a scalar

`analyze` ors one flag per position of a scalar's text, so each flag is the `any` of its
per-position test (`foldl_or`). From that: a text is multi-line exactly when it holds a break
(`analyze_multiline`); a text allowed in single quotes or in a literal block is printable; and a
text allowed plain holds no break, does not start with an indicator, and has no colon followed by
a blank or ending it (`PlainText`).

`selectStyle` then ties the written style to these flags: plain needs the plain flag, single
quotes the single-quote flag, and a literal block is only chosen for a value that asks for it.
-/

namespace Covenant.Yaml.Emit

/-- The flags `analyze` gathers over a text. -/
abbrev Flags := Bool × Bool × Bool × Bool × Bool × Bool × Bool × Bool × Bool × Bool

/-- A fold that ors a per-position test into one flag. -/
theorem foldl_or {T : Type} (step : T → Nat → T) (proj : T → Bool) (f : Nat → Bool)
    (hstep : ∀ acc i, proj (step acc i) = (proj acc || f i)) (l : List Nat) (init : T) :
    proj (l.foldl step init) = (proj init || l.any f) := by
  induction l generalizing init with
  | nil => simp
  | cons i l ih => rw [List.foldl_cons, ih, hstep, List.any_cons, Bool.or_assoc]

theorem getD_toArray {cs : List Char} {i : Nat} (hi : i < cs.length) (d : Char) :
    cs.toArray.getD i d = cs[i] := by
  simp [Array.getD, hi]

theorem any_range_getD (cs : List Char) (f : Char → Bool) :
    (List.range cs.length).any (fun i => f (cs.toArray.getD i ' ')) = cs.any f := by
  apply Bool.eq_iff_iff.mpr
  simp only [List.any_eq_true, List.mem_range]
  constructor
  · rintro ⟨i, hi, h⟩
    exact ⟨cs[i], List.getElem_mem hi, by rwa [getD_toArray hi] at h⟩
  · rintro ⟨c, hc, h⟩
    obtain ⟨i, hi, rfl⟩ := List.getElem_of_mem hc
    exact ⟨i, hi, by rwa [getD_toArray hi]⟩

theorem analyze_multiline (s : String) : (analyze s).multiline = s.toList.any isBreak := by
  unfold analyze
  by_cases hs : s.toList = []
  · simp [hs]
  · simp only [List.isEmpty_iff, hs, if_false]
    refine (foldl_or _ (fun t : Flags => t.2.1) (fun i => isBreak (s.toList.toArray.getD i ' '))
      (fun acc i => rfl) _ _).trans ?_
    simpa using any_range_getD s.toList isBreak

theorem proj_of_foldl {T : Type} {step : T → Nat → T} {l : List Nat} {init F : T}
    (hF : l.foldl step init = F) (proj : T → Bool) (f : Nat → Bool)
    (hstep : ∀ acc i, proj (step acc i) = (proj acc || f i)) :
    proj F = (proj init || l.any f) := hF ▸ foldl_or step proj f hstep l init

/-- What a text allowed plain holds: no break, only printable characters, no indicator first, and
no colon followed by a blank or ending it. -/
structure PlainText (cs : List Char) : Prop where
  noBreak : ∀ c ∈ cs, isBreak c = false
  printable : ∀ c ∈ cs, isPrintable c = true
  head : ∀ c ∈ cs.head?, "#,[]\x7b\x7d&*!|>'\"%@`".toList.contains c = false
  colon : ∀ i (hi : i + 1 < cs.length), cs[i] = ':' → cs[i + 1] ≠ ' ' ∧ cs[i + 1] ≠ '\t'
  last : cs.getLast? ≠ some ':'

theorem plainText_of_analyze {s : String} (h : (analyze s).blockPlainAllowed = true) :
    PlainText s.toList := by
  unfold analyze at h
  by_cases hs : s.toList = []
  · rw [hs]
    exact ⟨by simp, by simp, by simp, by simp, by simp⟩
  simp only [List.isEmpty_iff, hs, if_false] at h
  generalize hF : List.foldl _ _ (List.range s.toList.length) = F at h
  have hind := proj_of_foldl hF (fun t : Flags => t.1) _ (fun acc i => rfl)
  have hbr := proj_of_foldl hF (fun t : Flags => t.2.1) _ (fun acc i => rfl)
  have hsp := proj_of_foldl hF (fun t : Flags => t.2.2.1) _ (fun acc i => rfl)
  simp only [Bool.not_or, Bool.and_eq_true, Bool.not_eq_true'] at h
  obtain ⟨⟨⟨⟨⟨⟨⟨⟨-, -⟩, -⟩, -⟩, -⟩, -⟩, hF3⟩, hF2⟩, hF1⟩ := h
  rw [hF1, eq_comm, Bool.or_eq_false_iff, List.any_eq_false] at hind
  rw [hF2, eq_comm, Bool.or_eq_false_iff, any_range_getD, List.any_eq_false] at hbr
  rw [hF3, eq_comm, Bool.or_eq_false_iff, any_range_getD s.toList (fun c => !isPrintable c),
    List.any_eq_false] at hsp
  clear hF
  -- the indicator test at each position of the text
  have hat := fun i (hi : i < s.toList.length) => hind.2 i (List.mem_range.mpr hi)
  refine ⟨fun c hc => by simpa using hbr.2 c hc, fun c hc => by simpa using hsp.2 c hc, ?_, ?_, ?_⟩
  · intro c hc
    have h0 := hat 0 (List.length_pos_iff.mpr hs)
    obtain ⟨d, rest, hcs⟩ := List.exists_cons_of_ne_nil hs
    simp only [hcs, List.head?_cons, Option.mem_def, Option.some.injEq] at hc
    subst hc
    simp only [hcs] at h0
    simp at h0 ⊢
    exact h0.1.1
  · intro i hi hci
    have h := hat i (by omega)
    rw [getD_toArray (by omega), List.getElem?_toArray, List.getElem?_eq_getElem hi, hci] at h
    constructor <;> intro hnext <;> simp [hnext, isBlankOrEnd] at h
  · intro hlast
    have hlen : s.toList.length - 1 < s.toList.length := by
      have := List.length_pos_iff.mpr hs
      omega
    have h := hat (s.toList.length - 1) hlen
    rw [List.getLast?_eq_some_getLast hs, Option.some.injEq] at hlast
    rw [getD_toArray hlen, List.getElem?_toArray, List.getElem?_eq_none (by omega),
      ← List.getLast_eq_getElem hs, hlast] at h
    split at h <;> simp [isBlankOrEnd] at h


/-- A text allowed in single quotes or in a literal block is printable. -/
theorem printable_of_analyze {s : String}
    (h : (analyze s).singleQuotedAllowed = true ∨ (analyze s).blockAllowed = true) :
    ∀ c ∈ s.toList, isPrintable c = true := by
  unfold analyze at h
  by_cases hs : s.toList = []
  · simp [hs]
  simp only [List.isEmpty_iff, hs, if_false] at h
  generalize hF : List.foldl _ _ (List.range s.toList.length) = F at h
  have hsp := proj_of_foldl hF (fun t : Flags => t.2.2.1) _ (fun acc i => rfl)
  have hF3 : F.2.2.1 = false := by
    rcases h with h | h <;> simp only [Bool.not_or, Bool.and_eq_true, Bool.not_eq_true'] at h
    · exact h.2
    · exact h.2
  rw [hF3, eq_comm, Bool.or_eq_false_iff, any_range_getD s.toList (fun c => !isPrintable c),
    List.any_eq_false] at hsp
  exact fun c hc => by simpa using hsp.2 c hc

section Select

variable {req : RequestedStyle} {a : Analysis} {s : String} {simpleKey : Bool}

theorem blockPlainAllowed_of_plain (h : selectStyle req a s simpleKey = .plain) :
    a.blockPlainAllowed = true ∧ ¬(s = "" ∧ simpleKey = true) := by
  unfold selectStyle at h
  cases req <;> dsimp only at h <;> repeat' split at h <;> simp_all

theorem singleQuotedAllowed_of_singleQuoted (h : selectStyle req a s simpleKey = .singleQuoted) :
    a.singleQuotedAllowed = true ∧ req ≠ .literal := by
  unfold selectStyle at h
  cases req <;> dsimp only at h <;> repeat' split at h <;> simp_all

theorem literal_of_selectStyle (h : selectStyle req a s simpleKey = .literal) :
    req = .literal ∧ a.blockAllowed = true ∧ simpleKey = false := by
  unfold selectStyle at h
  cases req <;> dsimp only at h <;> grind

end Select

theorem requestedStyle_eq_literal {s : String} :
    requestedStyle s = .literal ↔ '\n' ∈ s.toList := by
  unfold requestedStyle
  by_cases hn : '\n' ∈ s.toList
  · simp [String.contains_char_eq, hn]
  · simp only [String.contains_char_eq, hn, decide_false, Bool.false_eq_true, if_false, iff_false]
    repeat' split
    all_goals simp

/-- A text asks for no style when it holds no line feed and reads as no other kind of scalar. -/
theorem requestedStyle_eq_any {s : String} (hfeed : decide ('\n' ∈ s.toList) = false)
    (hother : (s.isEmpty || Scalar.isNull s || (Scalar.bool? s).isSome ||
      (Scalar.int? s).isSome) = false)
    (hdigits : Scalar.digitsButNotNumber s = false) (hfloat : (Scalar.float? s).isSome = false) :
    requestedStyle s = .any := by
  unfold requestedStyle
  rw [String.contains_char_eq]
  simp only [hfeed, hother, hdigits, hfloat, Bool.false_eq_true, if_false]

/-- A text of visible ASCII characters. -/
def Visible (s : String) : Prop := ∀ c ∈ s.toList, 32 ≤ c.toNat ∧ c.toNat < 127

theorem isBreak_of_visible {c : Char} (h : 32 ≤ c.toNat ∧ c.toNat < 127) : isBreak c = false := by
  have hr : c ≠ '\r' := fun hc => by subst hc; simp at h
  have hn : c ≠ '\n' := fun hc => by subst hc; simp at h
  simp [isBreak, Scan.isBreakChar, hr, hn]
  omega

theorem Visible.append {s t : String} (hs : Visible s) (ht : Visible t) : Visible (s ++ t) := by
  intro c hc
  rw [String.toList_append, List.mem_append] at hc
  exact hc.elim (hs c) (ht c)

theorem Visible.take {s : String} (hs : Visible s) (k : Nat) :
    Visible (String.ofList (s.toList.take k)) := fun c hc =>
  hs c (List.mem_of_mem_take (by simpa using hc))

theorem Visible.drop {s : String} (hs : Visible s) (k : Nat) :
    Visible (String.ofList (s.toList.drop k)) := fun c hc =>
  hs c (List.mem_of_mem_drop (by simpa using hc))

theorem visible_digits (n : Nat) : Visible (String.ofList (Nat.toDigits 10 n)) := by
  intro c hc
  rw [String.toList_ofList] at hc
  have h := Nat.isDigit_of_mem_toDigits (by decide) (by decide) hc
  unfold Char.isDigit at h
  simp only [Bool.and_eq_true, decide_eq_true_eq] at h
  have e1 : 48 ≤ c.val.toNat := UInt32.le_iff_toNat_le.mp h.1
  have e2 : c.val.toNat ≤ 57 := UInt32.le_iff_toNat_le.mp h.2
  change 32 ≤ c.val.toNat ∧ c.val.toNat < 127
  omega

theorem visible_zeros (n : Nat) : Visible (Binary64.zeros n) := by
  intro c hc
  simp only [Binary64.zeros, String.toList_ofList, List.mem_replicate] at hc
  rw [hc.2]
  decide

theorem Visible.ite {p : Prop} [Decidable p] {a b : String} (ha : Visible a) (hb : Visible b) :
    Visible (if p then a else b) := by
  split
  · exact ha
  · exact hb

theorem visible_decimal (style : Binary64.Notation) (d : Binary64.Decimal) :
    Visible (style.decimal d) := by
  have hds := visible_digits d.digits
  have hlit : ∀ t ∈ [".0", ".", "0.", "e", "-", "+", ""], Visible t := by
    simp [Visible]
  unfold Binary64.Notation.decimal
  simp only [Binary64.digitString]
  refine .ite ((hds.append (visible_zeros _)).append (hlit ".0" (by simp))) (.ite ?_ (.ite ?_ ?_))
  · exact ((hds.take _).append (hlit "." (by simp))).append (hds.drop _)
  · exact ((hlit "0." (by simp)).append (visible_zeros _)).append hds
  · refine (((Visible.ite hds ?_).append (hlit "e" (by simp))).append ?_).append
      (visible_digits _)
    · exact ((hds.take 1).append (hlit "." (by simp))).append (hds.drop 1)
    · exact .ite (hlit "-" (by simp)) (.ite (hlit "+" (by simp)) (hlit "" (by simp)))

theorem append_ne_empty_left {a b : String} (ha : a ≠ "") : a ++ b ≠ "" := by
  intro h
  exact ha (String.append_eq_empty_iff.mp h).1

theorem append_ne_empty_right {a b : String} (hb : b ≠ "") : a ++ b ≠ "" := by
  intro h
  exact hb (String.append_eq_empty_iff.mp h).2

theorem ite_ne_empty {p : Prop} [Decidable p] {a b : String} (ha : a ≠ "") (hb : b ≠ "") :
    (if p then a else b) ≠ "" := by
  split
  · exact ha
  · exact hb

theorem decimal_ne_empty (style : Binary64.Notation) (d : Binary64.Decimal) :
    style.decimal d ≠ "" := by
  unfold Binary64.Notation.decimal
  simp only [Binary64.digitString]
  refine ite_ne_empty (append_ne_empty_right (by decide))
    (ite_ne_empty (append_ne_empty_left (append_ne_empty_right (by decide)))
      (ite_ne_empty (append_ne_empty_left (append_ne_empty_left (by decide)))
        (append_ne_empty_left (append_ne_empty_left (append_ne_empty_right (by decide))))))

/-- A number is written with visible ASCII characters, and never as an empty text. -/
theorem visible_numberText (n : Number) : Visible (numberText n) ∧ numberText n ≠ "" := by
  cases n with
  | nat k =>
    rw [numberText, Nat.toString_eq_ofList_toDigits]
    exact ⟨visible_digits k, by simp [Nat.toDigits_ne_nil]⟩
  | neg k =>
    cases k with
    | ofNat m =>
      have hne : String.ofList (Nat.toDigits 10 m) ≠ "" := by simp [Nat.toDigits_ne_nil]
      exact ⟨visible_digits m, hne⟩
    | negSucc m =>
      exact ⟨(show Visible "-" by simp [Visible]).append (visible_digits (m + 1)),
        append_ne_empty_left (by decide)⟩
  | float f =>
    have hlit : ∀ t ∈ [".nan", ".inf", "-.inf", "-", "", "0.0"], Visible t := by
      simp [Visible]
    show Visible (yamlNotation.render f) ∧ yamlNotation.render f ≠ ""
    unfold Binary64.Notation.render
    cases Binary64.parts f with
    | none =>
      exact ⟨.ite (hlit ".nan" (by simp)) (.ite (hlit "-.inf" (by simp)) (hlit ".inf" (by simp))),
        ite_ne_empty (by decide) (ite_ne_empty (by decide) (by decide))⟩
    | some p =>
      have hsign : Visible (if p.neg = true then "-" else "") :=
        .ite (hlit "-" (by simp)) (hlit "" (by simp))
      exact ⟨.ite (hsign.append (hlit "0.0" (by simp))) (hsign.append (visible_decimal _ _)),
        ite_ne_empty (append_ne_empty_right (by decide))
          (append_ne_empty_right (decimal_ne_empty _ _))⟩


/-- The breaks that are printable: the line feed and the two separators. -/
theorem break_of_printable {c : Char} (hp : isPrintable c = true) (hb : isBreak c = true) :
    c = '\n' ∨ c = '\u2028' ∨ c = '\u2029' := by
  unfold isBreak Scan.isBreakChar at hb
  unfold isPrintable at hp
  simp only [Bool.or_eq_true, decide_eq_true_eq] at hb
  rcases hb with (((hr | hn) | h85) | h28) | h29
  · subst hr
    simp at hp
  · exact .inl hn
  · simp [h85] at hp
  · exact .inr (.inl (Char.toNat_inj.mp h28))
  · exact .inr (.inr (Char.toNat_inj.mp h29))

/-- A scalar's text: a string asking for its own style, or a word or number written with
visible characters that asks to be plain. -/
theorem scalarOf_cases {v : Json} {s : String} {req : RequestedStyle}
    (hv : scalarOf v = some (s, req)) :
    (v = .str s ∧ req = requestedStyle s) ∨ (req = .plain ∧ Visible s ∧ s ≠ "") := by
  cases v with
  | null =>
    simp only [scalarOf, Option.some.injEq, Prod.mk.injEq] at hv
    obtain ⟨rfl, rfl⟩ := hv
    exact .inr ⟨rfl, by simp [Visible], by decide⟩
  | bool b =>
    simp only [scalarOf, Option.some.injEq, Prod.mk.injEq] at hv
    obtain ⟨rfl, rfl⟩ := hv
    cases b
    · exact .inr ⟨rfl, by simp [Visible], by decide⟩
    · exact .inr ⟨rfl, by simp [Visible], by decide⟩
  | num n =>
    simp only [scalarOf, Option.some.injEq, Prod.mk.injEq] at hv
    obtain ⟨rfl, rfl⟩ := hv
    exact .inr ⟨rfl, visible_numberText n⟩
  | str t =>
    simp only [scalarOf, Option.some.injEq, Prod.mk.injEq] at hv
    obtain ⟨rfl, rfl⟩ := hv
    exact .inl ⟨rfl, rfl⟩
  | arr => simp [scalarOf] at hv
  | obj => simp [scalarOf] at hv

section Value

variable {v : Json} {s : String} {req : RequestedStyle}

/-- The facts about a value scalar's text that its writing depends on: a plain one is not
empty, one in single quotes holds no break, and a literal block breaks lines only at line
feeds. -/
structure WritableScalar (s : String) (req : RequestedStyle) : Prop where
  plain : valueStyle s req = .plain → s ≠ ""
  singleQuoted : valueStyle s req = .singleQuoted → ∀ c ∈ s.toList, isBreak c = false
  literal : valueStyle s req = .literal →
    (∀ c ∈ s.toList, isPrintable c = true) ∧ ∀ c ∈ s.toList, isBreak c = true → c = '\n'

theorem writableScalar (hv : scalarOf v = some (s, req))
    (hsep : '\u2028' ∉ s.toList ∧ '\u2029' ∉ s.toList) : WritableScalar s req := by
  have hcases := scalarOf_cases hv
  -- a line feed asks for a literal block
  have hfeed : '\n' ∈ s.toList → req = .literal := by
    rcases hcases with ⟨-, rfl⟩ | ⟨-, hvis, -⟩
    · exact requestedStyle_eq_literal.mpr
    · intro hn
      simpa using (hvis '\n' hn).1
  have hbreak : ∀ c ∈ s.toList, isPrintable c = true → req ≠ .literal → isBreak c = false := by
    intro c hc hp hreq
    cases hb : isBreak c
    · rfl
    · rcases break_of_printable hp hb with rfl | rfl | rfl
      · exact absurd (hfeed hc) hreq
      · exact absurd hc hsep.1
      · exact absurd hc hsep.2
  refine ⟨fun h hs => ?_, fun h => ?_, fun h => ?_⟩
  · rcases hcases with ⟨-, rfl⟩ | ⟨-, -, hne⟩
    · subst hs
      have hreq : requestedStyle "" = .singleQuoted := by simp [requestedStyle]
      cases hq : (analyze "").singleQuotedAllowed <;> simp [valueStyle, hreq, selectStyle, hq] at h
    · exact hne hs
  · obtain ⟨hq, hreq⟩ := singleQuotedAllowed_of_singleQuoted h
    exact fun c hc => hbreak c hc (printable_of_analyze (.inl hq) c hc) hreq
  · obtain ⟨-, hb, -⟩ := literal_of_selectStyle h
    have hp := printable_of_analyze (.inr hb)
    refine ⟨hp, fun c hc hcb => ?_⟩
    rcases break_of_printable (hp c hc) hcb with rfl | rfl | rfl
    · rfl
    · exact absurd hc hsep.1
    · exact absurd hc hsep.2

end Value

/-- A simple key holds no break and is never written as a literal block. -/
theorem simpleKey_facts {key : String} (h : isSimpleKey key = true) :
    (∀ c ∈ key.toList, isBreak c = false) ∧ keyStyle key ≠ .literal := by
  unfold isSimpleKey at h
  simp only [Bool.and_eq_true, Bool.not_eq_true', Bool.or_eq_false_iff] at h
  obtain ⟨⟨-, hml⟩, -⟩ := h
  rw [analyze_multiline, List.any_eq_false] at hml
  refine ⟨fun c hc => by simpa using hml c hc, fun hlit => ?_⟩
  simpa using (literal_of_selectStyle hlit).2.2

end Covenant.Yaml.Emit
