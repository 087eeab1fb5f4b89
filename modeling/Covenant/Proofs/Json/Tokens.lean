import Covenant.Proofs.Json.Utf8
import Covenant.Proofs.Json.Grammar
import Mathlib.Data.List.TakeWhile

/-!
# What the reader reads of each token

The reader reads a text as its UTF-8 bytes, `utf8 t` for the text's characters `t`. For each kind
of token this module follows the reader over those bytes and finds the token in the text: blanks
skipped over bytes are blank characters (`skipBlank_text`), a keyword's letters are the keyword's
characters (`readIdent_text`), a number runs over characters numbers are written with
(`number_token`), and a string is a list of valid pieces up to its closing quote, decoded as the
grammar decodes them (`readStringBody_text`). Each lemma gives the rest of the text as what the
cursor reads next, so the lemmas chain along a text.
-/

namespace Covenant.Json

open Grammar Utf8

theorem Cursor.rest_of_peek {c : Cursor} {b : UInt8} (h : c.peek = some b) :
    c.rest = b :: c.bump.rest := by
  cases hc : c.rest with
  | nil => simp [Cursor.peek, hc] at h
  | cons b' bs =>
    simp only [Cursor.peek, hc, List.head?_cons, Option.some.injEq] at h
    simp [Cursor.bump, hc, h]

/-! ## Blanks -/

/-- The bytes `Cursor.skipBlank` passes over. -/
def blankByte (b : UInt8) : Bool := b == 32 || b == 10 || b == 9 || b == 13

theorem blankByte_ofNat {x : Char} (hx : x.toNat < 128) :
    blankByte (UInt8.ofNat x.toNat) = blank x := by
  simp only [blankByte, blank, ofNat_beq hx, ← Char.toNat_inj]
  rw [Bool.eq_iff_iff]
  simp
  omega

theorem blankByte_high {b : UInt8} (hb : 128 ≤ b.toNat) : blankByte b = false := by
  simp only [blankByte, beq_eq_decide, ← UInt8.toNat_inj]
  simp
  omega

theorem blank_high {x : Char} (hx : 128 ≤ x.toNat) : blank x = false := by
  simp only [blank, ← Char.toNat_inj]
  simp
  omega

/-- Over a text's bytes, the blank bytes at the front are the blank characters at its front. -/
theorem takeWhile_blankByte : ∀ t : List Char,
    (utf8 t).takeWhile blankByte = utf8 (t.takeWhile blank)
  | [] => rfl
  | x :: t => by
    by_cases hx : x.toNat < 128
    · rw [utf8_cons, utf8EncodeChar_of_lt hx, List.singleton_append, List.takeWhile_cons,
        List.takeWhile_cons, blankByte_ofNat hx]
      cases blank x
      · rfl
      · rw [takeWhile_blankByte t, if_pos rfl, if_pos rfl, utf8_cons,
          utf8EncodeChar_of_lt hx, List.singleton_append]
    · obtain ⟨b0, rest, hrest⟩ := List.exists_cons_of_ne_nil (@String.utf8EncodeChar_ne_nil x)
      have hb0 := @utf8EncodeChar_high x (by omega) b0 (by simp [hrest])
      rw [utf8_cons, hrest, List.cons_append, List.takeWhile_cons, List.takeWhile_cons,
        blankByte_high hb0, blank_high (by omega)]
      rfl

/-- Skipping blanks on a text's bytes skips its blank characters. -/
theorem skipBlank_rest {c : Cursor} {t : List Char} (hc : c.rest = utf8 t) :
    c.skipBlank.rest = utf8 (t.dropWhile blank) := by
  have hsplit : utf8 t = utf8 (t.takeWhile blank) ++ utf8 (t.dropWhile blank) := by
    rw [← utf8_append, List.takeWhile_append_dropWhile]
  change (c.rest).drop ((c.rest).takeWhile blankByte).length = _
  rw [hc, takeWhile_blankByte, hsplit, List.drop_left]

/-- A text a cursor reads is blanks, then what the cursor reads after skipping them. -/
theorem skipBlank_text {c : Cursor} {t : List Char} (hc : c.rest = utf8 t) :
    ∃ bl u, (∀ x ∈ bl, blank x) ∧ t = bl ++ u ∧ c.skipBlank.rest = utf8 u :=
  ⟨t.takeWhile blank, t.dropWhile blank, fun _ hx => List.mem_takeWhile_imp hx,
    List.takeWhile_append_dropWhile.symm, skipBlank_rest hc⟩

/-! ## Keywords -/

/-- A keyword's letters the reader checks are the bytes it passes. -/
theorem readIdent_rest : ∀ (word : List UInt8) (c c' : Cursor), readIdent word c = .ok c' →
    c.rest = word ++ c'.rest
  | [], c, c', h => by
    cases h
    rfl
  | w :: ws, c, c', h => by
    unfold readIdent at h
    split at h
    · cases h
    · next b hb =>
      split at h
      · next hw =>
        obtain rfl : b = w := by simpa using hw
        rw [Cursor.rest_of_peek hb, readIdent_rest ws c.bump c' h, List.cons_append]
      · cases h

/-- The rest of a keyword the reader reads is the keyword's letters in the text. -/
theorem readIdent_text {c c' : Cursor} {t xs : List Char} {word : List UInt8}
    (hc : c.rest = utf8 t) (h : readIdent word c = .ok c') (hw : ∀ b ∈ word, b.toNat < 128)
    (hx : xs.map Char.toNat = word.map UInt8.toNat) : ∃ r, t = xs ++ r ∧ c'.rest = utf8 r := by
  obtain ⟨r, ht, hr⟩ := ascii_prefix (hc.symm.trans (readIdent_rest word c c' h)) hw hx
  exact ⟨r, ht, hr.symm⟩

/-! ## Numbers -/

/-- The bytes numbers are written with. -/
def numberByte (b : UInt8) : Bool :=
  isDigit b || b == 45 || b == 43 || b == 46 || b == 101 || b == 69

theorem numberByte_iff {b : UInt8} : numberByte b = true ↔
    (48 ≤ b.toNat ∧ b.toNat ≤ 57) ∨ b.toNat = 45 ∨ b.toNat = 43 ∨ b.toNat = 46 ∨ b.toNat = 101 ∨
      b.toNat = 69 := by
  simp only [numberByte, isDigit, Bool.or_eq_true, Bool.and_eq_true, decide_eq_true_eq,
    UInt8.le_iff_toNat_le, beq_iff_eq, ← UInt8.toNat_inj]
  simp only [UInt8.reduceToNat]
  omega

theorem numberChar_iff {x : Char} : numberChar x = true ↔
    (48 ≤ x.toNat ∧ x.toNat ≤ 57) ∨ x.toNat = 45 ∨ x.toNat = 43 ∨ x.toNat = 46 ∨ x.toNat = 101 ∨
      x.toNat = 69 := by
  simp only [numberChar, Char.isDigit, Bool.or_eq_true, Bool.and_eq_true, decide_eq_true_eq,
    UInt32.le_iff_toNat_le, ← Char.toNat_inj, Char.toNat_val]
  simp
  omega

/-- The reader went from `c` to `c'` over bytes numbers are written with. -/
def NumberRun (c c' : Cursor) : Prop := ∃ tok, c.rest = tok ++ c'.rest ∧ ∀ b ∈ tok, numberByte b

theorem NumberRun.refl (c : Cursor) : NumberRun c c := ⟨[], rfl, by simp⟩

theorem NumberRun.trans {c₁ c₂ c₃ : Cursor} (h₁ : NumberRun c₁ c₂) (h₂ : NumberRun c₂ c₃) :
    NumberRun c₁ c₃ := by
  obtain ⟨tok₁, e₁, b₁⟩ := h₁
  obtain ⟨tok₂, e₂, b₂⟩ := h₂
  exact ⟨tok₁ ++ tok₂, by rw [e₁, e₂, List.append_assoc], by simp_all [or_imp]⟩

theorem NumberRun.bump {c : Cursor} {b : UInt8} (hp : c.peek = some b) (hb : numberByte b) :
    NumberRun c c.bump :=
  ⟨[b], by rw [Cursor.rest_of_peek hp, List.singleton_append], by simpa using hb⟩

theorem takeWhile_append_drop {α : Type} (p : α → Bool) :
    ∀ l : List α, l.takeWhile p ++ l.drop (l.takeWhile p).length = l
  | [] => rfl
  | a :: l => by
    by_cases h : p a <;> simp [h, takeWhile_append_drop p l]

theorem NumberRun.digits (c : Cursor) (i : Nat) :
    NumberRun c ⟨c.rest.drop (c.rest.takeWhile isDigit).length, i⟩ := by
  refine ⟨c.rest.takeWhile isDigit, (takeWhile_append_drop _ _).symm, fun b hb => ?_⟩
  simp [numberByte, List.all_eq_true.mp List.all_takeWhile b hb]

theorem finishFloat_cursor {positive : Bool} {significand : Nat} {exponent : Int} {c c' : Cursor}
    {n : Number} (h : finishFloat positive significand exponent c = .ok (n, c')) : c' = c := by
  unfold finishFloat at h
  split at h <;> simp_all

theorem readExponent_run {positive : Bool} {significand : Nat} {start : Int} {c c' : Cursor}
    {n : Number} {e : UInt8} (he : c.peek = some e) (hnum : numberByte e)
    (h : readExponent positive significand start c = .ok (n, c')) : NumberRun c c' := by
  unfold readExponent at h
  dsimp only at h
  split at h
  · cases h
  · next d hd =>
    split at h
    · cases h
    · next hdig =>
      -- whether the exponent fits or not, the reader stops right after its digits
      generalize foldExponent _ 0 _ = fe at h
      obtain rfl : c' = _ := by
        cases fe with
        | error k =>
          rcases ite_eq_iff.mp h with ⟨-, h⟩ | ⟨-, h⟩
          · cases h
          · cases h
            rfl
        | ok exp => exact finishFloat_cursor h
      clear h
      refine NumberRun.trans ?_ ((NumberRun.bump hd (by simp_all [numberByte])).trans
        (NumberRun.digits _ _))
      -- the digits begin after the sign, if one is written
      refine (NumberRun.bump he hnum).trans ?_
      split
      · next hq => exact NumberRun.bump hq (by decide)
      · next hq => exact NumberRun.bump hq (by decide)
      · exact NumberRun.refl _

theorem numberByte_of_exponent {b : UInt8} (h : (b == 101 || b == 69) = true) :
    numberByte b = true := by
  simp only [Bool.or_eq_true, beq_iff_eq] at h
  rcases h with rfl | rfl <;> decide

theorem readFraction_go_run {positive : Bool} {before : Int} {n : Number} :
    ∀ (fuel significand : Nat) (after : Int) (c c' : Cursor),
      readFraction.go positive before fuel significand after c = .ok (n, c') → NumberRun c c'
  | 0, _, _, _, _, h => by cases h
  | fuel + 1, significand, after, c, c', h => by
    unfold readFraction.go at h
    dsimp only at h
    split at h
    · next d hd =>
      split at h
      · next hdig =>
        split at h
        · -- past 2^64 the remaining digits are skipped
          have hskip := NumberRun.digits c (c.index + (List.takeWhile isDigit c.rest).length)
          split at h
          · next hq => exact hskip.trans (readExponent_run hq (by decide) h)
          · next hq => exact hskip.trans (readExponent_run hq (by decide) h)
          · rw [finishFloat_cursor h]
            exact hskip
        · exact (NumberRun.bump hd (by simp [numberByte, hdig])).trans
            (readFraction_go_run fuel _ _ _ _ h)
      · split at h
        · cases h
        · split at h
          · next hexp => exact readExponent_run hd (numberByte_of_exponent hexp) h
          · rw [finishFloat_cursor h]
            exact NumberRun.refl c
    · split at h
      · cases h
      · rw [finishFloat_cursor h]
        exact NumberRun.refl c

theorem readFraction_run {positive : Bool} {significand : Nat} {before : Int} {c c' : Cursor}
    {n : Number} (hp : c.peek = some 46)
    (h : readFraction positive significand before c = .ok (n, c')) : NumberRun c c' :=
  (NumberRun.bump hp (by decide)).trans (readFraction_go_run _ _ _ _ _ h)

theorem readAfterInteger_run {positive : Bool} {significand : Nat} {c c' : Cursor} {n : Number}
    (h : readAfterInteger positive significand c = .ok (n, c')) : NumberRun c c' := by
  unfold readAfterInteger at h
  split at h
  · next hp => exact readFraction_run hp h
  · next hp => exact readExponent_run hp (by decide) h
  · next hp => exact readExponent_run hp (by decide) h
  · -- the integer ends here
    obtain rfl : c' = c := by
      split at h
      · cases h; rfl
      · split at h
        · cases h; rfl
        · split at h <;> cases h <;> rfl
    exact NumberRun.refl _

theorem readLongInteger_run {positive : Bool} {significand : Nat} {c c' : Cursor} {n : Number}
    (h : readLongInteger positive significand c = .ok (n, c')) : NumberRun c c' := by
  unfold readLongInteger at h
  dsimp only at h
  have hskip := NumberRun.digits c (c.index + (List.takeWhile isDigit c.rest).length)
  split at h
  · next hp => exact hskip.trans (readFraction_run hp h)
  · next hp => exact hskip.trans (readExponent_run hp (by decide) h)
  · next hp => exact hskip.trans (readExponent_run hp (by decide) h)
  · rw [finishFloat_cursor h]
    exact hskip

theorem readNumber_go_run {positive : Bool} {n : Number} :
    ∀ (fuel significand : Nat) (c c' : Cursor),
      readNumber.go positive fuel significand c = .ok (n, c') → NumberRun c c'
  | 0, _, _, _, h => readAfterInteger_run h
  | fuel + 1, significand, c, c', h => by
    unfold readNumber.go at h
    dsimp only at h
    split at h
    · next d hd =>
      split at h
      · next hdig =>
        split at h
        · exact readLongInteger_run h
        · exact (NumberRun.bump hd (by simp [numberByte, hdig])).trans
            (readNumber_go_run fuel _ _ _ h)
      · exact readAfterInteger_run h
    · exact readAfterInteger_run h

/-- A number the reader reads begins with a digit, and runs on over bytes numbers are written
with. -/
theorem readNumber_run {positive : Bool} {c c' : Cursor} {n : Number}
    (h : readNumber positive c = .ok (n, c')) :
    ∃ d, c.peek = some d ∧ isDigit d = true ∧ NumberRun c.bump c' := by
  unfold readNumber at h
  split at h
  · cases h
  · next d hd =>
    dsimp only at h
    split at h
    · next h0 =>
      refine ⟨d, hd, by simp_all [isDigit], ?_⟩
      split at h
      · split at h
        · cases h
        · exact readAfterInteger_run h
      · exact readAfterInteger_run h
    · split at h
      · next hdig => exact ⟨d, hd, hdig, readNumber_go_run _ _ _ _ h⟩
      · cases h

/-- Bytes numbers are written with, read from a text's bytes, are characters numbers are
written with. -/
theorem NumberRun.text {c c' : Cursor} {t : List Char} (hc : c.rest = utf8 t)
    (h : NumberRun c c') : ∃ tok r, t = tok ++ r ∧ (∀ x ∈ tok, numberChar x) ∧ c'.rest = utf8 r := by
  obtain ⟨bs, hbs, hnum⟩ := h
  have hlow : ∀ b ∈ bs, b.toNat < 128 := fun b hb => by
    have := numberByte_iff.mp (hnum b hb)
    omega
  obtain ⟨tok, r, rfl, hr, hmap⟩ := utf8_eq_append_of_lt (hc.symm.trans hbs) hlow
  refine ⟨tok, r, rfl, fun x hx => ?_, hr.symm⟩
  obtain ⟨b, hb, hbx⟩ : ∃ b ∈ bs, b.toNat = x.toNat := by
    have : x.toNat ∈ bs.map UInt8.toNat := hmap ▸ List.mem_map_of_mem hx
    simpa using this
  rw [numberChar_iff, ← hbx]
  exact numberByte_iff.mp (hnum b hb)

/-- A number token: its first byte, then bytes numbers are written with. -/
theorem number_token {c c' : Cursor} {u : List Char} {b : UInt8} (hc : c.rest = utf8 u)
    (hp : c.peek = some b) (hb : numberByte b) (hrun : NumberRun c.bump c') :
    ∃ tok r, tok ≠ [] ∧ u = tok ++ r ∧ (∀ x ∈ tok, numberChar x) ∧ c'.rest = utf8 r := by
  have hlow : b.toNat < 128 := by
    have := numberByte_iff.mp hb
    omega
  obtain ⟨x, u1, rfl, hx, hu1⟩ := utf8_eq_cons_of_lt ((hc.symm.trans (Cursor.rest_of_peek hp))) hlow
  obtain ⟨tok, r, rfl, htok, hr⟩ := NumberRun.text hu1 hrun
  refine ⟨x :: tok, r, List.cons_ne_nil _ _, rfl, ?_, hr⟩
  refine List.forall_mem_cons.mpr ⟨?_, htok⟩
  rw [numberChar_iff, hx]
  exact numberByte_iff.mp hb

/-! ## Strings -/

theorem toNat_sub_lit {b k : UInt8} (h : k.toNat ≤ b.toNat) : (b - k).toNat = b.toNat - k.toNat :=
  UInt8.toNat_sub_of_le b k (UInt8.le_iff_toNat_le.mpr h)

/-- A hex digit byte is a character below 128, with the same value as a hex digit. -/
theorem hexValue_spec {b : UInt8} {v : Nat} (h : hexValue b = some v) :
    b.toNat < 128 ∧ ∀ x : Char, x.toNat = b.toNat → Grammar.hexDigit x = some v := by
  unfold hexValue at h
  simp only [Bool.and_eq_true, decide_eq_true_eq, UInt8.le_iff_toNat_le] at h
  simp only [UInt8.reduceToNat] at h
  unfold Grammar.hexDigit
  simp only [Char.isDigit, Char.le_def, UInt32.le_iff_toNat_le, Bool.and_eq_true,
    decide_eq_true_eq, Char.toNat_val]
  simp
  split at h
  · next hd =>
    rw [Option.some.injEq, toNat_sub_lit (by simpa using hd.1)] at h
    simp only [UInt8.reduceToNat] at h
    refine ⟨by omega, fun x hx => ?_⟩
    rw [if_pos (by omega)]
    simp
    omega
  · split at h
    · next hd' hd =>
      rw [Option.some.injEq, toNat_sub_lit (by simp; omega)] at h
      simp only [UInt8.reduceToNat] at h
      refine ⟨by omega, fun x hx => ?_⟩
      rw [if_neg (by omega), if_pos (by omega)]
      simp
      omega
    · split at h
      · next hd'' hd' hd =>
        rw [Option.some.injEq, toNat_sub_lit (by simp; omega)] at h
        simp only [UInt8.reduceToNat] at h
        refine ⟨by omega, fun x hx => ?_⟩
        rw [if_neg (by omega), if_neg (by omega), if_pos (by omega)]
        simp
        omega
      · cases h

/-- Four hex digits the reader reads are four characters of the text writing the same number. -/
theorem readHex4_text {c c' : Cursor} {t : List Char} {n : Nat} (hc : c.rest = utf8 t)
    (h : readHex4 c = .ok (n, c')) : ∃ ds r, hex4 ds = some n ∧ t = ds ++ r ∧ c'.rest = utf8 r := by
  unfold readHex4 at h
  split at h
  · next a b d e rest hrest =>
    dsimp only at h
    split at h
    · next va vb vd ve ha hb hd he =>
      cases h
      obtain ⟨la, fa⟩ := hexValue_spec ha
      obtain ⟨lb, fb⟩ := hexValue_spec hb
      obtain ⟨ld, fd⟩ := hexValue_spec hd
      obtain ⟨le, fe⟩ := hexValue_spec he
      have hbytes : utf8 t = [a, b, d, e] ++ rest := hc.symm.trans hrest
      obtain ⟨tc, r, rfl, hr, hmap⟩ := utf8_eq_append_of_lt hbytes (by simp [*])
      rcases tc with _ | ⟨xa, _ | ⟨xb, _ | ⟨xd, _ | ⟨xe, _ | ⟨_, _⟩⟩⟩⟩⟩ <;> simp at hmap
      obtain ⟨ea, eb, ed, ee⟩ := hmap
      exact ⟨[xa, xb, xd, xe], r, by simp [hex4, fa xa ea, fb xb eb, fd xd ed, fe xe ee], rfl, hr.symm⟩
    · cases h
  · cases h

/-- A two-character escape: a letter standing for the character `escaped` gives it. -/
theorem escape_letter {c : Cursor} {t : List Char} {ch : UInt8} {bytes : List UInt8} (e : Char)
    (hc : c.rest = utf8 t) (hp : c.peek = some ch) (hch : ch.toNat < 128)
    (he : e.toNat = ch.toNat) (hesc : (escaped e).isSome)
    (hbytes : bytes = utf8 [(escaped e).getD e]) :
    ∃ (p : Piece) (r : List Char), p.Valid ∧ '\\' :: t = p.text ++ r ∧ bytes = utf8 [p.char] ∧ c.bump.rest = utf8 r := by
  obtain ⟨r, rfl, hr⟩ := peek_eq_char hc hp he hch
  exact ⟨.escape e, r, hesc, rfl, hbytes, hr⟩

/-- The code point of a surrogate pair, as the reader assembles it. -/
theorem surrogate_code {hi lo : Nat} (hlo : lo < 0xDC00 + 0x400) :
    ((hi - 0xD800) <<< 10 ||| (lo - 0xDC00)) + 0x10000 = 0x10000 + (hi - 0xD800) * 0x400 + (lo - 0xDC00) := by
  rw [← Nat.shiftLeft_add_eq_or_of_lt (by omega), Nat.shiftLeft_eq]
  omega

/-- An escape the reader reads after a backslash is one piece of the text, and the reader keeps
the bytes of the character it stands for. -/
theorem readEscape_text {c c' : Cursor} {t : List Char} {bytes : List UInt8}
    (hc : c.rest = utf8 t) (h : readEscape c = .ok (bytes, c')) :
    ∃ (p : Piece) (r : List Char), p.Valid ∧ '\\' :: t = p.text ++ r ∧ bytes = utf8 [p.char] ∧ c'.rest = utf8 r := by
  unfold readEscape at h
  split at h
  · cases h
  · next ch hp =>
    dsimp only at h
    by_cases hk : (ch == 34) = true
    · rw [if_pos hk] at h
      obtain rfl : ch = 34 := by simpa using hk
      cases h
      exact escape_letter '"' hc hp (by decide) (by decide) (by decide) (by decide)
    rw [if_neg hk] at h
    by_cases hk : (ch == 92) = true
    · rw [if_pos hk] at h
      obtain rfl : ch = 92 := by simpa using hk
      cases h
      exact escape_letter '\\' hc hp (by decide) (by decide) (by decide) (by decide)
    rw [if_neg hk] at h
    by_cases hk : (ch == 47) = true
    · rw [if_pos hk] at h
      obtain rfl : ch = 47 := by simpa using hk
      cases h
      exact escape_letter '/' hc hp (by decide) (by decide) (by decide) (by decide)
    rw [if_neg hk] at h
    by_cases hk : (ch == 98) = true
    · rw [if_pos hk] at h
      obtain rfl : ch = 98 := by simpa using hk
      cases h
      exact escape_letter 'b' hc hp (by decide) (by decide) (by decide) (by decide)
    rw [if_neg hk] at h
    by_cases hk : (ch == 102) = true
    · rw [if_pos hk] at h
      obtain rfl : ch = 102 := by simpa using hk
      cases h
      exact escape_letter 'f' hc hp (by decide) (by decide) (by decide) (by decide)
    rw [if_neg hk] at h
    by_cases hk : (ch == 110) = true
    · rw [if_pos hk] at h
      obtain rfl : ch = 110 := by simpa using hk
      cases h
      exact escape_letter 'n' hc hp (by decide) (by decide) (by decide) (by decide)
    rw [if_neg hk] at h
    by_cases hk : (ch == 114) = true
    · rw [if_pos hk] at h
      obtain rfl : ch = 114 := by simpa using hk
      cases h
      exact escape_letter 'r' hc hp (by decide) (by decide) (by decide) (by decide)
    rw [if_neg hk] at h
    by_cases hk : (ch == 116) = true
    · rw [if_pos hk] at h
      obtain rfl : ch = 116 := by simpa using hk
      cases h
      exact escape_letter 't' hc hp (by decide) (by decide) (by decide) (by decide)
    rw [if_neg hk] at h
    by_cases hk : (ch == 117) = true
    · rw [if_pos hk] at h
      obtain rfl : ch = 117 := by simpa using hk
      obtain ⟨t1, rfl, h1⟩ := peek_eq_char hc hp (show 'u'.toNat = UInt8.toNat 117 by decide)
        (by decide)
      split at h
      · cases h
      · next n c2 hhex =>
        obtain ⟨ds, t2, hds, rfl, h2⟩ := readHex4_text h1 hhex
        by_cases htrail : 56320 ≤ n ∧ n ≤ 57343
        · rw [if_pos htrail] at h
          cases h
        rw [if_neg htrail] at h
        by_cases hout : n < 55296 ∨ n > 56319
        · rw [if_pos hout] at h
          cases h
          exact ⟨.unicode ds n, t2, ⟨hds, by omega⟩, rfl, utf8Bytes_eq n, h2⟩
        rw [if_neg hout] at h
        -- a leading surrogate: the trailing one follows as another `\u` escape
        split at h
        · cases h
        · next b1 hb1 =>
          by_cases h92 : (b1 != 92) = true
          · rw [if_pos h92] at h
            cases h
          rw [if_neg h92] at h
          obtain rfl : b1 = 92 := by simpa using h92
          obtain ⟨t3, rfl, h3⟩ := peek_eq_char h2 hb1
            (show '\\'.toNat = UInt8.toNat 92 by decide) (by decide)
          split at h
          · cases h
          · next b2 hb2 =>
            by_cases h117 : (b2 != 117) = true
            · rw [if_pos h117] at h
              cases h
            rw [if_neg h117] at h
            obtain rfl : b2 = 117 := by simpa using h117
            obtain ⟨t4, rfl, h4⟩ := peek_eq_char h3 hb2
              (show 'u'.toNat = UInt8.toNat 117 by decide) (by decide)
            split at h
            · cases h
            · next n2 c4 hhex2 =>
              obtain ⟨ds2, r, hds2, rfl, hr⟩ := readHex4_text h4 hhex2
              by_cases hlone : n2 < 56320 ∨ n2 > 57343
              · rw [if_pos hlone] at h
                cases h
              rw [if_neg hlone] at h
              cases h
              refine ⟨.pair ds ds2 n n2, r, ⟨hds, hds2, by omega, by omega, by omega, by omega⟩,
                by simp [Piece.text], ?_, hr⟩
              rw [utf8Bytes_eq, surrogate_code (by omega)]
              rfl
    rw [if_neg hk] at h
    cases h

/-- The string reader passes the bytes of a character from 128 on into its buffer unchanged. -/
theorem readStringBody_go_high {rest : List UInt8} {res : String × Cursor} :
    ∀ (bs : List UInt8) (fuel : Nat) (c : Cursor) (acc : List UInt8) (marks : List Nat),
      c.rest = bs ++ rest → (∀ b ∈ bs, 128 ≤ b.toNat) →
      readStringBody.go fuel c acc marks = .ok res →
      ∃ fuel' i marks', readStringBody.go fuel' ⟨rest, i⟩ (bs.reverse ++ acc) marks' = .ok res
  | [], fuel, ⟨r0, i0⟩, acc, marks, hc, _, h => by
    obtain rfl : r0 = rest := hc
    exact ⟨fuel, i0, marks, h⟩
  | b :: bs, 0, c, acc, marks, _, _, h => by cases h
  | b :: bs, fuel + 1, c, acc, marks, hc, hhigh, h => by
    have hb : 128 ≤ b.toNat := hhigh b List.mem_cons_self
    have h34 := high_beq hb (show UInt8.toNat 34 < 128 by decide)
    have h92 := high_beq hb (show UInt8.toNat 92 < 128 by decide)
    have hlow : ¬b < 32 := by
      rw [UInt8.lt_iff_toNat_lt]
      simp
      omega
    unfold readStringBody.go at h
    simp only [Cursor.peek, hc, List.cons_append, List.head?_cons, h34, h92, hlow,
      Bool.false_eq_true, if_false] at h
    obtain ⟨fuel', i, marks', h'⟩ := readStringBody_go_high bs fuel c.bump (b :: acc)
      (c.index :: marks) (show c.bump.rest = bs ++ rest by simp [Cursor.bump, hc]) (fun b' hb' => hhigh b' (List.mem_cons_of_mem b hb')) h
    exact ⟨fuel', i, marks', by simpa using h'⟩

/-- The string reader reads pieces up to the closing quote. Its buffer holds the bytes of the
characters `done` read so far, so at the quote it decodes them with the rest of the string. -/
theorem readStringBody_go_text {s : String} {c' : Cursor} (t : List Char) (fuel : Nat)
    (c : Cursor) (acc : List UInt8) (marks : List Nat) (done : List Char)
    (hc : c.rest = utf8 t) (hacc : acc.reverse = utf8 done)
    (h : readStringBody.go fuel c acc marks = .ok (s, c')) :
    ∃ (ps : List Piece) (r : List Char), (∀ p ∈ ps, p.Valid) ∧ t = texts ps ++ '"' :: r ∧
      s = String.ofList (done ++ ps.map Piece.char) ∧ c'.rest = utf8 r := by
  cases fuel with
  | zero => cases h
  | succ fuel =>
  cases t with
  | nil =>
    unfold readStringBody.go at h
    simp only [Cursor.peek, hc, utf8_nil, List.head?_nil] at h
    cases h
  | cons x t =>
  by_cases hx : x.toNat < 128
  · -- a character below 128 is one byte, tested against the quote, the backslash and the
    -- control characters
    have hbyte := utf8_ascii_cons hx t
    unfold readStringBody.go at h
    simp only [Cursor.peek, hc, hbyte, List.head?_cons] at h
    by_cases hq : x = '"'
    · rw [if_pos ((ofNat_beq_iff hx (by decide)).mpr hq)] at h
      rw [hacc, fromUTF8?_utf8] at h
      cases h
      refine ⟨[], t, by simp, by simp [hq], by simp, ?_⟩
      simp [Cursor.bump, hc, hbyte]
    rw [if_neg (mt (ofNat_beq_iff hx (by decide)).mp hq)] at h
    by_cases hb : x = '\\'
    · rw [if_pos ((ofNat_beq_iff hx (by decide)).mpr hb)] at h
      split at h
      · cases h
      · next bytes c2 hesc =>
        have hbump : c.bump.rest = utf8 t := by simp [Cursor.bump, hc, hbyte]
        obtain ⟨p, r1, hp, ht, hbytes, h2⟩ := readEscape_text hbump hesc
        have hlen : r1.length < (x :: t).length := by
          have := congrArg List.length ht
          cases p <;> simp [Piece.text] at this ⊢ <;> omega
        obtain ⟨ps, r, hps, rfl, hs, hr⟩ := readStringBody_go_text r1 fuel c2 _ _ (done ++ [p.char])
          h2 (by simp [hacc, hbytes]) h
        refine ⟨p :: ps, r, ?_, ?_, by simp [hs], hr⟩
        · simpa [hp] using hps
        · rw [hb, ht]
          simp
    rw [if_neg (mt (ofNat_beq_iff hx (by decide)).mp hb)] at h
    by_cases hctl : x.toNat < 32
    · rw [if_pos ((ofNat_lt_iff hx 32).mpr hctl)] at h
      cases h
    rw [if_neg (mt (ofNat_lt_iff hx 32).mp hctl)] at h
    obtain ⟨ps, r, hps, rfl, hs, hr⟩ := readStringBody_go_text t fuel c.bump _ _ (done ++ [x])
      (by simp [Cursor.bump, hc, hbyte]) (by simp [hacc, utf8_ascii_cons hx]) h
    exact ⟨.raw x :: ps, r, List.forall_mem_cons.mpr ⟨⟨hq, hb, by omega⟩, hps⟩,
      by simp [Piece.text], by simp [hs, Piece.char], hr⟩
  · -- every byte of a character from 128 on goes to the buffer as it is
    have hhigh := @utf8EncodeChar_high x (by omega)
    obtain ⟨fuel', i, marks', h'⟩ := readStringBody_go_high (String.utf8EncodeChar x) (fuel + 1) c
      acc marks (by rw [hc, utf8_cons]) hhigh h
    obtain ⟨ps, r, hps, rfl, hs, hr⟩ := readStringBody_go_text t fuel' ⟨utf8 t, i⟩ _ _
      (done ++ [x]) rfl (by simp [hacc, utf8_cons]) h'
    have hne : x ≠ '"' ∧ x ≠ '\\' := by
      constructor <;> (rintro rfl; simp at hx)
    exact ⟨.raw x :: ps, r, List.forall_mem_cons.mpr ⟨⟨hne.1, hne.2, by omega⟩, hps⟩,
      by simp [Piece.text], by simp [hs, Piece.char], hr⟩
termination_by t.length
decreasing_by
  -- each call reads on from the text after the piece just read
  all_goals subst_vars
  · exact hlen
  all_goals exact Nat.lt_succ_self _

/-- A string the reader reads is a list of valid pieces up to the closing quote, decoded. -/
theorem readStringBody_text {c c' : Cursor} {t : List Char} {s : String} (hc : c.rest = utf8 t)
    (h : readStringBody c = .ok (s, c')) :
    ∃ (ps : List Piece) (r : List Char), (∀ p ∈ ps, p.Valid) ∧ t = texts ps ++ '"' :: r ∧
      s = decode ps ∧ c'.rest = utf8 r := by
  obtain ⟨ps, r, hps, ht, hs, hr⟩ := readStringBody_go_text t _ c [] [] [] hc rfl h
  exact ⟨ps, r, hps, ht, by simpa [decode] using hs, hr⟩

end Covenant.Json
