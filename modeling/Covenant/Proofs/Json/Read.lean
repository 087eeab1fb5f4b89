import Covenant.Proofs.Json.Tokens
import Covenant.Proofs.Json.Keys

/-!
# What the reader reads is JSON text

Each of the reader's three functions reads a stretch of the grammar of JSON text: `readValue`
a value after blanks, `readItems` the rest of a list from its next item up to the closing
bracket, and `readMembers` the rest of an object up to the closing brace (`read_grammar`). The
step lemmas `readValue_step`, `readItems_step` and `readMembers_step` say what a successful step
did, and one induction on the fuel carries the three statements together. So a text the reader accepts is, between blanks, the text
of the value read (`value_of_read`), with the marks of every member and item it holds.
-/

namespace Covenant.Json

open Grammar Utf8

/-! ## Lists and objects in the grammar, as the reader meets them -/

/-- What follows an opening bracket (`first`) or an item: blanks and the closing bracket, or the
items from the `i`-th on, after a comma unless `first`. -/
def ItemsFrom (first : Bool) (path : List String) (i : Nat) (t : List Char) (vs : List Json)
    (marks : List Mark) (r : List Char) : Prop :=
  (∃ bl, (∀ x ∈ bl, blank x) ∧ t = bl ++ ']' :: r ∧ vs = [] ∧ marks = []) ∨
    if first then Items path i t vs marks r
    else ∃ bl t', (∀ x ∈ bl, blank x) ∧ t = bl ++ ',' :: t' ∧ Items path i t' vs marks r

/-- What follows an opening brace (`first`) or a member: blanks and the closing brace, or the
members, after a comma unless `first`. -/
def MembersFrom (first : Bool) (path : List String) (t : List Char) (members : List (String × Json))
    (marks : List Mark) (r : List Char) : Prop :=
  (∃ bl, (∀ x ∈ bl, blank x) ∧ t = bl ++ '}' :: r ∧ members = [] ∧ marks = []) ∨
    if first then Members path t members marks r
    else ∃ bl t', (∀ x ∈ bl, blank x) ∧ t = bl ++ ',' :: t' ∧ Members path t' members marks r

theorem items_of_value {path : List String} {i : Nat} {bl t r₁ r : List Char} {v : Json}
    {m ms : List Mark} {vs : List Json} (hbl : ∀ x ∈ bl, blank x)
    (hv : Value (path ++ [toString i]) t v m r₁) (hrest : ItemsFrom false path (i + 1) r₁ vs ms r) :
    ∃ marks, Items path i (bl ++ t) (v :: vs) marks r := by
  cases hv with
  | @blanks _ bl₀ u _ _ _ hbl₀ htok =>
    have hpre : ∀ x ∈ bl ++ bl₀, blank x := by simpa [or_imp, forall_and] using ⟨hbl, hbl₀⟩
    rw [← List.append_assoc]
    rcases hrest with ⟨bl', hbl', rfl, rfl, rfl⟩ | ⟨bl', t', hbl', rfl, hitems⟩
    · exact ⟨_, .last hpre htok hbl'⟩
    · exact ⟨_, .cons hpre htok hbl' hitems⟩

theorem members_of_value {path : List String} {bl bl' t r₁ r : List Char} {ps : List Piece}
    {v : Json} {m ms : List Mark} {members : List (String × Json)} (hbl : ∀ x ∈ bl, blank x)
    (hps : ∀ p ∈ ps, p.Valid) (hbl' : ∀ x ∈ bl', blank x)
    (hv : Value (path ++ [decode ps]) t v m r₁) (hrest : MembersFrom false path r₁ members ms r) :
    ∃ marks, Members path (bl ++ '"' :: texts ps ++ '"' :: bl' ++ ':' :: t)
      ((decode ps, v) :: members) marks r := by
  rcases hrest with ⟨bl'', hbl'', rfl, rfl, rfl⟩ | ⟨bl'', t', hbl'', rfl, hmembers⟩
  · exact ⟨_, .last hbl hps hbl' hv hbl''⟩
  · exact ⟨_, .cons hbl hps hbl' hv hbl'' hmembers⟩

/-! ## The reader's cursor over the text -/

theorem keyword_text {c c' : Cursor} {u xs : List Char} {b : UInt8} {x : Char} {word : List UInt8}
    (hc : c.rest = utf8 u) (hp : c.peek = some b) (hx : x.toNat = b.toNat) (hb : b.toNat < 128)
    (h : readIdent word c.bump = .ok c') (hw : ∀ b ∈ word, b.toNat < 128)
    (hxs : xs.map Char.toNat = word.map UInt8.toNat) : ∃ r, u = x :: xs ++ r ∧ c'.rest = utf8 r := by
  obtain ⟨u₁, rfl, hu₁⟩ := peek_eq_char hc hp hx hb
  obtain ⟨r, rfl, hr⟩ := readIdent_text hu₁ h hw hxs
  exact ⟨r, rfl, hr⟩

theorem skipBlank_bump_of_close {c : Cursor} {x : Char} {r : List Char}
    (hc : c.rest = utf8 (x :: r)) (hx : x.toNat < 128) (hbl : blank x = false) :
    c.skipBlank.bump.rest = utf8 r := by
  have hs := skipBlank_rest hc
  rw [List.dropWhile_cons_of_neg (by simp [hbl]), utf8_ascii_cons hx] at hs
  simp [Cursor.bump, hs]

theorem nextItem_text {first : Bool} {c cn : Cursor} {t : List Char} {b : UInt8}
    (hc : c.rest = utf8 t) (hp : c.skipBlank.peek = some b)
    (hnext : nextItem first b c.skipBlank cn) :
    ∃ pre bl w, cn.rest = utf8 w ∧ (∀ x ∈ bl, blank x) ∧ t = pre ++ bl ++ w ∧
      if first then pre = [] else ∃ bl', (∀ x ∈ bl', blank x) ∧ pre = bl' ++ [','] := by
  obtain ⟨bl, u, hbl, rfl, hu⟩ := skipBlank_text hc
  cases first with
  | true =>
    obtain rfl : cn = c.skipBlank := hnext
    exact ⟨[], bl, u, hu, hbl, rfl, rfl⟩
  | false =>
    obtain ⟨rfl, rfl⟩ := hnext
    obtain ⟨u₁, rfl, hu₁⟩ := peek_eq_char (x := ',') hu hp rfl (by decide)
    obtain ⟨bl₂, w, hbl₂, rfl, hw⟩ := skipBlank_text hu₁
    exact ⟨bl ++ [','], bl₂, w, hw, hbl₂, by simp, bl, hbl, rfl⟩

theorem itemsFrom_of_next {first : Bool} {path : List String} {i : Nat} {pre w r : List Char}
    {vs : List Json} {marks : List Mark}
    (hpre : if first then pre = [] else ∃ bl', (∀ x ∈ bl', blank x) ∧ pre = bl' ++ [','])
    (h : Items path i w vs marks r) : ItemsFrom first path i (pre ++ w) vs marks r := by
  cases first with
  | true =>
    obtain rfl : pre = [] := hpre
    exact .inr h
  | false =>
    obtain ⟨bl', hbl', rfl⟩ := hpre
    exact .inr ⟨bl', w, hbl', by simp, h⟩

theorem membersFrom_of_next {first : Bool} {path : List String} {pre w r : List Char}
    {members : List (String × Json)} {marks : List Mark}
    (hpre : if first then pre = [] else ∃ bl', (∀ x ∈ bl', blank x) ∧ pre = bl' ++ [','])
    (h : Members path w members marks r) : MembersFrom first path (pre ++ w) members marks r := by
  cases first with
  | true =>
    obtain rfl : pre = [] := hpre
    exact .inr h
  | false =>
    obtain ⟨bl', hbl', rfl⟩ := hpre
    exact .inr ⟨bl', w, hbl', by simp, h⟩

/-! ## What the reader reads is JSON text -/

/-- What each of the reader's three functions has read, as text of the grammar: a value, the
rest of a list from its next item, the rest of an object from its next member. The cursor ends
after the value, and at the closing bracket or brace of a list or object. -/
theorem read_grammar (fuel : Nat) :
    (∀ path depth c t v c', c.rest = utf8 t → readValue fuel depth c = .ok (v, c') →
      ∃ marks r, Value path t v marks r ∧ c'.rest = utf8 r) ∧
    (∀ path depth first c t acc items c', c.rest = utf8 t →
      readItems fuel depth first c acc = .ok (items, c') →
      ∃ vs marks r, ItemsFrom first path acc.length t vs marks r ∧ items = acc.reverse ++ vs ∧
        c'.rest = utf8 (']' :: r)) ∧
    (∀ path depth first c t acc fields c', c.rest = utf8 t →
      readMembers fuel depth first c acc = .ok (fields, c') →
      ∃ members marks r, MembersFrom first path t members marks r ∧
        fields = members.foldl (fun a m => setField a m.1 m.2) acc ∧
        c'.rest = utf8 ('}' :: r)) := by
  induction fuel with
  | zero =>
    refine ⟨?_, ?_, ?_⟩ <;> intros <;> simp_all [readValue, readItems, readMembers]
  | succ fuel ih =>
    obtain ⟨ihValue, ihItems, ihMembers⟩ := ih
    refine ⟨?_, ?_, ?_⟩
    · intro path depth c t v c' hc h
      obtain ⟨b, hp, hcases⟩ := readValue_step h
      obtain ⟨bl, u, hbl, rfl, hu⟩ := skipBlank_text hc
      rcases hcases with ⟨rfl, rfl, hident⟩ | ⟨rfl, rfl, hident⟩ | ⟨rfl, rfl, hident⟩ |
        ⟨n, rfl, ⟨rfl, hn⟩ | ⟨hdigit, hn⟩⟩ | ⟨s, rfl, rfl, hs⟩ |
        ⟨items, c₂, rfl, rfl, hitems, rfl⟩ | ⟨fields, c₂, rfl, rfl, hfields, rfl⟩
      · obtain ⟨r, rfl, hr⟩ : ∃ r, u = 'n' :: ['u', 'l', 'l'] ++ r ∧ c'.rest = utf8 r :=
          keyword_text hu hp (by decide) (by decide) hident (by simp) (by simp)
        exact ⟨[], r, .blanks hbl .null, hr⟩
      · obtain ⟨r, rfl, hr⟩ : ∃ r, u = 't' :: ['r', 'u', 'e'] ++ r ∧ c'.rest = utf8 r :=
          keyword_text hu hp (by decide) (by decide) hident (by simp) (by simp)
        exact ⟨[], r, .blanks hbl .true, hr⟩
      · obtain ⟨r, rfl, hr⟩ : ∃ r, u = 'f' :: ['a', 'l', 's', 'e'] ++ r ∧ c'.rest = utf8 r :=
          keyword_text hu hp (by decide) (by decide) hident (by simp) (by simp)
        exact ⟨[], r, .blanks hbl .false, hr⟩
      · -- a minus sign, then a number whose first byte is a digit
        obtain ⟨d, hd, hdigit, hrun⟩ := readNumber_run hn
        have hrun' := (NumberRun.bump hd (by simp [numberByte, hdigit])).trans hrun
        obtain ⟨tok, r, hne, rfl, htok, hr⟩ := number_token hu hp (by decide) hrun'
        exact ⟨[], r, .blanks hbl (.number hne htok), hr⟩
      · obtain ⟨d, hd, hdigit', hrun⟩ := readNumber_run hn
        obtain ⟨tok, r, hne, rfl, htok, hr⟩ :=
          number_token hu hd (by simp [numberByte, hdigit']) hrun
        exact ⟨[], r, .blanks hbl (.number hne htok), hr⟩
      · obtain ⟨u₁, rfl, hu₁⟩ := peek_eq_char (x := '"') hu hp rfl (by decide)
        obtain ⟨ps, r, hps, rfl, rfl, hr⟩ := readStringBody_text hu₁ hs
        exact ⟨[], r, .blanks hbl (.string hps), hr⟩
      · obtain ⟨u₁, rfl, hu₁⟩ := peek_eq_char (x := '[') hu hp rfl (by decide)
        obtain ⟨vs, marks, r, hfrom, rfl, hr⟩ := ihItems path (depth + 1) true _ u₁ [] items c₂ hu₁ hitems
        have hend := skipBlank_bump_of_close hr (by decide) (by decide)
        rcases hfrom with ⟨bl', hbl', rfl, rfl, rfl⟩ | hitems'
        · exact ⟨[], r, .blanks hbl (.emptyArray hbl'), hend⟩
        · exact ⟨marks, r, .blanks hbl (.array hitems'), hend⟩
      · obtain ⟨u₁, rfl, hu₁⟩ := peek_eq_char (x := '{') hu hp rfl (by decide)
        obtain ⟨members, marks, r, hfrom, rfl, hr⟩ :=
          ihMembers path (depth + 1) true _ u₁ [] fields c₂ hu₁ hfields
        have hend := skipBlank_bump_of_close hr (by decide) (by decide)
        rcases hfrom with ⟨bl', hbl', rfl, rfl, rfl⟩ | hmembers
        · exact ⟨[], r, .blanks hbl (.emptyObject hbl'), hend⟩
        · exact ⟨marks, r, .blanks hbl (.object hmembers), hend⟩
    · intro path depth first c t acc items c' hc h
      rcases readItems_step h with ⟨hp, rfl, rfl⟩ | ⟨b, cn, v, c₂, hp, hnext, hv, hrest⟩
      · obtain ⟨bl, u, hbl, rfl, hu⟩ := skipBlank_text hc
        obtain ⟨r, rfl, hr⟩ := peek_eq_char (x := ']') hu hp rfl (by decide)
        exact ⟨[], [], r, .inl ⟨bl, hbl, rfl, rfl, rfl⟩, by simp, hu⟩
      · obtain ⟨pre, bl, w, hw, hbl, rfl, hpre⟩ := nextItem_text hc hp hnext
        obtain ⟨m, r₁, hvalue, hr₁⟩ := ihValue (path ++ [toString acc.length]) depth cn w v c₂ hw hv
        obtain ⟨vs, ms, r, hfrom, rfl, hr⟩ := ihItems path depth false c₂ r₁ (v :: acc) items c' hr₁ hrest
        obtain ⟨marks, hitems⟩ := items_of_value hbl hvalue hfrom
        exact ⟨v :: vs, marks, r, List.append_assoc pre bl w ▸ itemsFrom_of_next hpre hitems,
          by simp, hr⟩
    · intro path depth first c t acc fields c' hc h
      rcases readMembers_step h with ⟨hp, rfl, rfl⟩ |
        ⟨b, cn, key, c₃, v, c₅, hp, hnext, hq, hkey, hcolon, hv, hrest⟩
      · obtain ⟨bl, u, hbl, rfl, hu⟩ := skipBlank_text hc
        obtain ⟨r, rfl, hr⟩ := peek_eq_char (x := '}') hu hp rfl (by decide)
        exact ⟨[], [], r, .inl ⟨bl, hbl, rfl, rfl, rfl⟩, rfl, hu⟩
      · obtain ⟨pre, bl, w, hw, hbl, rfl, hpre⟩ := nextItem_text hc hp hnext
        -- the key, its closing quote, blanks and the colon
        obtain ⟨w₁, rfl, hw₁⟩ := peek_eq_char (x := '"') hw hq rfl (by decide)
        obtain ⟨ps, r₃, hps, rfl, rfl, hr₃⟩ := readStringBody_text hw₁ hkey
        obtain ⟨bl', r₄, hbl', rfl, hr₄⟩ := skipBlank_text hr₃
        obtain ⟨r₅, rfl, hr₅⟩ := peek_eq_char (x := ':') hr₄ hcolon rfl (by decide)
        obtain ⟨m, r₁, hvalue, hr₁⟩ := ihValue (path ++ [decode ps]) depth _ r₅ v c₅ hr₅ hv
        obtain ⟨members, ms, r, hfrom, rfl, hr⟩ := ihMembers path depth false c₅ r₁ _ fields c' hr₁ hrest
        obtain ⟨marks, hmembers⟩ := members_of_value hbl hps hbl' hvalue hfrom
        refine ⟨(decode ps, v) :: members, marks, r, ?_, rfl, hr⟩
        simpa using membersFrom_of_next hpre hmembers

/-- A text the reader accepts is the text of the value read, between blanks. -/
theorem value_of_read {s : String} {v : Json} (h : read s = .ok v) :
    ∃ marks r, Value [] s.toList v marks r ∧ ∀ x ∈ r, blank x := by
  unfold read readBytes at h
  split at h
  · cases h
  · rename_i w c hread
    dsimp only at h
    split at h
    · rename_i hempty
      cases h
      obtain ⟨marks, r, hvalue, hr⟩ :=
        (read_grammar _).1 [] 0 ⟨s.toUTF8.toList, 0⟩ s.toList v c (toList_toUTF8 s) hread
      obtain ⟨bl, u, hbl, rfl, hu⟩ := skipBlank_text hr
      obtain rfl : u = [] := utf8_eq_nil.mp (hu.symm.trans (List.isEmpty_iff.mp hempty))
      exact ⟨marks, bl, by simpa using hvalue, hbl⟩
    · cases h

end Covenant.Json
