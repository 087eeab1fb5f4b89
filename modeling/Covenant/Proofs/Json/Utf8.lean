import Covenant.Json.Reader

/-!
# The UTF-8 bytes of a text

The reader reads a text as its UTF-8 bytes, `utf8 s.toList` (`toList_toUTF8`). A character
below 128 is the one byte of its code, and every byte of any other character is from 128 on
(`utf8EncodeChar_high`), so a byte below 128 in a text's bytes always stands for a character of
its own (`utf8_eq_cons_of_lt`): the bytes the reader tests against are characters of the text.
-/

namespace Covenant.Json.Utf8

theorem toList_loop (bs : ByteArray) : ∀ (k i : Nat) (r : List UInt8), bs.size - i = k →
    ByteArray.toList.loop bs i r = r.reverse ++ bs.data.toList.drop i := by
  intro k
  induction k with
  | zero =>
    intro i r hk
    have hle : bs.size ≤ i := by omega
    have hdata : bs.data.toList.length ≤ i := by simpa using hle
    rw [ByteArray.toList.loop, if_neg (by omega), List.drop_eq_nil_of_le hdata, List.append_nil]
  | succ k ih =>
    intro i r hk
    have hlt : i < bs.size := by omega
    rw [ByteArray.toList.loop, if_pos hlt, ih (i + 1) _ (by omega)]
    have hlt' : i < bs.data.toList.length := by simpa using hlt
    rw [List.drop_eq_getElem_cons hlt']
    have hget : bs.get! i = bs.data[i] := by
      obtain ⟨data⟩ := bs
      have hi : i < data.size := hlt
      simp only [ByteArray.get!]
      exact getElem!_pos data i hi
    simp [hget]

theorem toList_eq_data (bs : ByteArray) : bs.toList = bs.data.toList := by
  rw [ByteArray.toList, toList_loop bs _ 0 [] rfl]
  simp

/-- The UTF-8 bytes of a list of characters. -/
def utf8 (cs : List Char) : List UInt8 := cs.flatMap String.utf8EncodeChar

@[simp] theorem utf8_nil : utf8 [] = [] := rfl

@[simp] theorem utf8_append (cs ds : List Char) : utf8 (cs ++ ds) = utf8 cs ++ utf8 ds := by
  simp [utf8]

theorem utf8_cons (c : Char) (cs : List Char) :
    utf8 (c :: cs) = String.utf8EncodeChar c ++ utf8 cs := by
  simp [utf8]

/-- The bytes the reader reads of a text are its characters' UTF-8 bytes. -/
theorem toList_toUTF8 (s : String) : s.toUTF8.toList = utf8 s.toList := by
  rw [String.toUTF8_eq_toByteArray, ← String.utf8Encode_toList, toList_eq_data]
  simp [List.utf8Encode, utf8]

/-- A character below 128 is one byte, its code. -/
theorem utf8EncodeChar_of_lt {c : Char} (h : c.toNat < 128) :
    String.utf8EncodeChar c = [UInt8.ofNat c.toNat] := by
  have h' : c.val.toNat ≤ 0x7f := by
    change c.toNat ≤ 0x7f
    omega
  simp only [String.utf8EncodeChar, if_pos h']
  rfl

/-- Every byte of a character from 128 on is from 128 on. -/
theorem utf8EncodeChar_high {c : Char} (h : 128 ≤ c.toNat) :
    ∀ b ∈ String.utf8EncodeChar c, 128 ≤ b.toNat := by
  have hv : ¬c.val.toNat ≤ 0x7f := by
    change ¬c.toNat ≤ 0x7f
    omega
  simp only [String.utf8EncodeChar, if_neg hv]
  intro b hb
  split at hb <;> (try split at hb) <;> simp only [List.mem_cons, List.not_mem_nil, or_false] at hb <;>
    rcases hb with rfl | rfl | rfl | rfl <;> simp [UInt8.toNat_ofNat'] <;> omega

@[simp] theorem utf8_eq_nil {t : List Char} : utf8 t = [] ↔ t = [] := by
  cases t with
  | nil => simp
  | cons c t => simp [utf8_cons]

/-- A byte below 128 at the head of a text's bytes is the text's first character. -/
theorem utf8_eq_cons_of_lt {t : List Char} {b : UInt8} {bs : List UInt8} (h : utf8 t = b :: bs)
    (hb : b.toNat < 128) : ∃ c t', t = c :: t' ∧ c.toNat = b.toNat ∧ bs = utf8 t' := by
  cases t with
  | nil => simp at h
  | cons c t' =>
    rw [utf8_cons] at h
    by_cases hc : c.toNat < 128
    · rw [utf8EncodeChar_of_lt hc, List.singleton_append, List.cons.injEq] at h
      obtain ⟨rfl, rfl⟩ := h
      exact ⟨c, t', rfl, by simp [UInt8.toNat_ofNat']; omega, rfl⟩
    · obtain ⟨b0, rest, hrest⟩ := List.exists_cons_of_ne_nil (@String.utf8EncodeChar_ne_nil c)
      rw [hrest, List.cons_append, List.cons.injEq] at h
      have hhigh : 128 ≤ c.toNat := by omega
      have := utf8EncodeChar_high hhigh b0 (by simp [hrest])
      rw [h.1] at this
      omega

/-- Bytes below 128 at the head of a text's bytes are its first characters. -/
theorem utf8_eq_append_of_lt : ∀ {t : List Char} {tok rest : List UInt8},
    utf8 t = tok ++ rest → (∀ b ∈ tok, b.toNat < 128) →
      ∃ tc r, t = tc ++ r ∧ utf8 r = rest ∧ tc.map Char.toNat = tok.map UInt8.toNat
  | t, [], rest, h, _ => ⟨[], t, rfl, h, rfl⟩
  | t, b :: tok, rest, h, hlow => by
    obtain ⟨c, t', rfl, hc, ht'⟩ := utf8_eq_cons_of_lt h (hlow b List.mem_cons_self)
    obtain ⟨tc, r, rfl, hr, hmap⟩ := utf8_eq_append_of_lt ht'.symm
      (fun b' hb' => hlow b' (List.mem_cons_of_mem b hb'))
    exact ⟨c :: tc, r, rfl, hr, by simp [hc, hmap]⟩

/-! ## Bytes below 128 -/

theorem utf8_ascii_cons {x : Char} (hx : x.toNat < 128) (t : List Char) :
    utf8 (x :: t) = UInt8.ofNat x.toNat :: utf8 t := by
  rw [utf8_cons, utf8EncodeChar_of_lt hx, List.singleton_append]

theorem ofNat_beq {x : Char} (hx : x.toNat < 128) (k : UInt8) :
    (UInt8.ofNat x.toNat == k) = (x.toNat == k.toNat) := by
  rw [Bool.eq_iff_iff, beq_iff_eq, beq_iff_eq, ← UInt8.toNat_inj, UInt8.toNat_ofNat',
    Nat.mod_eq_of_lt (by omega : x.toNat < 2 ^ 8)]

/-- The byte of a character below 128 is a given byte exactly when the character is the one of
that code. -/
theorem ofNat_beq_iff {x : Char} (hx : x.toNat < 128) {y : Char} {k : UInt8}
    (hk : y.toNat = k.toNat) : (UInt8.ofNat x.toNat == k) = true ↔ x = y := by
  rw [ofNat_beq hx, beq_iff_eq, ← hk, Char.toNat_inj]

theorem ofNat_lt_iff {x : Char} (hx : x.toNat < 128) (k : UInt8) :
    UInt8.ofNat x.toNat < k ↔ x.toNat < k.toNat := by
  rw [UInt8.lt_iff_toNat_lt, UInt8.toNat_ofNat', Nat.mod_eq_of_lt (by omega : x.toNat < 2 ^ 8)]

/-- A byte from 128 on is none of the bytes below 128. -/
theorem high_beq {b k : UInt8} (hb : 128 ≤ b.toNat) (hk : k.toNat < 128) : (b == k) = false := by
  rw [beq_eq_false_iff_ne, ne_eq, ← UInt8.toNat_inj]
  omega

/-- A cursor on a text's bytes that sees a byte below 128 sees the text's first character. -/
theorem peek_eq_char {c : Cursor} {t : List Char} {b : UInt8} {x : Char} (hc : c.rest = utf8 t)
    (hp : c.peek = some b) (hx : x.toNat = b.toNat) (hb : b.toNat < 128) :
    ∃ t', t = x :: t' ∧ c.bump.rest = utf8 t' := by
  obtain ⟨bs, hbs⟩ : ∃ bs, c.rest = b :: bs := by
    cases h : c.rest with
    | nil => simp [Cursor.peek, h] at hp
    | cons b' bs =>
      simp only [Cursor.peek, h, List.head?_cons, Option.some.injEq] at hp
      exact ⟨bs, by rw [hp]⟩
  obtain ⟨y, t', rfl, hy, hrest⟩ := utf8_eq_cons_of_lt (hc.symm.trans hbs) hb
  obtain rfl : y = x := Char.toNat_inj.mp (hy.trans hx.symm)
  exact ⟨t', rfl, by simp [Cursor.bump, hbs, hrest]⟩

/-- Bytes below 128 that a text's bytes begin with are the characters of those codes. -/
theorem ascii_prefix {t xs : List Char} {w rest : List UInt8} (h : utf8 t = w ++ rest)
    (hw : ∀ b ∈ w, b.toNat < 128) (hx : xs.map Char.toNat = w.map UInt8.toNat) :
    ∃ r, t = xs ++ r ∧ utf8 r = rest := by
  obtain ⟨tc, r, rfl, hr, hmap⟩ := utf8_eq_append_of_lt h hw
  obtain rfl : tc = xs :=
    (List.map_inj_right (fun _ _ => Char.toNat_inj.mp)).mp (hmap.trans hx.symm)
  exact ⟨r, rfl, hr⟩

/-- Decoding a text's bytes gives the text. -/
theorem fromUTF8?_utf8 (cs : List Char) :
    String.fromUTF8? (ByteArray.mk (utf8 cs).toArray) = some (String.ofList cs) := by
  have hbytes : ByteArray.mk (utf8 cs).toArray = cs.utf8Encode := by
    apply ByteArray.ext
    simp [List.utf8Encode, utf8]
  rw [hbytes, String.fromUTF8?, dif_pos ByteArray.isValidUTF8_utf8Encode]
  rfl

/-- The bytes the reader writes for a code point are the character's bytes. -/
theorem utf8Bytes_eq (n : Nat) : utf8Bytes n = utf8 [Char.ofNat n] := by
  rw [utf8Bytes, toList_toUTF8, String.toList_singleton]

end Covenant.Json.Utf8
