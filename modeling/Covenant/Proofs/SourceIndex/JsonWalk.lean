import Covenant.Proofs.Json.Grammar
import Covenant.SourceIndex.Scan

/-!
# The JSON walk over well-formed text

The walk that indexes JSON text, run on text the grammar of `Covenant.Json.Grammar` derives,
records each member and item of the derivation in document order where its text begins
(`value_walk`), provided no member key is written with a surrogate pair: the walk reads each
half of a pair as a replacement character (`string_within`), so such a key is recorded under
another name.

Positions are those of `locationAfter`: the line counts line feeds before the position and the
column counts characters since the last of them, both from 1. `within d t` is the walk's
cursor at the part `t` of the document `d`.
-/

namespace Covenant.SourceIndex.JsonText

open Covenant.Json.Grammar

/-- Where the character after a text stands: the line counts the text's line feeds from 1, the
column the characters after the last of them, from 1. -/
def locationAfter (pre : List Char) : Location :=
  ⟨1 + (pre.count '\n' : Int), 1 + ((pre.reverse.takeWhile (· ≠ '\n')).length : Int)⟩

theorem locationAfter_append_feed (pre : List Char) :
    locationAfter (pre ++ ['\n']) = ⟨(locationAfter pre).line + 1, 1⟩ := by
  simp [locationAfter]
  omega

theorem locationAfter_append_of_notMem {run : List Char} (hrun : '\n' ∉ run) (pre : List Char) :
    locationAfter (pre ++ run) =
      ⟨(locationAfter pre).line, (locationAfter pre).column + run.length⟩ := by
  have hcount : run.count '\n' = 0 := List.count_eq_zero.mpr hrun
  have htake : (run.reverse ++ pre.reverse).takeWhile (· ≠ '\n') =
      run.reverse ++ pre.reverse.takeWhile (· ≠ '\n') :=
    List.takeWhile_append_of_pos (fun x hx => by
      simpa using fun (h : x = '\n') => hrun (h ▸ List.mem_reverse.mp hx))
  simp only [locationAfter, List.reverse_append, htake, List.count_append, hcount,
    List.length_append, List.length_reverse, Location.mk.injEq]
  omega

theorem locationAfter_append_of_ne {x : Char} (hx : x ≠ '\n') (pre : List Char) :
    locationAfter (pre ++ [x]) = ⟨(locationAfter pre).line, (locationAfter pre).column + 1⟩ := by
  simp [locationAfter, List.count_append, hx]
  omega

/-- The cursor at a part `t` of a document `d` that runs to the document's end. -/
def within (d t : List Char) : Cursor :=
  ⟨t, (locationAfter (d.take (d.length - t.length))).line,
    (locationAfter (d.take (d.length - t.length))).column⟩

theorem take_of_eq_append {d p t : List Char} (h : d = p ++ t) :
    d.take (d.length - t.length) = p := by
  subst h
  simp

theorem within_of_eq {d p t : List Char} (h : d = p ++ t) :
    within d t = ⟨t, (locationAfter p).line, (locationAfter p).column⟩ := by
  simp only [within, take_of_eq_append h]

theorem bump_within {d t : List Char} {x : Char} (h : x :: t <:+ d) :
    (within d (x :: t)).bump = some (x, within d t) := by
  obtain ⟨p, rfl⟩ := h
  rw [within_of_eq rfl, within_of_eq (show p ++ x :: t = (p ++ [x]) ++ t by simp)]
  by_cases hx : x = '\n'
  · subst hx
    simp [Cursor.bump, locationAfter_append_feed]
  · simp [Cursor.bump, locationAfter_append_of_ne hx, hx]

theorem bumpOrStay_within {d t : List Char} {x : Char} (h : x :: t <:+ d) :
    (within d (x :: t)).bumpOrStay = within d t := by
  simp [Cursor.bumpOrStay, bump_within h]

@[simp] theorem peek_within (d t : List Char) : (within d t).peek = t.head? := rfl

@[simp] theorem here_within (d t : List Char) :
    (within d t).here = locationAfter (d.take (d.length - t.length)) := rfl

theorem blank_iff (x : Char) : blank x = true ↔ x = ' ' ∨ x = '\t' ∨ x = '\n' ∨ x = '\r' := by
  simp [blank, or_assoc]

/-- One turn of the blank-skipping loop. -/
theorem skipBlank_go_of_peek {c : Cursor} {x : Char} (h : c.peek = some x) (fuel : Nat) :
    Cursor.skipBlank.go (fuel + 1) c =
      if blank x then Cursor.skipBlank.go fuel c.bumpOrStay else c := by
  simp only [Cursor.skipBlank.go, h]
  split <;> simp_all [blank]

/-- Skipping blanks passes exactly the blanks before the next character that is not one. -/
theorem skipBlank_within {d bl u : List Char} (hsuf : bl ++ u <:+ d) (hbl : ∀ c ∈ bl, blank c)
    (hu : ∀ x ∈ u.head?, blank x = false) : (within d (bl ++ u)).skipBlank = within d u := by
  -- the loop's fuel is the length of what is left, at least the blanks' count
  suffices h : ∀ fuel, bl.length ≤ fuel → Cursor.skipBlank.go fuel (within d (bl ++ u)) = within d u by
    exact h _ (by simp [within])
  induction bl with
  | nil =>
    intro fuel _
    cases fuel with
    | zero => rfl
    | succ fuel =>
      cases u with
      | nil => rfl
      | cons x u =>
        rw [List.nil_append, skipBlank_go_of_peek rfl, if_neg (by simp [hu x rfl])]
  | cons b bl ih =>
    intro fuel hfuel
    obtain ⟨fuel, rfl⟩ : ∃ f, fuel = f + 1 := ⟨fuel - 1, by simp at hfuel; omega⟩
    have hb : blank b = true := hbl b List.mem_cons_self
    have hrest : bl ++ u <:+ d := (List.suffix_cons b _).trans hsuf
    have hcons : b :: (bl ++ u) <:+ d := by simpa using hsuf
    rw [List.cons_append, skipBlank_go_of_peek rfl, if_pos hb, bumpOrStay_within hcons]
    exact ih hrest (fun c hc => hbl c (List.mem_cons_of_mem b hc)) fuel (by simp at hfuel; omega)

/-! ## Strings -/

theorem escaped_cases {e : Char} (h : (escaped e).isSome) :
    e = '"' ∨ e = '\\' ∨ e = '/' ∨ e = 'b' ∨ e = 'f' ∨ e = 'n' ∨ e = 'r' ∨ e = 't' := by
  unfold escaped at h
  split at h <;> simp_all

theorem hex4_eq_some {ds : List Char} {code : Nat} (h : hex4 ds = some code) :
    ∃ a b c e na nb nc ne, ds = [a, b, c, e] ∧ hexDigit a = some na ∧ hexDigit b = some nb ∧
      hexDigit c = some nc ∧ hexDigit e = some ne ∧ code = ((na * 16 + nb) * 16 + nc) * 16 + ne := by
  match ds, h with
  | [a, b, c, e], h =>
    simp only [hex4, Option.bind_eq_bind, Option.bind_eq_some_iff, Option.pure_def,
      Option.some.injEq] at h
    obtain ⟨na, ha, nb, hb, nc, hc, ne, he, rfl⟩ := h
    exact ⟨a, b, c, e, na, nb, nc, ne, rfl, ha, hb, hc, he, rfl⟩

/-- Four hex digits read as a code point, a surrogate as the replacement character. -/
theorem unicodeEscape_within {d ds rest : List Char} {code : Nat} (hds : hex4 ds = some code)
    (hsuf : ds ++ rest <:+ d) :
    unicodeEscape (within d (ds ++ rest)) =
      some ((if 0xD800 ≤ code ∧ code ≤ 0xDFFF then Char.ofNat 0xFFFD else Char.ofNat code),
        within d rest) := by
  obtain ⟨a, b, c, e, na, nb, nc, ne, rfl, ha, hb, hc, he, rfl⟩ := hex4_eq_some hds
  have h1 : a :: b :: c :: e :: rest <:+ d := hsuf
  have h2 : b :: c :: e :: rest <:+ d := (List.suffix_cons a _).trans h1
  have h3 : c :: e :: rest <:+ d := (List.suffix_cons b _).trans h2
  have h4 : e :: rest <:+ d := (List.suffix_cons c _).trans h3
  simp only [unicodeEscape, List.cons_append, List.nil_append, bump_within h1, bump_within h2,
    bump_within h3, bump_within h4, show hexDigit? = hexDigit from rfl, ha, hb, hc, he,
    Option.pure_def, Option.bind_eq_bind, Option.bind_some]

/-- The characters the walk reads a piece as: a surrogate pair as two replacement
characters. -/
def scannedChars : Piece → List Char
  | .pair .. => [Char.ofNat 0xFFFD, Char.ofNat 0xFFFD]
  | p => [p.char]

theorem string_go_pieces {d r : List Char} : ∀ (ps : List Piece) (acc : List Char) (fuel : Nat),
    (∀ p ∈ ps, p.Valid) → texts ps ++ '"' :: r <:+ d → (texts ps).length < fuel →
    string.go fuel (within d (texts ps ++ '"' :: r)) acc =
      some (String.ofList (acc.reverse ++ ps.flatMap scannedChars), within d r) := by
  intro ps
  induction ps with
  | nil =>
    intro acc fuel _ hsuf hfuel
    obtain ⟨f, rfl⟩ : ∃ f, fuel = f + 1 := ⟨fuel - 1, by simp [texts] at hfuel; omega⟩
    simp only [texts, List.flatMap_nil, List.nil_append] at hsuf ⊢
    simp [string.go, bump_within hsuf]
  | cons p ps ih =>
    intro acc fuel hvalid hsuf hfuel
    have hp : p.Valid := hvalid p List.mem_cons_self
    have hps : ∀ q ∈ ps, q.Valid := fun q hq => hvalid q (List.mem_cons_of_mem p hq)
    obtain ⟨f, rfl⟩ : ∃ f, fuel = f + 1 := ⟨fuel - 1, by omega⟩
    cases p with
    | raw c =>
      obtain ⟨hq, hb, -⟩ := hp
      have htext : texts (.raw c :: ps) ++ '"' :: r = c :: (texts ps ++ '"' :: r) := by
        simp [Piece.text]
      rw [htext] at hsuf ⊢
      rw [string.go, bump_within hsuf]
      simp only [Option.bind_eq_bind, Option.bind_some, hq, hb, if_false]
      rw [ih (c :: acc) f hps ((List.suffix_cons c _).trans hsuf) (by simp [Piece.text] at hfuel; omega)]
      simp [scannedChars, Piece.char]
    | escape e =>
      have he : (escaped e).isSome := hp
      have hu : e ≠ 'u' := by
        rintro rfl
        simp [escaped] at he
      have htext : texts (.escape e :: ps) ++ '"' :: r = '\\' :: e :: (texts ps ++ '"' :: r) := by
        simp [Piece.text]
      rw [htext] at hsuf ⊢
      have hs2 : e :: (texts ps ++ '"' :: r) <:+ d := (List.suffix_cons _ _).trans hsuf
      rw [string.go, bump_within hsuf]
      simp only [Option.bind_eq_bind, Option.bind_some, bump_within hs2, hu, if_false,
        show ('\\' : Char) ≠ '"' by decide, if_true]
      rw [ih _ f hps ((List.suffix_cons _ _).trans hs2) (by simp [Piece.text] at hfuel; omega)]
      rcases escaped_cases he with rfl | rfl | rfl | rfl | rfl | rfl | rfl | rfl <;>
        simp [scannedChars, Piece.char, escaped]
    | unicode ds code =>
      obtain ⟨hhex, hsur⟩ := hp
      have htext : texts (.unicode ds code :: ps) ++ '"' :: r =
          '\\' :: 'u' :: (ds ++ (texts ps ++ '"' :: r)) := by
        simp [Piece.text]
      rw [htext] at hsuf ⊢
      have hs2 : 'u' :: (ds ++ (texts ps ++ '"' :: r)) <:+ d := (List.suffix_cons _ _).trans hsuf
      have hs3 : ds ++ (texts ps ++ '"' :: r) <:+ d := (List.suffix_cons _ _).trans hs2
      have hlen : ds.length = 4 := by
        obtain ⟨a, b, c, e, -, -, -, -, rfl, -⟩ := hex4_eq_some hhex
        rfl
      rw [string.go, bump_within hsuf]
      simp only [Option.bind_eq_bind, Option.bind_some, bump_within hs2, if_true,
        show ('\\' : Char) ≠ '"' by decide, unicodeEscape_within hhex hs3,
        if_neg (show ¬(0xD800 ≤ code ∧ code ≤ 0xDFFF) by omega)]
      rw [ih _ f hps ((List.suffix_append _ _).trans hs3) (by simp [Piece.text] at hfuel; omega)]
      simp [scannedChars, Piece.char]
    | pair lead trail hi lo =>
      obtain ⟨hlead, htrail, h1, h2, h3, h4⟩ := hp
      have htext : texts (.pair lead trail hi lo :: ps) ++ '"' :: r =
          '\\' :: 'u' :: (lead ++ '\\' :: 'u' :: (trail ++ (texts ps ++ '"' :: r))) := by
        simp [Piece.text]
      rw [htext] at hsuf ⊢
      have hs2 : 'u' :: (lead ++ '\\' :: 'u' :: (trail ++ (texts ps ++ '"' :: r))) <:+ d :=
        (List.suffix_cons _ _).trans hsuf
      have hs3 : lead ++ '\\' :: 'u' :: (trail ++ (texts ps ++ '"' :: r)) <:+ d :=
        (List.suffix_cons _ _).trans hs2
      have hs4 : '\\' :: 'u' :: (trail ++ (texts ps ++ '"' :: r)) <:+ d :=
        (List.suffix_append _ _).trans hs3
      have hs5 : 'u' :: (trail ++ (texts ps ++ '"' :: r)) <:+ d := (List.suffix_cons _ _).trans hs4
      have hs6 : trail ++ (texts ps ++ '"' :: r) <:+ d := (List.suffix_cons _ _).trans hs5
      have hlen : lead.length = 4 ∧ trail.length = 4 := by
        obtain ⟨a, b, c, e, -, -, -, -, rfl, -⟩ := hex4_eq_some hlead
        obtain ⟨a', b', c', e', -, -, -, -, rfl, -⟩ := hex4_eq_some htrail
        exact ⟨rfl, rfl⟩
      -- the two halves are read in two turns, each as a replacement character
      obtain ⟨g, rfl⟩ : ∃ g, f = g + 1 := ⟨f - 1, by simp [Piece.text] at hfuel; omega⟩
      rw [string.go, bump_within hsuf]
      simp only [Option.bind_eq_bind, Option.bind_some, bump_within hs2, if_true,
        show ('\\' : Char) ≠ '"' by decide, unicodeEscape_within hlead hs3,
        if_pos (show 0xD800 ≤ hi ∧ hi ≤ 0xDFFF by omega)]
      rw [string.go, bump_within hs4]
      simp only [Option.bind_eq_bind, Option.bind_some, bump_within hs5, if_true,
        show ('\\' : Char) ≠ '"' by decide, unicodeEscape_within htrail hs6,
        if_pos (show 0xD800 ≤ lo ∧ lo ≤ 0xDFFF by omega)]
      rw [ih _ g hps ((List.suffix_append _ _).trans hs6) (by simp [Piece.text] at hfuel; omega)]
      simp [scannedChars]

/-- A string's text is read to its closing quote, each piece as the characters the walk reads
it as. -/
theorem string_within {d r : List Char} {ps : List Piece} (hps : ∀ p ∈ ps, p.Valid)
    (hsuf : '"' :: (texts ps ++ '"' :: r) <:+ d) :
    string (within d ('"' :: (texts ps ++ '"' :: r))) =
      some (String.ofList (ps.flatMap scannedChars), within d r) := by
  have hrest : texts ps ++ '"' :: r <:+ d := (List.suffix_cons _ _).trans hsuf
  rw [string, bump_within hsuf]
  simp only [Option.bind_eq_bind, Option.bind_some, ne_eq, not_true_eq_false, if_false]
  rw [string_go_pieces ps [] _ hps hrest (by simp [within])]
  simp

/-- Without surrogate pairs, the walk reads a string as the string it stands for. -/
theorem flatMap_scannedChars {ps : List Piece} (hps : ∀ p ∈ ps, p.isPair = false) :
    ps.flatMap scannedChars = ps.map Piece.char := by
  induction ps with
  | nil => rfl
  | cons p ps ih =>
    have hp : p.isPair = false := hps p List.mem_cons_self
    rw [List.flatMap_cons, List.map_cons, ih (fun q hq => hps q (List.mem_cons_of_mem p hq))]
    cases p with
    | pair => simp [Piece.isPair] at hp
    | raw | escape | unicode => rfl

/-! ## Scalars -/

/-- The characters that end a scalar. -/
def stop (x : Char) : Bool := x = ',' || x = '}' || x = ']' || Text.isBlank x

theorem digit_visible {x : Char} (h : x.isDigit) :
    stop x = false ∧ x ≠ '{' ∧ x ≠ '[' ∧ x ≠ '"' := by
  unfold Char.isDigit at h
  simp only [Bool.and_eq_true, decide_eq_true_eq] at h
  have e1 : 48 ≤ x.toNat := UInt32.le_iff_toNat_le.mp h.1
  have e2 : x.toNat ≤ 57 := UInt32.le_iff_toNat_le.mp h.2
  have hne : ∀ y : Char, (y.toNat < 48 ∨ 57 < y.toNat) → x ≠ y := by
    rintro y hy rfl
    omega
  refine ⟨?_, hne '{' (by decide), hne '[' (by decide), hne '"' (by decide)⟩
  simp only [stop, Text.isBlank, hne ',' (by decide), hne '}' (by decide), hne ']' (by decide),
    decide_false, Bool.false_or, Bool.or_eq_false_iff, Bool.and_eq_false_iff,
    beq_eq_false_iff_ne, decide_eq_false_iff_not]
  omega

/-- The characters of a number neither stop a scalar nor open anything. -/
theorem numberChar_visible {x : Char} (h : numberChar x) :
    stop x = false ∧ x ≠ '{' ∧ x ≠ '[' ∧ x ≠ '"' := by
  simp only [numberChar, Bool.or_eq_true, decide_eq_true_eq] at h
  rcases h with ((((h | rfl) | rfl) | rfl) | rfl) | rfl
  · exact digit_visible h
  all_goals decide

/-- The letters of the words `null`, `true` and `false` neither stop a scalar nor open anything. -/
theorem wordChar_visible {x : Char} (h : x ∈ ['n', 'u', 'l', 't', 'r', 'e', 'f', 'a', 's']) :
    stop x = false ∧ x ≠ '{' ∧ x ≠ '[' ∧ x ≠ '"' := by
  simp only [List.mem_cons, List.not_mem_nil, or_false] at h
  rcases h with rfl | rfl | rfl | rfl | rfl | rfl | rfl | rfl | rfl <;> decide

theorem blank_stop {x : Char} (h : blank x) : stop x := by
  simp only [blank, Bool.or_eq_true, decide_eq_true_eq] at h
  rcases h with ((rfl | rfl) | rfl) | rfl <;> decide

/-- Blanks and then a comma or a closing bracket start with a stop. -/
theorem head_stop {bl r : List Char} {x : Char} (hbl : ∀ c ∈ bl, blank c) (hx : stop x) :
    ∀ y ∈ (bl ++ x :: r).head?, stop y := by
  cases bl with
  | nil => simpa using hx
  | cons b bl => simpa using blank_stop (hbl b List.mem_cons_self)

/-- A scalar is read as the whole run of characters before the next stop. -/
theorem scalar_within {d tok r : List Char} (hsuf : tok ++ r <:+ d) (hne : tok ≠ [])
    (htok : ∀ x ∈ tok, stop x = false) (hr : ∀ x ∈ r.head?, stop x = true) :
    scalar (within d (tok ++ r)) = some (within d r) := by
  obtain ⟨pre, rfl⟩ := hsuf
  have hfeed : '\n' ∉ tok := fun h => by simpa [stop, Text.isBlank] using htok _ h
  have hrun : (tok ++ r).takeWhile (fun x => !stop x) = tok := by
    rw [List.takeWhile_append_of_pos (by simpa using htok)]
    cases r with
    | nil => simp
    | cons x r => simp [hr x rfl]
  rw [within_of_eq (show pre ++ (tok ++ r) = pre ++ (tok ++ r) from rfl),
    within_of_eq (show pre ++ (tok ++ r) = (pre ++ tok) ++ r by simp),
    locationAfter_append_of_notMem hfeed]
  have hstops : (fun x : Char => !(x = ',' || x = '}' || x = ']' || Text.isBlank x)) =
      fun x => !stop x := rfl
  simp only [scalar, hstops, hrun]
  simp [hne]

/-! ## One step of the walk -/

section Steps

variable {fuel : Nat} {path : List String} {i : Nat} {idx : SourceIndex} {c : Cursor} {x : Char}

theorem value_scalar (h : c.skipBlank.peek = some x) (hx : x ≠ '{' ∧ x ≠ '[' ∧ x ≠ '"') :
    value (fuel + 1) path idx c = (idx, scalar c.skipBlank) := by
  obtain ⟨h1, h2, h3⟩ := hx
  rw [value]
  simp only [h]

theorem value_string (h : c.skipBlank.peek = some '"') :
    value (fuel + 1) path idx c = (idx, (string c.skipBlank).map (·.2)) := by
  rw [value]
  simp only [h]

theorem value_array (h : c.skipBlank.peek = some '[') :
    value (fuel + 1) path idx c = items fuel path 0 idx c.skipBlank.bumpOrStay := by
  rw [value]
  simp only [h]

theorem value_object (h : c.skipBlank.peek = some '{') :
    value (fuel + 1) path idx c = members fuel path idx c.skipBlank.bumpOrStay := by
  rw [value]
  simp only [h]

theorem items_close (h : c.skipBlank.peek = some ']') :
    items (fuel + 1) path i idx c = (idx, some c.skipBlank.bumpOrStay) := by
  rw [items]
  simp only [h]

theorem items_comma (h : c.skipBlank.peek = some ',') :
    items (fuel + 1) path i idx c = items fuel path i idx c.skipBlank.bumpOrStay := by
  rw [items]
  simp only [h]

/-- An item is recorded where it begins, then read as a value. -/
theorem items_item {idx' : SourceIndex} {c' : Cursor} (h : c.skipBlank.peek = some x)
    (hx : x ≠ ']' ∧ x ≠ ',')
    (hv : value fuel (path ++ [toString i]) (idx.record (path ++ [toString i]) c.skipBlank.here)
      c.skipBlank = (idx', some c')) :
    items (fuel + 1) path i idx c = items fuel path (i + 1) idx' c' := by
  obtain ⟨h1, h2⟩ := hx
  rw [items]
  simp only [h, hv]

theorem members_close (h : c.skipBlank.peek = some '}') :
    members (fuel + 1) path idx c = (idx, some c.skipBlank.bumpOrStay) := by
  rw [members]
  simp only [h]

theorem members_comma (h : c.skipBlank.peek = some ',') :
    members (fuel + 1) path idx c = members fuel path idx c.skipBlank.bumpOrStay := by
  rw [members]
  simp only [h]

/-- A member is recorded at its key's opening quote, then its value is read. -/
theorem members_member {key : String} {c₁ c₂ c₃ : Cursor} {idx' : SourceIndex}
    (h : c.skipBlank.peek = some '"') (hs : string c.skipBlank = some (key, c₁))
    (hb : c₁.skipBlank.bump = some (':', c₂))
    (hv : value fuel (path ++ [key]) (idx.record (path ++ [key]) c.skipBlank.here) c₂ =
      (idx', some c₃)) :
    members (fuel + 1) path idx c = members fuel path idx' c₃ := by
  rw [members]
  simp only [h, hs, hb, hv]

variable {d bl r : List Char}

theorem skipBlank_close (hsuf : bl ++ x :: r <:+ d) (hbl : ∀ c ∈ bl, blank c)
    (hx : stop x = false) : (within d (bl ++ x :: r)).skipBlank = within d (x :: r) :=
  skipBlank_within hsuf hbl (fun y hy => by
    obtain rfl : x = y := by simpa using hy
    exact Bool.eq_false_iff.mpr fun h => by simp [blank_stop h] at hx)

theorem items_close_within (hbl : ∀ c ∈ bl, blank c) (hsuf : bl ++ ']' :: r <:+ d) :
    items (fuel + 1) path i idx (within d (bl ++ ']' :: r)) = (idx, some (within d r)) := by
  have hs := skipBlank_within hsuf hbl (by simp [blank])
  rw [items_close (by rw [hs]; rfl), hs, bumpOrStay_within ((List.suffix_append _ _).trans hsuf)]

theorem items_comma_within (hbl : ∀ c ∈ bl, blank c) (hsuf : bl ++ ',' :: r <:+ d) :
    items (fuel + 1) path i idx (within d (bl ++ ',' :: r)) = items fuel path i idx (within d r) := by
  have hs := skipBlank_within hsuf hbl (by simp [blank])
  rw [items_comma (by rw [hs]; rfl), hs, bumpOrStay_within ((List.suffix_append _ _).trans hsuf)]

theorem members_close_within (hbl : ∀ c ∈ bl, blank c) (hsuf : bl ++ '}' :: r <:+ d) :
    members (fuel + 1) path idx (within d (bl ++ '}' :: r)) = (idx, some (within d r)) := by
  have hs := skipBlank_within hsuf hbl (by simp [blank])
  rw [members_close (by rw [hs]; rfl), hs, bumpOrStay_within ((List.suffix_append _ _).trans hsuf)]

theorem members_comma_within (hbl : ∀ c ∈ bl, blank c) (hsuf : bl ++ ',' :: r <:+ d) :
    members (fuel + 1) path idx (within d (bl ++ ',' :: r)) = members fuel path idx (within d r) := by
  have hs := skipBlank_within hsuf hbl (by simp [blank])
  rw [members_comma (by rw [hs]; rfl), hs, bumpOrStay_within ((List.suffix_append _ _).trans hsuf)]

/-- A scalar after blanks is read to the next stop. -/
theorem value_scalar_within {tok : List Char} (hbl : ∀ c ∈ bl, blank c)
    (hsuf : bl ++ (tok ++ r) <:+ d) (hne : tok ≠ []) (htok : ∀ x ∈ tok, stop x = false)
    (hopen : ∀ x ∈ tok.head?, x ≠ '{' ∧ x ≠ '[' ∧ x ≠ '"') (hr : ∀ x ∈ r.head?, stop x) :
    value (fuel + 1) path idx (within d (bl ++ (tok ++ r))) = (idx, some (within d r)) := by
  obtain ⟨y, tok, rfl⟩ := List.exists_cons_of_ne_nil hne
  have hs : (within d (bl ++ (y :: tok ++ r))).skipBlank = within d (y :: tok ++ r) :=
    skipBlank_close hsuf hbl (htok y List.mem_cons_self)
  rw [value_scalar (x := y) (by rw [hs]; rfl) (hopen y rfl), hs,
    scalar_within ((List.suffix_append _ _).trans hsuf) hne htok hr]

/-- The words `null`, `true` and `false` after blanks are read as scalars. -/
theorem value_word_within {w : List Char}
    (hw : w ∈ [['n', 'u', 'l', 'l'], ['t', 'r', 'u', 'e'], ['f', 'a', 'l', 's', 'e']])
    (hbl : ∀ c ∈ bl, blank c) (hsuf : bl ++ (w ++ r) <:+ d) (hr : ∀ x ∈ r.head?, stop x) :
    value (fuel + 1) path idx (within d (bl ++ (w ++ r))) = (idx, some (within d r)) := by
  have hletters : ∀ x ∈ w, x ∈ ['n', 'u', 'l', 't', 'r', 'e', 'f', 'a', 's'] := by
    simp only [List.mem_cons, List.not_mem_nil, or_false] at hw
    rcases hw with rfl | rfl | rfl <;> simp
  have hne : w ≠ [] := by
    rintro rfl
    simp at hw
  exact value_scalar_within hbl hsuf hne (fun x hx => (wordChar_visible (hletters x hx)).1)
    (fun x hx => (wordChar_visible (hletters x (List.mem_of_mem_head? hx))).2) hr

end Steps

/-! ## The walk over a whole value -/

/-- The index after recording each mark, in order, where its text begins. -/
def recordMarks (d : List Char) (idx : SourceIndex) (marks : List Mark) : SourceIndex :=
  marks.foldl (fun idx m => idx.record m.path (within d m.rest).here) idx

@[simp] theorem recordMarks_nil (d : List Char) (idx : SourceIndex) :
    recordMarks d idx [] = idx := rfl

@[simp] theorem recordMarks_cons (d : List Char) (idx : SourceIndex) (m : Mark) (ms : List Mark) :
    recordMarks d idx (m :: ms) = recordMarks d (idx.record m.path (within d m.rest).here) ms :=
  rfl

@[simp] theorem recordMarks_append (d : List Char) (idx : SourceIndex) (ms ms' : List Mark) :
    recordMarks d idx (ms ++ ms') = recordMarks d (recordMarks d idx ms) ms' :=
  List.foldl_append

/-- A value's text starts with a character that does not stop a scalar. -/
theorem Token.head_visible {path : List String} {u r : List Char} {v : Json} {marks : List Mark}
    (h : Token path u v marks r) : ∃ x u', u = x :: u' ∧ stop x = false := by
  cases h with
  | number hne htok =>
    obtain ⟨x, tok, rfl⟩ := List.exists_cons_of_ne_nil hne
    exact ⟨x, _, rfl, (numberChar_visible (htok x List.mem_cons_self)).1⟩
  | _ => exact ⟨_, _, rfl, by decide⟩

/-- A key written without surrogate pairs is read as the string it stands for. -/
theorem string_key {path : List String} {rest : List Char} {ps : List Piece}
    (h : (Mark.mk path rest (some ps)).plainKey) :
    String.ofList (ps.flatMap scannedChars) = decode ps := by
  rw [flatMap_scannedChars (by simpa [Mark.plainKey] using h)]
  rfl

theorem ne_of_visible {x : Char} (h : stop x = false) : x ≠ ']' ∧ x ≠ ',' := by
  constructor <;> (rintro rfl; simp [stop] at h)

/-- Where a value's text begins after blanks: at a character that does not stop a scalar. -/
theorem token_start {path : List String} {u r bl d : List Char} {v : Json} {marks : List Mark}
    (h : Token path u v marks r) (hsuf : bl ++ u <:+ d) (hbl : ∀ c ∈ bl, blank c) :
    ∃ x, stop x = false ∧ (within d u).peek = some x ∧
      (within d (bl ++ u)).skipBlank = within d u := by
  obtain ⟨x, u, rfl, hx⟩ := Token.head_visible h
  exact ⟨x, hx, rfl, skipBlank_close hsuf hbl hx⟩

section Walk

variable {d : List Char}

mutual

/-- The walk reads a value and everything below it, recording each member and item where it
begins, and stops right after the value. -/
theorem value_walk {path : List String} {t r : List Char} {v : Json} {marks : List Mark} :
    Value path t v marks r → ∀ (idx : SourceIndex) (fuel : Nat), t <:+ d →
      (∀ x ∈ r.head?, stop x) → (∀ m ∈ marks, m.plainKey) → t.length < fuel + r.length →
      value fuel path idx (within d t) = (recordMarks d idx marks, some (within d r))
  | .blanks hbl h, idx, fuel, hsuf, hr, hplain, hfuel =>
    token_walk h _ idx fuel hbl hsuf hr hplain hfuel

theorem token_walk {path : List String} {u r : List Char} {v : Json} {marks : List Mark} :
    Token path u v marks r → ∀ (bl : List Char) (idx : SourceIndex) (fuel : Nat),
      (∀ c ∈ bl, blank c) → bl ++ u <:+ d → (∀ x ∈ r.head?, stop x) →
      (∀ m ∈ marks, m.plainKey) → (bl ++ u).length < fuel + r.length →
      value fuel path idx (within d (bl ++ u)) = (recordMarks d idx marks, some (within d r))
  | .null, bl, idx, fuel, hbl, hsuf, hr, _, hfuel => by
    obtain ⟨f, rfl⟩ : ∃ f, fuel = f + 1 := ⟨fuel - 1, by simp at hfuel; omega⟩
    exact value_word_within (w := ['n', 'u', 'l', 'l']) (by simp) hbl hsuf hr
  | .true, bl, idx, fuel, hbl, hsuf, hr, _, hfuel => by
    obtain ⟨f, rfl⟩ : ∃ f, fuel = f + 1 := ⟨fuel - 1, by simp at hfuel; omega⟩
    exact value_word_within (w := ['t', 'r', 'u', 'e']) (by simp) hbl hsuf hr
  | .false, bl, idx, fuel, hbl, hsuf, hr, _, hfuel => by
    obtain ⟨f, rfl⟩ : ∃ f, fuel = f + 1 := ⟨fuel - 1, by simp at hfuel; omega⟩
    exact value_word_within (w := ['f', 'a', 'l', 's', 'e']) (by simp) hbl hsuf hr
  | .number hne htok, bl, idx, fuel, hbl, hsuf, hr, _, hfuel => by
    obtain ⟨f, rfl⟩ : ∃ f, fuel = f + 1 :=
      ⟨fuel - 1, by have := List.length_pos_iff.mpr hne; simp at hfuel; omega⟩
    exact value_scalar_within hbl hsuf hne (fun x hx => (numberChar_visible (htok x hx)).1)
      (fun x hx => (numberChar_visible (htok x (List.mem_of_mem_head? hx))).2) hr
  | .string hps, bl, idx, fuel, hbl, hsuf, _, _, hfuel => by
    obtain ⟨f, rfl⟩ : ∃ f, fuel = f + 1 := ⟨fuel - 1, by simp at hfuel; omega⟩
    rw [List.cons_append] at hsuf ⊢
    have hu := (List.suffix_append _ _).trans hsuf
    have hs := skipBlank_close hsuf hbl (by decide)
    rw [value_string (by rw [hs]; rfl), hs, string_within hps hu]
    rfl
  | .emptyArray hbl', bl, idx, fuel, hbl, hsuf, _, _, hfuel => by
    obtain ⟨f, rfl⟩ : ∃ f, fuel = f + 2 := ⟨fuel - 2, by simp at hfuel; omega⟩
    rw [List.cons_append] at hsuf ⊢
    have hu : '[' :: (_ ++ ']' :: r) <:+ d := (List.suffix_append _ _).trans hsuf
    have hs := skipBlank_close hsuf hbl (by decide)
    rw [value_array (by rw [hs]; rfl), hs, bumpOrStay_within hu,
      items_close_within hbl' ((List.suffix_cons _ _).trans hu)]
    rfl
  | .array h, bl, idx, fuel, hbl, hsuf, _, hplain, hfuel => by
    have hrt := (Items.shrinks h).2
    obtain ⟨f, rfl⟩ : ∃ f, fuel = f + 1 := ⟨fuel - 1, by simp at hfuel; omega⟩
    have hu : '[' :: _ <:+ d := (List.suffix_append _ _).trans hsuf
    have hs := skipBlank_close hsuf hbl (by decide)
    rw [value_array (by rw [hs]; rfl), hs, bumpOrStay_within hu]
    exact items_walk h idx f ((List.suffix_cons _ _).trans hu) hplain (by simp at hfuel; omega)
  | .emptyObject hbl', bl, idx, fuel, hbl, hsuf, _, _, hfuel => by
    obtain ⟨f, rfl⟩ : ∃ f, fuel = f + 2 := ⟨fuel - 2, by simp at hfuel; omega⟩
    rw [List.cons_append] at hsuf ⊢
    have hu : '{' :: (_ ++ '}' :: r) <:+ d := (List.suffix_append _ _).trans hsuf
    have hs := skipBlank_close hsuf hbl (by decide)
    rw [value_object (by rw [hs]; rfl), hs, bumpOrStay_within hu,
      members_close_within hbl' ((List.suffix_cons _ _).trans hu)]
    rfl
  | .object h, bl, idx, fuel, hbl, hsuf, _, hplain, hfuel => by
    have hrt := (Members.shrinks h).2
    obtain ⟨f, rfl⟩ : ∃ f, fuel = f + 1 := ⟨fuel - 1, by simp at hfuel; omega⟩
    have hu : '{' :: _ <:+ d := (List.suffix_append _ _).trans hsuf
    have hs := skipBlank_close hsuf hbl (by decide)
    rw [value_object (by rw [hs]; rfl), hs, bumpOrStay_within hu]
    exact members_walk h idx f ((List.suffix_cons _ _).trans hu) hplain (by simp at hfuel; omega)

theorem items_walk {path : List String} {i : Nat} {t r : List Char} {vs : List Json}
    {marks : List Mark} :
    Items path i t vs marks r → ∀ (idx : SourceIndex) (fuel : Nat), t <:+ d →
      (∀ m ∈ marks, m.plainKey) → t.length < fuel + r.length →
      items fuel path i idx (within d t) = (recordMarks d idx marks, some (within d r))
  | @Items.last _ _ bl u bl' _ _ m hbl hv hbl', idx, fuel, hsuf, hplain, hfuel => by
    obtain ⟨hsh, hlt⟩ := Token.shrinks hv
    obtain ⟨f, rfl⟩ : ∃ f, fuel = f + 2 := ⟨fuel - 2, by simp at hfuel hlt; omega⟩
    have hu : u <:+ d := (List.suffix_append _ _).trans hsuf
    have hv' := token_walk hv [] (idx.record (path ++ [toString i]) (within d u).here)
      (f + 1) (by simp) hu (head_stop hbl' (by decide))
      (fun m' hm' => hplain m' (List.mem_cons_of_mem _ hm')) (by simp at hfuel ⊢; omega)
    obtain ⟨x, hx, hpeek, hs⟩ := token_start hv hsuf hbl
    rw [items_item (by rw [hs]; exact hpeek) (ne_of_visible hx) (by rw [hs]; exact hv'),
      items_close_within hbl' (hsh.trans hu)]
    rfl
  | @Items.cons _ _ bl u bl' t _ _ m _ ms hbl hv hbl' hrest, idx, fuel, hsuf, hplain, hfuel => by
    obtain ⟨hsh, hlt⟩ := Token.shrinks hv
    have hrt := (Items.shrinks hrest).2
    obtain ⟨f, rfl⟩ : ∃ f, fuel = f + 2 := ⟨fuel - 2, by simp at hfuel hlt; omega⟩
    have hu : u <:+ d := (List.suffix_append _ _).trans hsuf
    simp only [List.cons_append, List.mem_cons, List.mem_append, or_imp, forall_and,
      forall_eq] at hplain
    have hv' := token_walk hv [] (idx.record (path ++ [toString i]) (within d u).here)
      (f + 1) (by simp) hu (head_stop hbl' (by decide)) hplain.2.1 (by simp at hfuel ⊢; omega)
    have hrest' := items_walk hrest (recordMarks d (idx.record (path ++ [toString i])
      (within d u).here) m) f (((List.suffix_cons _ _).trans (List.suffix_append _ _)).trans
        (hsh.trans hu)) hplain.2.2 (by simp at hfuel hlt; omega)
    obtain ⟨x, hx, hpeek, hs⟩ := token_start hv hsuf hbl
    rw [items_item (by rw [hs]; exact hpeek) (ne_of_visible hx) (by rw [hs]; exact hv'),
      items_comma_within hbl' (hsh.trans hu), hrest']
    simp

theorem members_walk {path : List String} {t r : List Char} {members : List (String × Json)}
    {marks : List Mark} :
    Members path t members marks r → ∀ (idx : SourceIndex) (fuel : Nat), t <:+ d →
      (∀ m ∈ marks, m.plainKey) → t.length < fuel + r.length →
      JsonText.members fuel path idx (within d t) = (recordMarks d idx marks, some (within d r))
  | @Members.last _ bl bl' t bl'' _ ps _ m hbl hps hbl' hv hbl'', idx, fuel, hsuf, hplain,
      hfuel => by
    have hkey : '"' :: texts ps ++ '"' :: bl' ++ ':' :: t =
        '"' :: (texts ps ++ '"' :: (bl' ++ ':' :: t)) := by simp
    have htext : bl ++ '"' :: texts ps ++ '"' :: bl' ++ ':' :: t =
        bl ++ '"' :: (texts ps ++ '"' :: (bl' ++ ':' :: t)) := by simp
    rw [htext] at hsuf hfuel ⊢
    rw [hkey]
    obtain ⟨hsh, hlt⟩ := Value.shrinks hv
    obtain ⟨f, rfl⟩ : ∃ f, fuel = f + 2 := ⟨fuel - 2, by simp at hfuel hlt; omega⟩
    have hq : '"' :: (texts ps ++ '"' :: (bl' ++ ':' :: t)) <:+ d :=
      (List.suffix_append _ _).trans hsuf
    have hcolon : bl' ++ ':' :: t <:+ d :=
      (((List.suffix_cons _ _).trans (List.suffix_append _ _)).trans (List.suffix_cons _ _)).trans hq
    have hval : t <:+ d := (List.suffix_cons _ _).trans ((List.suffix_append _ _).trans hcolon)
    have hs := skipBlank_close hsuf hbl (by decide)
    have hstr := string_within hps hq
    rw [string_key (hplain _ List.mem_cons_self)] at hstr
    have hv' := value_walk hv
      (idx.record (path ++ [decode ps]) (within d ('"' :: (texts ps ++ '"' :: (bl' ++ ':' :: t)))).here)
      (f + 1) hval (head_stop hbl'' (by decide))
      (fun m' hm' => hplain m' (List.mem_cons_of_mem _ hm')) (by simp at hfuel ⊢; omega)
    rw [members_member (by rw [hs]; rfl) (by rw [hs]; exact hstr)
      (by rw [skipBlank_close hcolon hbl' (by decide)]; exact bump_within ((List.suffix_append _ _).trans hcolon))
      (by rw [hs]; exact hv'),
      members_close_within hbl'' (hsh.trans hval)]
    rfl
  | @Members.cons _ bl bl' t bl'' t' _ ps _ m _ ms hbl hps hbl' hv hbl'' hrest, idx, fuel, hsuf,
      hplain, hfuel => by
    have hkey : '"' :: texts ps ++ '"' :: bl' ++ ':' :: t =
        '"' :: (texts ps ++ '"' :: (bl' ++ ':' :: t)) := by simp
    have htext : bl ++ '"' :: texts ps ++ '"' :: bl' ++ ':' :: t =
        bl ++ '"' :: (texts ps ++ '"' :: (bl' ++ ':' :: t)) := by simp
    rw [htext] at hsuf hfuel ⊢
    rw [hkey]
    obtain ⟨hsh, hlt⟩ := Value.shrinks hv
    have hrt := (Members.shrinks hrest).2
    obtain ⟨f, rfl⟩ : ∃ f, fuel = f + 2 := ⟨fuel - 2, by simp at hfuel hlt; omega⟩
    have hq : '"' :: (texts ps ++ '"' :: (bl' ++ ':' :: t)) <:+ d :=
      (List.suffix_append _ _).trans hsuf
    have hcolon : bl' ++ ':' :: t <:+ d :=
      (((List.suffix_cons _ _).trans (List.suffix_append _ _)).trans (List.suffix_cons _ _)).trans hq
    have hval : t <:+ d := (List.suffix_cons _ _).trans ((List.suffix_append _ _).trans hcolon)
    have hs := skipBlank_close hsuf hbl (by decide)
    have hstr := string_within hps hq
    rw [string_key (hplain _ List.mem_cons_self)] at hstr
    have hplain' : (∀ m' ∈ m, m'.plainKey) ∧ ∀ m' ∈ ms, m'.plainKey := by
      simpa [or_imp, forall_and] using fun m' hm' => hplain m' (List.mem_cons_of_mem _ hm')
    have hv' := value_walk hv
      (idx.record (path ++ [decode ps]) (within d ('"' :: (texts ps ++ '"' :: (bl' ++ ':' :: t)))).here)
      (f + 1) hval (head_stop hbl'' (by decide)) hplain'.1 (by simp at hfuel ⊢; omega)
    rw [members_member (by rw [hs]; rfl) (by rw [hs]; exact hstr)
      (by rw [skipBlank_close hcolon hbl' (by decide)]; exact bump_within ((List.suffix_append _ _).trans hcolon))
      (by rw [hs]; exact hv'),
      members_comma_within hbl'' (hsh.trans hval),
      members_walk hrest _ f ((List.suffix_cons _ _).trans ((List.suffix_append _ _).trans (hsh.trans hval)))
        hplain'.2 (by simp at hfuel hlt; omega)]
    simp

end

/-- The index of a text that is a value between blanks records its marks in order, each where
its text begins. -/
theorem scan_eq_recordMarks {s : String} {v : Json} {marks : List Mark} {r : List Char}
    (h : Value [] s.toList v marks r) (hr : ∀ c ∈ r, blank c)
    (hplain : ∀ m ∈ marks, m.plainKey) : scan s = recordMarks s.toList {} marks := by
  have hstart : (⟨s.toList, 1, 1⟩ : Cursor) = within s.toList s.toList := by
    simp [within, locationAfter]
  have hlen := (Value.shrinks h).2
  simp only [scan]
  rw [hstart, value_walk h {} _ (List.suffix_refl _)
    (fun x hx => blank_stop (hr x (List.mem_of_mem_head? hx))) hplain (by omega)]

end Walk

end Covenant.SourceIndex.JsonText
