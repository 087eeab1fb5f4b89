import Covenant.Proofs.Pointer.Index

/-!
# The grammar of JSON text

JSON text over characters, with where each member and each item begins. `Value path t v marks r`
says that the text `t` is blanks, then the text of the value `v`, then `r`; `path` is where `v`
sits in the whole document, and `marks` lists in document order every member and item below
`v`: its path, the text from where it begins (a member at its key's opening quote, an item at
its first character), and for a member how its key is written.

A string's text is a list of pieces, each standing for one character: the character itself, a
two-character escape, a `\u` escape outside the surrogates, or two `\u` escapes forming a
surrogate pair. A number is any run of the characters numbers are written with; which number it
is plays no part here. An object's value keeps each key at its first place with its last value,
as objects read from text do.
-/

namespace Covenant.Json.Grammar

/-- The blanks of JSON text: space, tab, line feed and carriage return. -/
def blank (c : Char) : Bool := c = ' ' || c = '\t' || c = '\n' || c = '\r'

/-- The characters numbers are written with. -/
def numberChar (c : Char) : Bool :=
  c.isDigit || c = '-' || c = '+' || c = '.' || c = 'e' || c = 'E'

/-- The value of a hex digit, in either case. -/
def hexDigit (c : Char) : Option Nat :=
  if c.isDigit then some (c.toNat - 48)
  else if 'a' ≤ c ∧ c ≤ 'f' then some (c.toNat - 87)
  else if 'A' ≤ c ∧ c ≤ 'F' then some (c.toNat - 55)
  else none

/-- The number four hex digits write. -/
def hex4 : List Char → Option Nat
  | [a, b, c, d] => do
    return (((← hexDigit a) * 16 + (← hexDigit b)) * 16 + (← hexDigit c)) * 16 + (← hexDigit d)
  | _ => none

/-- The character a two-character escape stands for. -/
def escaped : Char → Option Char
  | '"' => some '"'
  | '\\' => some '\\'
  | '/' => some '/'
  | 'b' => some (Char.ofNat 8)
  | 'f' => some (Char.ofNat 12)
  | 'n' => some '\n'
  | 'r' => some '\r'
  | 't' => some '\t'
  | _ => none

/-- A piece of a string's text between its quotes. -/
inductive Piece where
  /-- A character standing for itself. -/
  | raw (c : Char)
  /-- A backslash and the letter of a two-character escape. -/
  | escape (e : Char)
  /-- `\u` and four hex digits writing `code`. -/
  | unicode (digits : List Char) (code : Nat)
  /-- Two `\u` escapes writing a leading surrogate `hi` and a trailing one `lo`. -/
  | pair (lead trail : List Char) (hi lo : Nat)

namespace Piece

/-- The characters of a piece as written. -/
def text : Piece → List Char
  | .raw c => [c]
  | .escape e => ['\\', e]
  | .unicode digits _ => '\\' :: 'u' :: digits
  | .pair lead trail _ _ => '\\' :: 'u' :: lead ++ '\\' :: 'u' :: trail

/-- The character a piece stands for. -/
def char : Piece → Char
  | .raw c => c
  | .escape e => (escaped e).getD e
  | .unicode _ code => Char.ofNat code
  | .pair _ _ hi lo => Char.ofNat (0x10000 + (hi - 0xD800) * 0x400 + (lo - 0xDC00))

/-- Whether a piece is a surrogate pair. -/
def isPair : Piece → Bool
  | .pair .. => true
  | _ => false

/-- A piece as JSON allows it: no quote, backslash or control character standing for itself,
known escapes, and `\u` escapes that are hex and outside the surrogates or a well-formed
pair. -/
def Valid : Piece → Prop
  | .raw c => c ≠ '"' ∧ c ≠ '\\' ∧ 0x20 ≤ c.toNat
  | .escape e => (escaped e).isSome
  | .unicode digits code => hex4 digits = some code ∧ (code < 0xD800 ∨ 0xDFFF < code)
  | .pair lead trail hi lo => hex4 lead = some hi ∧ hex4 trail = some lo ∧
      0xD800 ≤ hi ∧ hi ≤ 0xDBFF ∧ 0xDC00 ≤ lo ∧ lo ≤ 0xDFFF

end Piece

/-- The text of a list of pieces. -/
def texts (ps : List Piece) : List Char := ps.flatMap Piece.text

@[simp] theorem texts_nil : texts [] = [] := rfl

@[simp] theorem texts_cons (p : Piece) (ps : List Piece) : texts (p :: ps) = p.text ++ texts ps :=
  rfl

/-- The string a list of pieces stands for. -/
def decode (ps : List Piece) : String := String.ofList (ps.map Piece.char)

/-- Where a member or an item begins: its path, the text from its key's opening quote or its
first character on, and for a member the pieces of its key. -/
structure Mark where
  path : List String
  rest : List Char
  key : Option (List Piece)

/-- Whether a mark's key, if it has one, is written without surrogate pairs. -/
def Mark.plainKey (m : Mark) : Bool := m.key.all fun ps => ps.all fun p => !p.isPair

/-- The members of an object in text order, each key kept at its first place with its last
value. -/
def collect (members : List (String × Json)) : List (String × Json) :=
  members.foldl (fun acc m => setField acc m.1 m.2) []

mutual

/-- Blanks, then the text of a value. -/
inductive Value : List String → List Char → Json → List Mark → List Char → Prop
  | blanks {path : List String} {bl u r : List Char} {v : Json} {marks : List Mark}
      (hbl : ∀ c ∈ bl, blank c) (h : Token path u v marks r) : Value path (bl ++ u) v marks r

/-- The text of a value, from its first character. -/
inductive Token : List String → List Char → Json → List Mark → List Char → Prop
  | null {path : List String} {r : List Char} : Token path ('n' :: 'u' :: 'l' :: 'l' :: r) .null [] r
  | true {path : List String} {r : List Char} :
      Token path ('t' :: 'r' :: 'u' :: 'e' :: r) (.bool true) [] r
  | false {path : List String} {r : List Char} :
      Token path ('f' :: 'a' :: 'l' :: 's' :: 'e' :: r) (.bool false) [] r
  | number {path : List String} {tok r : List Char} {n : Number} (hne : tok ≠ [])
      (htok : ∀ c ∈ tok, numberChar c) : Token path (tok ++ r) (.num n) [] r
  | string {path : List String} {ps : List Piece} {r : List Char} (hps : ∀ p ∈ ps, p.Valid) :
      Token path ('"' :: texts ps ++ '"' :: r) (.str (decode ps)) [] r
  | emptyArray {path : List String} {bl r : List Char} (hbl : ∀ c ∈ bl, blank c) :
      Token path ('[' :: bl ++ ']' :: r) (.arr []) [] r
  | array {path : List String} {t r : List Char} {items : List Json} {marks : List Mark}
      (h : Items path 0 t items marks r) : Token path ('[' :: t) (.arr items) marks r
  | emptyObject {path : List String} {bl r : List Char} (hbl : ∀ c ∈ bl, blank c) :
      Token path ('{' :: bl ++ '}' :: r) (.obj []) [] r
  | object {path : List String} {t r : List Char} {members : List (String × Json)}
      {marks : List Mark} (h : Members path t members marks r) :
      Token path ('{' :: t) (.obj (collect members)) marks r

/-- The items of an array from the `i`-th on, each after blanks, and the closing bracket. -/
inductive Items : List String → Nat → List Char → List Json → List Mark → List Char → Prop
  | last {path : List String} {i : Nat} {bl u bl' r : List Char} {v : Json} {m : List Mark}
      (hbl : ∀ c ∈ bl, blank c) (hv : Token (path ++ [toString i]) u v m (bl' ++ ']' :: r))
      (hbl' : ∀ c ∈ bl', blank c) :
      Items path i (bl ++ u) [v] (⟨path ++ [toString i], u, none⟩ :: m) r
  | cons {path : List String} {i : Nat} {bl u bl' t r : List Char} {v : Json} {m : List Mark}
      {items : List Json} {ms : List Mark}
      (hbl : ∀ c ∈ bl, blank c) (hv : Token (path ++ [toString i]) u v m (bl' ++ ',' :: t))
      (hbl' : ∀ c ∈ bl', blank c) (hrest : Items path (i + 1) t items ms r) :
      Items path i (bl ++ u) (v :: items) (⟨path ++ [toString i], u, none⟩ :: m ++ ms) r

/-- The members of an object, each a key, a colon and a value, and the closing brace. -/
inductive Members : List String → List Char → List (String × Json) → List Mark → List Char →
    Prop
  | last {path : List String} {bl bl' t bl'' r : List Char} {ps : List Piece} {v : Json}
      {m : List Mark} (hbl : ∀ c ∈ bl, blank c) (hps : ∀ p ∈ ps, p.Valid)
      (hbl' : ∀ c ∈ bl', blank c) (hv : Value (path ++ [decode ps]) t v m (bl'' ++ '}' :: r))
      (hbl'' : ∀ c ∈ bl'', blank c) :
      Members path (bl ++ '"' :: texts ps ++ '"' :: bl' ++ ':' :: t) [(decode ps, v)]
        (⟨path ++ [decode ps], '"' :: texts ps ++ '"' :: bl' ++ ':' :: t, some ps⟩ :: m) r
  | cons {path : List String} {bl bl' t bl'' t' r : List Char} {ps : List Piece} {v : Json}
      {m : List Mark} {members : List (String × Json)} {ms : List Mark}
      (hbl : ∀ c ∈ bl, blank c) (hps : ∀ p ∈ ps, p.Valid)
      (hbl' : ∀ c ∈ bl', blank c) (hv : Value (path ++ [decode ps]) t v m (bl'' ++ ',' :: t'))
      (hbl'' : ∀ c ∈ bl'', blank c) (hrest : Members path t' members ms r) :
      Members path (bl ++ '"' :: texts ps ++ '"' :: bl' ++ ':' :: t) ((decode ps, v) :: members)
        (⟨path ++ [decode ps], '"' :: texts ps ++ '"' :: bl' ++ ':' :: t, some ps⟩ :: m ++ ms) r

end

section Shrinks

theorem shrinks_trans {t u r : List Char} (hu : u <:+ t) (hr : r <:+ u ∧ r.length < u.length) :
    r <:+ t ∧ r.length < t.length :=
  ⟨hr.1.trans hu, Nat.lt_of_lt_of_le hr.2 hu.length_le⟩

theorem shrinks_append {pre r : List Char} (hne : pre ≠ []) :
    r <:+ pre ++ r ∧ r.length < (pre ++ r).length :=
  ⟨List.suffix_append _ _, by simpa using List.length_pos_iff.mpr hne⟩

theorem shrinks_close (pre : List Char) (x : Char) (r : List Char) :
    r <:+ pre ++ x :: r ∧ r.length < (pre ++ x :: r).length :=
  ⟨(List.suffix_cons x r).trans (List.suffix_append _ _), by simp; omega⟩

mutual

/-- What follows a value is a proper end of its text. -/
theorem Value.shrinks {path : List String} {t r : List Char} {v : Json} {marks : List Mark} :
    Value path t v marks r → r <:+ t ∧ r.length < t.length
  | .blanks _ h => shrinks_trans (List.suffix_append _ _) (Token.shrinks h)

theorem Token.shrinks {path : List String} {t r : List Char} {v : Json} {marks : List Mark} :
    Token path t v marks r → r <:+ t ∧ r.length < t.length
  | .null => shrinks_close ['n', 'u', 'l'] 'l' _
  | .true => shrinks_close ['t', 'r', 'u'] 'e' _
  | .false => shrinks_close ['f', 'a', 'l', 's'] 'e' _
  | .string _ => shrinks_close ('"' :: _) '"' _
  | .emptyArray _ => shrinks_close ('[' :: _) ']' _
  | .emptyObject _ => shrinks_close ('{' :: _) '}' _
  | .number hne _ => shrinks_append hne
  | .array h => shrinks_trans (List.suffix_cons _ _) (Items.shrinks h)
  | .object h => shrinks_trans (List.suffix_cons _ _) (Members.shrinks h)

theorem Items.shrinks {path : List String} {i : Nat} {t r : List Char} {items : List Json}
    {marks : List Mark} : Items path i t items marks r → r <:+ t ∧ r.length < t.length
  | .last _ hv _ =>
    shrinks_trans ((Token.shrinks hv).1.trans (List.suffix_append _ _))
      (shrinks_close _ ']' _)
  | .cons _ hv _ hrest =>
    shrinks_trans ((Token.shrinks hv).1.trans (List.suffix_append _ _))
      (shrinks_trans (shrinks_close _ ',' _).1 (Items.shrinks hrest))

theorem Members.shrinks {path : List String} {t r : List Char}
    {members : List (String × Json)} {marks : List Mark} :
    Members path t members marks r → r <:+ t ∧ r.length < t.length
  | .last _ _ _ hv _ =>
    shrinks_trans (((Value.shrinks hv).1.trans (List.suffix_cons _ _)).trans
        (List.suffix_append _ _))
      (shrinks_close _ '}' _)
  | .cons _ _ _ hv _ hrest =>
    shrinks_trans (((Value.shrinks hv).1.trans (List.suffix_cons _ _)).trans
        (List.suffix_append _ _))
      (shrinks_trans (shrinks_close _ ',' _).1 (Members.shrinks hrest))

end

end Shrinks

/-! ## What the marks address

Every mark below a value at `path` has a longer path (`Token.marks_below`), and when no two
marks share a path, that is, no object repeats a key, the paths of the marks are exactly the
pointers that reach something inside the value (`Token.marks_address`). -/

section Marks

mutual

theorem Value.marks_below {path : List String} {t r : List Char} {v : Json} {marks : List Mark} :
    Value path t v marks r → ∀ m ∈ marks, ∃ k q, m.path = path ++ k :: q
  | .blanks _ h => Token.marks_below h

theorem Token.marks_below {path : List String} {u r : List Char} {v : Json} {marks : List Mark} :
    Token path u v marks r → ∀ m ∈ marks, ∃ k q, m.path = path ++ k :: q
  | .null | .true | .false | .number _ _ | .string _ | .emptyArray _ | .emptyObject _ => by simp
  | .array h => Items.marks_below h
  | .object h => Members.marks_below h

theorem Items.marks_below {path : List String} {i : Nat} {t r : List Char} {vs : List Json}
    {marks : List Mark} : Items path i t vs marks r → ∀ m ∈ marks, ∃ k q, m.path = path ++ k :: q
  | .last _ hv _ => by
    intro m hm
    rcases List.mem_cons.mp hm with rfl | hm
    · exact ⟨_, [], rfl⟩
    · obtain ⟨k, q, hk⟩ := Token.marks_below hv m hm
      exact ⟨_, k :: q, hk.trans (List.append_assoc _ _ _)⟩
  | .cons _ hv _ hrest => by
    intro m hm
    simp only [List.cons_append, List.mem_cons, List.mem_append] at hm
    rcases hm with rfl | hm | hm
    · exact ⟨_, [], rfl⟩
    · obtain ⟨k, q, hk⟩ := Token.marks_below hv m hm
      exact ⟨_, k :: q, hk.trans (List.append_assoc _ _ _)⟩
    · exact Items.marks_below hrest m hm

theorem Members.marks_below {path : List String} {t r : List Char}
    {members : List (String × Json)} {marks : List Mark} :
    Members path t members marks r → ∀ m ∈ marks, ∃ k q, m.path = path ++ k :: q
  | .last _ _ _ hv _ => by
    intro m hm
    rcases List.mem_cons.mp hm with rfl | hm
    · exact ⟨_, [], rfl⟩
    · obtain ⟨k, q, hk⟩ := Value.marks_below hv m hm
      exact ⟨_, k :: q, hk.trans (List.append_assoc _ _ _)⟩
  | .cons _ _ _ hv _ hrest => by
    intro m hm
    simp only [List.cons_append, List.mem_cons, List.mem_append] at hm
    rcases hm with rfl | hm | hm
    · exact ⟨_, [], rfl⟩
    · obtain ⟨k, q, hk⟩ := Value.marks_below hv m hm
      exact ⟨_, k :: q, hk.trans (List.append_assoc _ _ _)⟩
    · exact Members.marks_below hrest m hm

end

/-- A member's text from its key's opening quote, and its value's text, are ends of the
member's text. -/
theorem member_suffixes {bl bl' t : List Char} {ps : List Piece} :
    '"' :: texts ps ++ '"' :: bl' ++ ':' :: t <:+ bl ++ '"' :: texts ps ++ '"' :: bl' ++ ':' :: t ∧
      t <:+ bl ++ '"' :: texts ps ++ '"' :: bl' ++ ':' :: t :=
  ⟨⟨bl, by simp⟩, ⟨bl ++ '"' :: texts ps ++ '"' :: bl' ++ [':'], by simp⟩⟩

mutual

theorem Value.marks_within {path : List String} {t r : List Char} {v : Json} {marks : List Mark} :
    Value path t v marks r → ∀ m ∈ marks, m.rest <:+ t
  | .blanks _ h => fun m hm => (Token.marks_within h m hm).trans (List.suffix_append _ _)

theorem Token.marks_within {path : List String} {u r : List Char} {v : Json} {marks : List Mark} :
    Token path u v marks r → ∀ m ∈ marks, m.rest <:+ u
  | .null | .true | .false | .number _ _ | .string _ | .emptyArray _ | .emptyObject _ => by simp
  | .array h => fun m hm => (Items.marks_within h m hm).trans (List.suffix_cons _ _)
  | .object h => fun m hm => (Members.marks_within h m hm).trans (List.suffix_cons _ _)

theorem Items.marks_within {path : List String} {i : Nat} {t r : List Char} {vs : List Json}
    {marks : List Mark} : Items path i t vs marks r → ∀ m ∈ marks, m.rest <:+ t
  | .last _ hv _ => by
    intro m hm
    rcases List.mem_cons.mp hm with rfl | hm
    · exact List.suffix_append _ _
    · exact (Token.marks_within hv m hm).trans (List.suffix_append _ _)
  | .cons _ hv _ hrest => by
    intro m hm
    simp only [List.cons_append, List.mem_cons, List.mem_append] at hm
    rcases hm with rfl | hm | hm
    · exact List.suffix_append _ _
    · exact (Token.marks_within hv m hm).trans (List.suffix_append _ _)
    · exact ((Items.marks_within hrest m hm).trans
        ((List.suffix_cons _ _).trans (List.suffix_append _ _))).trans
        (((Token.shrinks hv).1).trans (List.suffix_append _ _))

theorem Members.marks_within {path : List String} {t r : List Char}
    {members : List (String × Json)} {marks : List Mark} :
    Members path t members marks r → ∀ m ∈ marks, m.rest <:+ t
  | .last _ _ _ hv _ => by
    intro m hm
    rcases List.mem_cons.mp hm with rfl | hm
    · exact member_suffixes.1
    · exact (Value.marks_within hv m hm).trans member_suffixes.2
  | .cons _ _ _ hv _ hrest => by
    intro m hm
    simp only [List.cons_append, List.mem_cons, List.mem_append] at hm
    rcases hm with rfl | hm | hm
    · exact member_suffixes.1
    · exact (Value.marks_within hv m hm).trans member_suffixes.2
    · exact ((Members.marks_within hrest m hm).trans
        ((List.suffix_cons _ _).trans (List.suffix_append _ _))).trans
        ((Value.shrinks hv).1.trans member_suffixes.2)

end

/-- Setting keys that are all new appends the members in order. -/
theorem foldl_setField_of_nodup : ∀ (acc ms : List (String × Json)),
    ((acc ++ ms).map Prod.fst).Nodup → ms.foldl (fun acc m => setField acc m.1 m.2) acc = acc ++ ms
  | acc, [], _ => by simp
  | acc, m :: ms, h => by
    have hnew : m.1 ∉ acc.map Prod.fst := by
      intro hm
      simp only [List.map_append, List.map_cons] at h
      exact (List.nodup_append.mp h).2.2 _ hm _ List.mem_cons_self rfl
    have hany : acc.any (fun p => p.1 == m.1) = false := by
      simpa using fun p hp (he : p.1 = m.1) => hnew (List.mem_map.mpr ⟨p, hp, he⟩)
    rw [List.foldl_cons, setField, if_neg (by simp [hany]),
      foldl_setField_of_nodup (acc ++ [m]) ms (by simpa using h)]
    simp

/-- Members with distinct keys are collected as they are. -/
theorem collect_of_nodup {members : List (String × Json)} (h : (members.map Prod.fst).Nodup) :
    collect members = members :=
  foldl_setField_of_nodup [] members (by simpa using h)

/-- In a list of pairs with distinct keys, the first pair with a key holds its one value. -/
theorem find?_key_eq_some_iff {α β : Type} [BEq α] [LawfulBEq α] :
    ∀ {es : List (α × β)}, (es.map Prod.fst).Nodup → ∀ {a : α} {b : β},
      (es.find? (fun e => e.1 == a)).map (·.2) = some b ↔ (a, b) ∈ es
  | [], _, _, _ => by simp
  | (a', b') :: rest, h, a, b => by
    have hnotin : a' ∉ rest.map Prod.fst := (List.nodup_cons.mp h).1
    have ih := @find?_key_eq_some_iff α β _ _ rest (List.nodup_cons.mp h).2 a b
    by_cases ha : a' = a
    · subst ha
      have hrest : (a', b) ∉ rest := fun hm => hnotin (List.mem_map.mpr ⟨_, hm, rfl⟩)
      simp [hrest, eq_comm]
    · have hbeq : (a' == a) = false := by simpa using ha
      simp only [List.find?_cons, hbeq, List.mem_cons, Prod.mk.injEq, Ne.symm ha, false_and,
        false_or] at ih ⊢
      exact ih

/-- In an object with distinct keys, a key's value is the value of its member. -/
theorem get?_obj_of_nodup {fields : List (String × Json)} (h : (fields.map Prod.fst).Nodup)
    {k : String} {w : Json} : (Json.obj fields).get? k = some w ↔ (k, w) ∈ fields :=
  find?_key_eq_some_iff h

/-- Marks below `path ++ [x]` reach `path ++ k :: q` only through `k = x`. -/
theorem exists_mark_below {path : List String} {x k : String} {q : List String}
    {m : List Mark} (hbelow : ∀ mk ∈ m, ∃ k' q', mk.path = path ++ [x] ++ k' :: q') :
    (∃ mk ∈ m, mk.path = path ++ k :: q) ↔ k = x ∧ ∃ mk ∈ m, mk.path = path ++ [x] ++ q := by
  constructor
  · rintro ⟨mk, hmk, hpath⟩
    obtain ⟨k', q', hk'⟩ := hbelow mk hmk
    rw [hk', List.append_assoc, List.append_cancel_left_eq, List.singleton_append,
      List.cons.injEq] at hpath
    obtain ⟨rfl, rfl⟩ := hpath
    exact ⟨rfl, mk, hmk, hk'⟩
  · rintro ⟨rfl, mk, hmk, hpath⟩
    exact ⟨mk, hmk, by simp [hpath]⟩

/-- The marks of one member or item at `path ++ [x]`, its own and those below it, reach the
pointers `x :: q` for which the entry's value reaches `q`. -/
theorem entry_marks_iff {path : List String} {x : String} {rest : List Char}
    {key : Option (List Piece)} {m : List Mark} {v : Json}
    (hbelow : ∀ mk ∈ m, ∃ k' q', mk.path = path ++ [x] ++ k' :: q')
    (hsub : ∀ q, (∃ mk ∈ m, mk.path = path ++ [x] ++ q) ↔ q ≠ [] ∧ (Pointer.walk v q).isSome)
    (k : String) (q : List String) :
    (∃ mk ∈ (⟨path ++ [x], rest, key⟩ : Mark) :: m, mk.path = path ++ k :: q) ↔
      k = x ∧ (Pointer.walk v q).isSome := by
  simp only [List.mem_cons, or_and_right, exists_or, exists_eq_left]
  rw [exists_mark_below hbelow, hsub]
  cases q with
  | nil => simp [Pointer.walk, eq_comm]
  | cons k' q => simp

theorem isSome_bind_iff {α β : Type} {o : Option α} {f : α → Option β} :
    (o.bind f).isSome ↔ ∃ a, o = some a ∧ (f a).isSome := by
  cases o <;> simp

mutual

/-- Without repeated keys, the marks below a value are exactly the pointers into it. -/
theorem Value.marks_address {path : List String} {t r : List Char} {v : Json}
    {marks : List Mark} : Value path t v marks r → (marks.map Mark.path).Nodup → ∀ q,
      ((∃ m ∈ marks, m.path = path ++ q) ↔ q ≠ [] ∧ (Pointer.walk v q).isSome)
  | .blanks _ h, hnd, q => Token.marks_address h hnd q

theorem Token.marks_address {path : List String} {u r : List Char} {v : Json}
    {marks : List Mark} : Token path u v marks r → (marks.map Mark.path).Nodup → ∀ q,
      ((∃ m ∈ marks, m.path = path ++ q) ↔ q ≠ [] ∧ (Pointer.walk v q).isSome)
  | .null, _, q | .true, _, q | .false, _, q | .number _ _, _, q | .string _, _, q
  | .emptyArray _, _, q | .emptyObject _, _, q => by cases q <;> simp [Pointer.walk, Json.get?]
  | .array h, hnd, q => by
    cases q with
    | nil =>
      simp only [List.append_nil, ne_eq, not_true_eq_false, false_and, iff_false]
      rintro ⟨m, hm, hpath⟩
      obtain ⟨k, q, hk⟩ := Items.marks_below h m hm
      simp [hpath] at hk
    | cons k q =>
      rw [Items.marks_address h hnd k q]
      simp [Pointer.walk, isSome_bind_iff, Pointer.parseIndex_eq_some_iff]
  | .object h, hnd, q => by
    obtain ⟨hkeys, hiff⟩ := Members.marks_address h hnd
    rw [collect_of_nodup hkeys]
    cases q with
    | nil =>
      simp only [List.append_nil, ne_eq, not_true_eq_false, false_and, iff_false]
      rintro ⟨m, hm, hpath⟩
      obtain ⟨k, q, hk⟩ := Members.marks_below h m hm
      simp [hpath] at hk
    | cons k q =>
      rw [hiff k q]
      simp [Pointer.walk, isSome_bind_iff, get?_obj_of_nodup hkeys]

theorem Items.marks_address {path : List String} {i : Nat} {t r : List Char} {vs : List Json}
    {marks : List Mark} : Items path i t vs marks r → (marks.map Mark.path).Nodup → ∀ k q,
      ((∃ m ∈ marks, m.path = path ++ k :: q) ↔
        ∃ j, k = toString (i + j) ∧ ∃ w, vs[j]? = some w ∧ (Pointer.walk w q).isSome)
  | .last _ hv _, hnd, k, q => by
    rw [entry_marks_iff (Token.marks_below hv)
      (Token.marks_address hv (List.nodup_cons.mp hnd).2) k q]
    constructor
    · rintro ⟨rfl, hw⟩
      exact ⟨0, rfl, _, rfl, hw⟩
    · rintro ⟨j, rfl, w, hj, hw⟩
      cases j with
      | zero =>
        obtain rfl : _ = w := by simpa using hj
        exact ⟨rfl, hw⟩
      | succ j => simp at hj
  | .cons _ hv _ hrest, hnd, k, q => by
    simp only [List.cons_append, List.map_cons, List.map_append] at hnd
    have hnd' := List.nodup_append.mp (List.nodup_cons.mp hnd).2
    simp only [List.mem_append, or_and_right, exists_or]
    rw [entry_marks_iff (Token.marks_below hv) (Token.marks_address hv hnd'.1) k q,
      Items.marks_address hrest hnd'.2.1 k q]
    constructor
    · rintro (⟨rfl, hw⟩ | ⟨j, rfl, w, hj, hw⟩)
      · exact ⟨0, rfl, _, rfl, hw⟩
      · exact ⟨j + 1, by rw [Nat.add_right_comm, Nat.add_assoc], w, hj, hw⟩
    · rintro ⟨j, rfl, w, hj, hw⟩
      cases j with
      | zero =>
        obtain rfl : _ = w := by simpa using hj
        exact .inl ⟨rfl, hw⟩
      | succ j => exact .inr ⟨j, by rw [Nat.add_right_comm, Nat.add_assoc], w, hj, hw⟩

theorem Members.marks_address {path : List String} {t r : List Char}
    {members : List (String × Json)} {marks : List Mark} :
    Members path t members marks r → (marks.map Mark.path).Nodup →
      (members.map Prod.fst).Nodup ∧ ∀ k q, ((∃ m ∈ marks, m.path = path ++ k :: q) ↔
        ∃ w, (k, w) ∈ members ∧ (Pointer.walk w q).isSome)
  | .last _ _ _ hv _, hnd => by
    refine ⟨by simp, fun k q => ?_⟩
    rw [entry_marks_iff (Value.marks_below hv)
      (Value.marks_address hv (List.nodup_cons.mp hnd).2) k q]
    simp
  | .cons _ _ _ hv _ hrest, hnd => by
    simp only [List.cons_append, List.map_cons, List.map_append] at hnd
    obtain ⟨hhead, hnd'⟩ := List.nodup_cons.mp hnd
    have hsplit := List.nodup_append.mp hnd'
    obtain ⟨hkeys, hiff⟩ := Members.marks_address hrest hsplit.2.1
    refine ⟨List.nodup_cons.mpr ⟨?_, hkeys⟩, fun k q => ?_⟩
    · -- a repeated key would give a second mark at the key's path
      intro hmem
      obtain ⟨⟨k', w⟩, hw, hk'⟩ := List.mem_map.mp hmem
      simp only at hk'
      subst hk'
      obtain ⟨mk, hmk, hpath⟩ := (hiff _ []).mpr ⟨w, hw, by simp [Pointer.walk]⟩
      exact hhead (List.mem_append_right _ (List.mem_map.mpr ⟨mk, hmk, hpath⟩))
    · simp only [List.mem_append, or_and_right, exists_or]
      rw [entry_marks_iff (Value.marks_below hv) (Value.marks_address hv hsplit.1) k q, hiff k q]
      simp [or_and_right, exists_or, and_assoc]

end

end Marks

end Covenant.Json.Grammar
