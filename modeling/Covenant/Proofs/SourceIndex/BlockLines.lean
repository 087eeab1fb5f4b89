import Covenant.SourceIndex.Scan
import Covenant.Proofs.Yaml.Layout
import Covenant.Proofs.Text.Lines
import Covenant.Yaml.Token

/-!
# Block lines as entries

The lines the block renderer writes, read back by the block scanner's line walk: a row of
leading `- ` items, then a plain key with the rest of its line or a scalar, gives one entry per
item and one for the key or scalar, with the columns the row was laid out at. `Plain` is the
grammar of a one-line plain scalar the scanner reads back unchanged as a key.
-/

namespace Covenant.SourceIndex.Block

open Yaml.Layout (Lead Row rowsText)

/-- A one-line plain scalar, usable as a key. -/
structure Plain (s : String) : Prop where
  nonempty : s.toList ≠ []
  first : ∀ c ∈ s.toList.head?, Yaml.Scan.isIndicator c = false ∧ Text.isBlank c = false
  last : ∀ c ∈ s.toList.getLast?, Text.isBlank c = false ∧ c ≠ ':'
  oneLine : ∀ c ∈ s.toList, Yaml.Scan.isBreakChar c = false
  noValue : ¬ [':', ' '] <:+: s.toList ∧ ¬ [':', '\t'] <:+: s.toList
  noComment : ¬ [' ', '#'] <:+: s.toList ∧ ¬ ['\t', '#'] <:+: s.toList
  noEnd : ¬ ['.', '.', '.'] <+: s.toList

instance (s : String) : Decidable (Plain s) :=
  decidable_of_iff (s.toList ≠ [] ∧
      (∀ c ∈ s.toList.head?, Yaml.Scan.isIndicator c = false ∧ Text.isBlank c = false) ∧
      (∀ c ∈ s.toList.getLast?, Text.isBlank c = false ∧ c ≠ ':') ∧
      (∀ c ∈ s.toList, Yaml.Scan.isBreakChar c = false) ∧
      (¬ [':', ' '] <:+: s.toList ∧ ¬ [':', '\t'] <:+: s.toList) ∧
      (¬ [' ', '#'] <:+: s.toList ∧ ¬ ['\t', '#'] <:+: s.toList) ∧
      ¬ ['.', '.', '.'] <+: s.toList)
    ⟨fun ⟨h1, h2, h3, h4, h5, h6, h7⟩ => ⟨h1, h2, h3, h4, h5, h6, h7⟩,
      fun ⟨h1, h2, h3, h4, h5, h6, h7⟩ => ⟨h1, h2, h3, h4, h5, h6, h7⟩⟩

/-- The characters no plain scalar starts with include those the scanner reads specially. -/
theorem ne_of_isIndicator {c : Char} (h : Yaml.Scan.isIndicator c = false) :
    c ≠ '"' ∧ c ≠ '\'' ∧ c ≠ '-' ∧ c ≠ '#' ∧
      ¬ (c = '\x7b' ∨ c = '[' ∨ c = '|' ∨ c = '>' ∨ c = '&' ∨ c = '*' ∨ c = '!' ∨ c = '?') := by
  -- an indicator is a character of the scanner's list of them
  have hout : ∀ x ∈ "-?:,[]\x7b\x7d#&*!|>'\"%@`".toList, c ≠ x := by
    rintro x hx rfl
    simp only [Yaml.Scan.isIndicator, List.contains_eq_mem, decide_eq_false_iff_not] at h
    exact h hx
  refine ⟨hout _ (by simp), hout _ (by simp), hout _ (by simp), hout _ (by simp), ?_⟩
  rintro (rfl | rfl | rfl | rfl | rfl | rfl | rfl | rfl) <;> exact hout _ (by simp) rfl

theorem Plain.head {s : String} (hs : Plain s) : ∃ c cs, s.toList = c :: cs ∧
    c ≠ '"' ∧ c ≠ '\'' ∧ c ≠ '-' ∧ c ≠ '#' ∧ c ≠ ' ' ∧ Text.isBlank c = false ∧
      ¬ (c = '\x7b' ∨ c = '[' ∨ c = '|' ∨ c = '>' ∨ c = '&' ∨ c = '*' ∨ c = '!' ∨ c = '?') := by
  obtain ⟨c, cs, hcs⟩ := List.exists_cons_of_ne_nil hs.nonempty
  obtain ⟨hind, hblank⟩ := hs.first c (by simp [hcs])
  obtain ⟨h1, h2, h3, h4, h5⟩ := ne_of_isIndicator hind
  exact ⟨c, cs, hcs, h1, h2, h3, h4, by rintro rfl; exact absurd hblank (by decide), hblank, h5⟩

/-- A letter is none of the characters a plain scalar reads specially. -/
theorem letter_plainChar {c : Char} (h : c.isAlpha) :
    Yaml.Scan.isIndicator c = false ∧ Text.isBlank c = false ∧
      Yaml.Scan.isBreakChar c = false ∧ c ∉ [':', ' ', '\t', '.'] := by
  simp only [Char.isAlpha, Char.isUpper, Char.isLower, Bool.or_eq_true, Bool.and_eq_true,
    decide_eq_true_eq] at h
  have hrange : (65 ≤ c.toNat ∧ c.toNat ≤ 90) ∨ (97 ≤ c.toNat ∧ c.toNat ≤ 122) := by
    rcases h with ⟨h1, h2⟩ | ⟨h1, h2⟩
    · exact .inl ⟨UInt32.le_iff_toNat_le.mp h1, UInt32.le_iff_toNat_le.mp h2⟩
    · exact .inr ⟨UInt32.le_iff_toNat_le.mp h1, UInt32.le_iff_toNat_le.mp h2⟩
  -- every character a plain scalar treats specially lies outside both ranges of letters
  have hne : ∀ y : Char, (y.toNat < 65 ∨ (90 < y.toNat ∧ y.toNat < 97) ∨ 122 < y.toNat) →
      c ≠ y := by
    rintro y hy rfl
    omega
  refine ⟨?_, ?_, ?_, fun hmem => ?_⟩
  · have hall : ∀ y ∈ "-?:,[]\x7b\x7d#&*!|>'\"%@`".toList,
        y.toNat < 65 ∨ (90 < y.toNat ∧ y.toNat < 97) ∨ 122 < y.toNat := by
      simp
    simp only [Yaml.Scan.isIndicator, List.contains_eq_mem, decide_eq_false_iff_not]
    exact fun hmem => hne c (hall c hmem) rfl
  · simp only [Text.isBlank, Bool.or_eq_false_iff, Bool.and_eq_false_iff, beq_eq_false_iff_ne,
      decide_eq_false_iff_not]
    omega
  · simp only [Yaml.Scan.isBreakChar, Bool.or_eq_false_iff, decide_eq_false_iff_not,
      hne '\r' (by decide), hne '\n' (by decide), not_false_eq_true, true_and]
    omega
  · simp only [List.mem_cons, List.not_mem_nil, or_false] at hmem
    rcases hmem with rfl | rfl | rfl | rfl <;> exact hne _ (by decide) rfl

/-- A word of letters is a plain scalar. -/
theorem Plain.of_letters {s : String} (hne : s.toList ≠ []) (h : ∀ c ∈ s.toList, c.isAlpha) :
    Plain s := by
  have hfacts := fun c hc => letter_plainChar (h c hc)
  -- a colon, a blank or a dot would be a character of the word
  have hout : ∀ x ∈ [':', ' ', '\t', '.'], x ∉ s.toList :=
    fun x hx hmem => (hfacts x hmem).2.2.2 hx
  refine ⟨hne, fun c hc => ?_, fun c hc => ?_, fun c hc => (hfacts c hc).2.2.1, ?_, ?_, ?_⟩
  · obtain ⟨hind, hblank, -⟩ := hfacts c (List.mem_of_mem_head? hc)
    exact ⟨hind, hblank⟩
  · obtain ⟨-, hblank, -, hother⟩ := hfacts c (List.mem_of_mem_getLast? hc)
    exact ⟨hblank, fun hcolon => hother (by simp [hcolon])⟩
  · exact ⟨fun hi => hout ':' (by simp) (hi.subset (by simp)),
      fun hi => hout ':' (by simp) (hi.subset (by simp))⟩
  · exact ⟨fun hi => hout ' ' (by simp) (hi.subset (by simp)),
      fun hi => hout '\t' (by simp) (hi.subset (by simp))⟩
  · exact fun hp => hout '.' (by simp) (hp.subset (by simp))

theorem findPair_eq_none {a b : Char} : ∀ {xs : List Char} (i : Nat), ¬ [a, b] <:+: xs →
    findPair a b xs i = none
  | [], _, _ => rfl
  | [_], _, _ => rfl
  | x :: y :: rest, i, h => by
    have hxy : ¬ (x = a ∧ y = b) := by
      rintro ⟨rfl, rfl⟩
      exact h ⟨[], rest, rfl⟩
    rw [findPair, if_neg hxy]
    exact findPair_eq_none (i + 1) fun hin => h (hin.trans (List.suffix_cons x _).isInfix)

theorem findPair_append {a b : Char} {ys : List Char} : ∀ {xs : List Char} (i : Nat),
    ¬ [a, b] <:+: xs ++ [a] → findPair a b (xs ++ a :: b :: ys) i = some (i + xs.length)
  | [], i, _ => by simp [findPair]
  | [x], i, h => by
    have hxa : ¬ (x = a ∧ a = b) := by
      rintro ⟨rfl, rfl⟩
      exact h (List.infix_refl _)
    simp [findPair, hxa]
  | x :: z :: zs, i, h => by
    have hxz : ¬ (x = a ∧ z = b) := by
      rintro ⟨rfl, rfl⟩
      exact h ⟨[], zs ++ [x], rfl⟩
    have h' : ¬ [a, b] <:+: (z :: zs) ++ [a] := fun hin =>
      h (hin.trans (List.suffix_cons x _).isInfix)
    rw [List.cons_append, List.cons_append, findPair, if_neg hxz, ← List.cons_append,
      findPair_append (i + 1) h']
    simp only [List.length_cons, Option.some.injEq]
    omega

/-- A pair that is not in a text does not appear by adding a character other than its
second. -/
theorem not_infix_concat {a b c : Char} {xs : List Char} (h : ¬ [a, b] <:+: xs) (hbc : b ≠ c) :
    ¬ [a, b] <:+: xs ++ [c] := by
  rintro ⟨s, t, hst⟩
  rcases List.eq_nil_or_concat t with rfl | ⟨t', d, rfl⟩
  · have hlast := congrArg List.getLast? hst
    simp at hlast
    exact hbc hlast
  · rw [List.concat_eq_append, ← List.append_assoc] at hst
    exact h ⟨s, t', (List.append_inj' hst rfl).1⟩

theorem trimEnd_of_getLast {s : String} (h : ∀ c ∈ s.toList.getLast?, Text.isBlank c = false) :
    Text.trimEnd s = s := by
  have hdrop : s.toList.reverse.dropWhile Text.isBlank = s.toList.reverse := by
    cases hr : s.toList.reverse with
    | nil => rfl
    | cons c r =>
      have hc : Text.isBlank c = false := h c (by rw [← List.head?_reverse, hr]; rfl)
      simp [hc]
  simp [Text.trimEnd, hdrop]

/-- A plain key followed by a colon and nothing or a space is read as that key. -/
theorem keyOf_plain {w : String} (hw : Plain w) {after : List Char}
    (hafter : after = [] ∨ after.head? = some ' ') :
    keyOf (w.toList ++ ':' :: after) = some (w, after) := by
  obtain ⟨c, cs, hcs, hq, hq', -, -, -, -, hind⟩ := hw.head
  have hcolon : ¬ [':', ' '] <:+: w.toList ++ [':'] := not_infix_concat hw.noValue.1 (by decide)
  have htab : ¬ [':', '\t'] <:+: w.toList ++ [':'] := not_infix_concat hw.noValue.2 (by decide)
  have htake : String.ofList ((w.toList ++ ':' :: after).take w.toList.length) = w := by
    simp
  have hdrop : (w.toList ++ ':' :: after).drop (w.toList.length + 1) = after := by
    simp
  have htrim := trimEnd_of_getLast fun c hc => (hw.last c hc).1
  rcases hafter with rfl | hsp
  · have hnone := findPair_eq_none 0 hcolon
    have hnone' := findPair_eq_none 0 htab
    rw [hcs] at hnone hnone' htake hdrop ⊢
    simp only [List.cons_append] at hnone hnone' htake hdrop
    have hlast : (c :: (cs ++ [':'])).getLast? = some ':' := by
      rw [← List.cons_append, List.getLast?_concat]
    simp only [List.cons_append, keyOf, if_neg hind, hnone, hnone']
    rw [if_pos hlast]
    simp only [List.length_cons, List.length_append, List.length_nil, Nat.zero_add,
      Nat.add_sub_cancel, Option.map_some, Option.some.injEq, Prod.mk.injEq] at htake hdrop ⊢
    rw [htake, htrim, hdrop]
    exact ⟨rfl, rfl⟩
  · obtain ⟨rest, rfl⟩ : ∃ rest, after = ' ' :: rest := by
      cases after with
      | nil => simp at hsp
      | cons x rest => exact ⟨rest, by simpa using hsp⟩
    have hsome := @findPair_append _ _ rest _ 0 hcolon
    rw [hcs] at hsome htake hdrop ⊢
    simp only [List.cons_append, Nat.zero_add] at hsome htake hdrop
    simp only [List.cons_append, keyOf, if_neg hind, hsome, Option.map_some, Option.some.injEq,
      Prod.mk.injEq]
    rw [htake, htrim, hdrop]
    exact ⟨rfl, rfl⟩

/-- A plain scalar is not read as a key. -/
theorem keyOf_plain_scalar {s : String} (hs : Plain s) : keyOf s.toList = none := by
  obtain ⟨c, cs, hcs, hq, hq', -, -, -, -, -⟩ := hs.head
  have hnone := findPair_eq_none 0 hs.noValue.1
  have hnone' := findPair_eq_none 0 hs.noValue.2
  have hlast : s.toList.getLast? ≠ some ':' := fun h => (hs.last ':' h).2 rfl
  rw [hcs] at hnone hnone' hlast ⊢
  simp only [keyOf, hnone, hnone', if_neg hlast, Option.map_none, ite_self]

/-- The items a row's lead opens, from column `indent` on, each with its path; the last one
holds `flow`, the flow collection written after its dash. -/
def leadEntries (line indent : Nat) : List (List String) → Option (Nat × String) →
    List (Entry × Option (List String))
  | [], _ => []
  | [p], flow => [(⟨line, indent, .item, flow⟩, some p)]
  | p :: ps, flow => (⟨line, indent, .item, none⟩, some p) :: leadEntries line (indent + 2) ps flow

theorem leadEntries_cons_none (line indent : Nat) (p : List String) (ps : List (List String)) :
    leadEntries line indent (p :: ps) none =
      (⟨line, indent, .item, none⟩, some p) :: leadEntries line (indent + 2) ps none := by
  cases ps <;> rfl

/-- The characters of the dashes a lead opens its items with. -/
def dashes (ps : List (List String)) : List Char := (ps.map fun _ => ['-', ' ']).flatten

theorem length_dashes (ps : List (List String)) : (dashes ps).length = 2 * ps.length := by
  induction ps with
  | nil => rfl
  | cons p ps ih =>
    simp only [dashes, List.map_cons, List.flatten_cons, List.length_append, List.length_cons,
      List.length_nil] at ih ⊢
    omega

theorem items_dashes (line : Nat) {body : List Char} (hbody : ∀ c ∈ body.head?, c ≠ ' ' ∧ c ≠ '-') :
    ∀ (ps : List (List String)) (fuel : Nat) (out : List Entry) (indent : Nat), ps.length ≤ fuel →
      lineEntries.items line fuel out indent (dashes ps ++ body) =
        (out ++ (leadEntries line indent ps none).map Prod.fst, indent + 2 * ps.length, body)
  | [], 0, out, indent, _ => by simp [lineEntries.items, leadEntries, dashes]
  | [], fuel + 1, out, indent, _ => by
    cases body with
    | nil => simp [lineEntries.items, leadEntries, dashes]
    | cons c r =>
      have hc := (hbody c rfl).2
      simp [lineEntries.items, leadEntries, dashes, hc]
  | p :: ps, fuel + 1, out, indent, h => by
    have hafter : (dashes ps ++ body).dropWhile (fun x => decide (x = ' ')) = dashes ps ++ body := by
      cases ps with
      | nil =>
        cases body with
        | nil => rfl
        | cons c r => simp [dashes, (hbody c rfl).1]
      | cons q qs => simp [dashes]
    have hstep := items_dashes line hbody ps fuel (out ++ [⟨line, indent, .item, none⟩]) (indent + 2)
      (by simpa using h)
    simp only [dashes, List.map_cons, List.flatten_cons, List.cons_append, List.nil_append]
      at hstep hafter ⊢
    have hlen : ∀ n : Nat, n + 1 + 1 - n = 2 := fun n => by omega
    simp only [lineEntries.items, List.drop_one, List.tail_cons, List.dropWhile_cons, decide_true,
      ↓reduceIte, hafter, List.length_cons, hlen, hstep, leadEntries_cons_none, List.map_cons,
      List.append_assoc, List.singleton_append]
    rw [show indent + 2 + 2 * ps.length = indent + 2 * (ps.length + 1) by omega]

theorem leadEntries_flow (line : Nat) (flow : Option (Nat × String)) :
    ∀ (ps : List (List String)) (indent : Nat), ps ≠ [] →
      ∃ last : Entry, ((leadEntries line indent ps none).map Prod.fst).getLast? = some last ∧
        last.line = line ∧ last.kind = .item ∧
        ((leadEntries line indent ps none).map Prod.fst).dropLast ++ [{ last with flow := flow }] =
          (leadEntries line indent ps flow).map Prod.fst
  | [], _, h => absurd rfl h
  | [p], indent, _ => ⟨_, rfl, rfl, rfl, rfl⟩
  | p :: q :: qs, indent, _ => by
    obtain ⟨last, hlast, hline, hkind, hdrop⟩ :=
      leadEntries_flow line flow (q :: qs) (indent + 2) (List.cons_ne_nil q qs)
    refine ⟨last, ?_, hline, hkind, ?_⟩
    · rw [leadEntries_cons_none, List.map_cons, List.getLast?_cons, hlast]
      rfl
    · have hne : (leadEntries line (indent + 2) (q :: qs) none).map Prod.fst ≠ [] := by
        intro h
        simp [h] at hlast
      rw [leadEntries_cons_none, List.map_cons, List.dropLast_cons_of_ne_nil hne, List.cons_append,
        hdrop]
      rfl

theorem toList_leadText (lead : Lead) :
    lead.text.toList = List.replicate lead.indent ' ' ++ dashes lead.items := by
  simp [Lead.text, Yaml.spaces, dashes, String.toList_join, List.flatMap_def, List.map_replicate]

theorem dropWhile_lead (n : Nat) (ps : List (List String)) {body : List Char}
    (hbody : ∀ c ∈ body.head?, c ≠ ' ') :
    (List.replicate n ' ' ++ dashes ps ++ body).dropWhile (fun x => decide (x = ' ')) =
      dashes ps ++ body := by
  induction n with
  | succ n ih => simpa [List.replicate_succ] using ih
  | zero =>
    cases ps with
    | cons p ps => simp [dashes]
    | nil =>
      cases body with
      | nil => rfl
      | cons c r => simp [dashes, hbody c rfl]

/-- A line of items and a body that starts with a visible character other than `#` and `-`, and
not with `...`, is neither blank, a comment nor a document marker. -/
theorem guard_lead (ps : List (List String)) {body : List Char}
    (hbody : ∃ c r, body = c :: r ∧ Text.isBlank c = false ∧ c ≠ '#' ∧ c ≠ '-')
    (hdots : ¬ ['.', '.', '.'] <+: body) :
    ((dashes ps ++ body).all Text.isBlank ||
      (String.ofList (dashes ps ++ body)).startsWith "#" ||
      (String.ofList (dashes ps ++ body)).startsWith "---" ||
      (String.ofList (dashes ps ++ body)).startsWith "...") = false := by
  obtain ⟨c, r, rfl, hblank, hhash, hdash⟩ := hbody
  have hdash' : Text.isBlank '-' = false := by decide
  simp only [Bool.or_eq_false_iff]
  simp only [Bool.eq_false_iff, ne_eq, String.startsWith_string_iff, String.toList_ofList]
  cases ps with
  | nil =>
    refine ⟨⟨⟨?_, ?_⟩, ?_⟩, ?_⟩
    · simp [dashes, hblank]
    · simp [dashes, Ne.symm hhash]
    · simp [dashes, Ne.symm hdash]
    · simpa [dashes] using hdots
  | cons p ps => simp [dashes, hdash']

/-- The flow collection after a key's colon, with the column it opens at, where `column` is
the column of the text after the colon. -/
def flowAfter (column : Nat) (after : String) : Option (Nat × String) :=
  let value := after.toList.dropWhile Text.isBlank
  if opensFlow value then some (column + (after.length - value.length), String.ofList value)
  else none

/-- The entries the scanner reads on a row at `line`, each with the path the row gives it. -/
def rowEntries (line : Nat) : Row → List (Entry × Option (List String))
  | .key lead path written after =>
    leadEntries line lead.indent lead.items none ++
      [(⟨line, lead.column, .key written, flowAfter (lead.column + written.length + 1) after⟩,
        some path)]
  | .value lead written =>
    if opensFlow written.toList then leadEntries line lead.indent lead.items (some (lead.column, written))
    else leadEntries line lead.indent lead.items none ++ [(⟨line, lead.column, .scalar, none⟩, none)]
  | .raw _ => []

/-- A row the scanner reads as it is laid out: a plain key followed by its colon and then
nothing or a space, a plain scalar, or a flow collection after an item's dash. -/
def Readable : Row → Prop
  | .key _ _ written after => Plain written ∧ (after.toList = [] ∨ after.toList.head? = some ' ')
  | .value lead written => Plain written ∨ (opensFlow written.toList = true ∧ lead.items ≠ [])
  | .raw _ => False

/-- A colon after a text cannot complete the document end marker. -/
theorem not_dots_append {w : List Char} (hw : ¬ ['.', '.', '.'] <+: w) (rest : List Char) :
    ¬ ['.', '.', '.'] <+: w ++ ':' :: rest := by
  match w with
  | [] => simp
  | [x] => simp
  | [x, y] => simp
  | x :: y :: z :: r =>
    simp only [List.cons_append, List.cons_prefix_cons, List.nil_prefix, and_true] at hw ⊢
    exact hw

/-- The start of a row: its indentation is skipped, its guard fails, and its dashes open one
item each, leaving the body. -/
theorem lead_line (out : List Entry) (line : Nat) (lead : Lead) {body : List Char}
    (hbody : ∃ c r, body = c :: r ∧ Text.isBlank c = false ∧ c ≠ '#' ∧ c ≠ '-')
    (hdots : ¬ ['.', '.', '.'] <+: body) :
    (List.replicate lead.indent ' ' ++ dashes lead.items ++ body).dropWhile
        (fun x => decide (x = ' ')) = dashes lead.items ++ body ∧
      ((dashes lead.items ++ body).all Text.isBlank ||
        (String.ofList (dashes lead.items ++ body)).startsWith "#" ||
        (String.ofList (dashes lead.items ++ body)).startsWith "---" ||
        (String.ofList (dashes lead.items ++ body)).startsWith "...") = false ∧
      lineEntries.items line (List.replicate lead.indent ' ' ++ dashes lead.items ++ body).length out
          ((List.replicate lead.indent ' ' ++ dashes lead.items ++ body).length -
            (dashes lead.items ++ body).length) (dashes lead.items ++ body) =
        (out ++ (leadEntries line lead.indent lead.items none).map Prod.fst, lead.column, body) := by
  obtain ⟨c, r, rfl, hblank, hhash, hdash⟩ := hbody
  have hspace : c ≠ ' ' := by
    rintro rfl
    exact absurd hblank (by decide)
  have hhead : ∀ x ∈ (c :: r).head?, x ≠ ' ' ∧ x ≠ '-' := by simp [hspace, hdash]
  refine ⟨dropWhile_lead lead.indent lead.items fun x hx => (hhead x hx).1,
    guard_lead lead.items ⟨c, r, rfl, hblank, hhash, hdash⟩ hdots, ?_⟩
  have hlen : (List.replicate lead.indent ' ' ++ dashes lead.items ++ c :: r).length -
      (dashes lead.items ++ c :: r).length = lead.indent := by
    simp
  rw [hlen, items_dashes line hhead lead.items _ out lead.indent (by simp [length_dashes]; omega)]
  rfl

theorem lineEntries_key (out : List Entry) (line : Nat) (lead : Lead) (path : List String)
    {written after : String} (hw : Plain written)
    (hafter : after.toList = [] ∨ after.toList.head? = some ' ') :
    lineEntries out line (Row.key lead path written after).text =
      out ++ (rowEntries line (.key lead path written after)).map Prod.fst := by
  obtain ⟨c, cs, hcs, -, -, hdash, hhash, -, hblank, hind⟩ := hw.head
  have hraw : (Row.key lead path written after).text.toList =
      List.replicate lead.indent ' ' ++ dashes lead.items ++ (written.toList ++ ':' :: after.toList) := by
    simp [Row.text, toList_leadText]
  obtain ⟨htrim, hguard, hitems⟩ := lead_line out line lead
    ⟨c, cs ++ ':' :: after.toList, by simp [hcs], hblank, hhash, hdash⟩
    (not_dots_append hw.noEnd after.toList)
  have hflow : opensFlow (written.toList ++ ':' :: after.toList) = false := by
    simp [opensFlow, hcs]
    exact ⟨fun h => hind (.inl h), fun h => hind (.inr (.inl h))⟩
  have hne : (written.toList ++ ':' :: after.toList).isEmpty = false := by simp
  have hcol : (List.replicate lead.indent ' ' ++ (dashes lead.items ++
      (written.toList ++ ':' :: after.toList))).length - (after.toList.dropWhile Text.isBlank).length =
        lead.column + written.length + 1 +
          (after.length - (after.toList.dropWhile Text.isBlank).length) := by
    have hvalue := (List.dropWhile_suffix (p := Text.isBlank) (l := after.toList)).length_le
    simp only [List.length_append, List.length_replicate, length_dashes, List.length_cons,
      String.length_toList, Lead.column] at hvalue ⊢
    omega
  unfold lineEntries
  simp only [hraw, htrim, hguard, hitems, hflow, keyOf_plain hw hafter, Bool.false_eq_true,
    if_false, hne]
  simp only [rowEntries, flowAfter, List.map_append, List.map_cons, List.map_nil,
    List.append_assoc, hcol]

theorem lineEntries_scalar (out : List Entry) (line : Nat) (lead : Lead) {written : String}
    (hw : Plain written) :
    lineEntries out line (Row.value lead written).text =
      out ++ (rowEntries line (.value lead written)).map Prod.fst := by
  obtain ⟨c, cs, hcs, -, -, hdash, hhash, -, hblank, hind⟩ := hw.head
  have hraw : (Row.value lead written).text.toList =
      List.replicate lead.indent ' ' ++ dashes lead.items ++ written.toList := by
    simp [Row.text, toList_leadText]
  obtain ⟨htrim, hguard, hitems⟩ := lead_line out line lead
    ⟨c, cs, hcs, hblank, hhash, hdash⟩ hw.noEnd
  have hflow : opensFlow written.toList = false := by
    simp [opensFlow, hcs]
    exact ⟨fun h => hind (.inl h), fun h => hind (.inr (.inl h))⟩
  have hne : written.toList.isEmpty = false := by simp [hcs]
  unfold lineEntries
  simp only [hraw, htrim, hguard, hitems, hflow, keyOf_plain_scalar hw, Bool.false_eq_true,
    if_false, hne]
  simp [rowEntries, hflow, List.map_append]

theorem lineEntries_flow (out : List Entry) (line : Nat) (lead : Lead) {written : String}
    (hflow : opensFlow written.toList = true) (hitems : lead.items ≠ []) :
    lineEntries out line (Row.value lead written).text =
      out ++ (rowEntries line (.value lead written)).map Prod.fst := by
  obtain ⟨c, cs, hcs, hc⟩ : ∃ c cs, written.toList = c :: cs ∧ (c = '\x7b' ∨ c = '[') := by
    cases h : written.toList with
    | nil => simp [opensFlow, h] at hflow
    | cons c cs => exact ⟨c, cs, rfl, by simpa [opensFlow, h] using hflow⟩
  have hraw : (Row.value lead written).text.toList =
      List.replicate lead.indent ' ' ++ dashes lead.items ++ written.toList := by
    simp [Row.text, toList_leadText]
  obtain ⟨htrim, hguard, hitems'⟩ := lead_line out line lead
    ⟨c, cs, hcs, by rcases hc with rfl | rfl <;> decide, by rcases hc with rfl | rfl <;> decide,
      by rcases hc with rfl | rfl <;> decide⟩
    (by rw [hcs]; rcases hc with rfl | rfl <;> simp)
  obtain ⟨last, hlast, hline, hkind, hdrop⟩ :=
    leadEntries_flow line (some (lead.column, written)) lead.items lead.indent hitems
  have hne : written.toList.isEmpty = false := by simp [hcs]
  have hne' : (leadEntries line lead.indent lead.items none).map Prod.fst ≠ [] := by
    intro h
    simp [h] at hlast
  have hcol : (List.replicate lead.indent ' ' ++ (dashes lead.items ++ written.toList)).length -
      written.toList.length = lead.column := by
    simp only [List.length_append, List.length_replicate, length_dashes, Lead.column]
    omega
  unfold lineEntries
  simp only [hraw, htrim, hguard, hitems', hflow, Bool.false_eq_true, if_false, hne, if_true]
  have hitem : (Kind.item == Kind.item) = true := rfl
  rw [hline, hkind] at hdrop
  simp only [List.getLast?_append, hlast, Option.some_or, hline, hkind, hitem, and_self, if_true,
    hcol, String.ofList_toList, List.dropLast_append_of_ne_nil hne', List.append_assoc, hdrop]
  simp [rowEntries, hflow]

theorem lineEntries_row (out : List Entry) (line : Nat) {r : Row} (hr : Readable r) :
    lineEntries out line r.text = out ++ (rowEntries line r).map Prod.fst := by
  cases r with
  | key lead path written after => exact lineEntries_key out line lead path hr.1 hr.2
  | value lead written =>
    rcases hr with hw | ⟨hflow, hitems⟩
    · exact lineEntries_scalar out line lead hw
    · exact lineEntries_flow out line lead hflow hitems
  | raw _ => exact hr.elim

/-- The entries of rows from `line` on, each with the path its row gives it. -/
def rowsEntries (line : Nat) (rows : List Row) : List (Entry × Option (List String)) :=
  (rows.zipIdx line).flatMap fun (r, n) => rowEntries n r

theorem rowsEntries_append (line : Nat) (rows rows' : List Row) :
    rowsEntries line (rows ++ rows') =
      rowsEntries line rows ++ rowsEntries (line + rows.length) rows' := by
  simp [rowsEntries, List.zipIdx_append]

theorem rowsEntries_cons (line : Nat) (r : Row) (rows : List Row) :
    rowsEntries line (r :: rows) = rowEntries line r ++ rowsEntries (line + 1) rows := by
  simp [rowsEntries, List.zipIdx_cons]

/-- Rows that are read as laid out, each on a line of its own, give the scanner their
entries in order. -/
theorem entries_rowsText {rows : List Row} (hr : ∀ r ∈ rows, Readable r)
    (hl : ∀ r ∈ rows, Text.IsLine r.text) :
    entries (rowsText rows) = (rowsEntries 1 rows).map Prod.fst := by
  have hlines : Text.lines (rowsText rows) = rows.map Row.text := by
    rw [rowsText, ← Text.lines_join_terminated (rows.map Row.text) (by simpa using hl),
      List.map_map]
    rfl
  -- the scanner's step reads a numbered line with `lineEntries`
  have hfold : ∀ step : List Entry → String × Nat → List Entry,
      (∀ out raw n, step out (raw, n) = lineEntries out n raw) →
      ∀ (rows : List Row) (out : List Entry) (line : Nat), (∀ r ∈ rows, Readable r) →
        ((rows.map Row.text).zipIdx line).foldl step out =
          out ++ (rowsEntries line rows).map Prod.fst := by
    intro step hstep rows
    induction rows with
    | nil => simp [rowsEntries]
    | cons r rows ih =>
      intro out line hr
      simp only [List.map_cons, List.zipIdx_cons, List.foldl_cons, hstep]
      rw [lineEntries_row out line (hr r List.mem_cons_self),
        ih _ _ fun r' h' => hr r' (List.mem_cons_of_mem r h'), rowsEntries_cons, List.map_append,
        List.append_assoc]
  rw [entries, hlines]
  exact (hfold _ (fun _ _ _ => rfl) rows [] 1 hr).trans (List.nil_append _)

end Covenant.SourceIndex.Block
