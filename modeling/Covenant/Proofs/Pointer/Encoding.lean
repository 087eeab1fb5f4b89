import Covenant.Contract.Load
import Covenant.Proofs.Pointer.Escape

/-!
# Pointer texts and token lists

`join` writes a token list as a pointer text and `split` reads one back. Splitting undoes
joining, with or without a leading `#` (`split_join`, `split_hash_join`). Joining undoes
splitting on the texts `join` writes: the empty text and the texts that start with `/` and in
which every `~` starts an escape `~0` or `~1` (`eq_join_of_tildesEscaped`). Two token lists are
thus never written alike, and the `$defs` reference written for a hoisted schema splits back
into `$defs` and its name.

On a text that starts with `/`, `split` cuts the tokens as resolving does: at every `/`, past
the empty part before the first one (`split_eq_splitOn_drop`). A reference `#` followed by such
a text therefore designates the value its tokens walk to (`resolveReference_eq_ok_iff`).
-/

namespace Covenant.Pointer

/-! ## The texts `join` writes -/

/-- Every `~` is followed by `0` or `1`, as in an encoded token. -/
def tildesEscaped : List Char → Bool
  | [] => true
  | c :: rest =>
    if c = '~' then
      match rest with
      | d :: rest => (d = '0' || d = '1') && tildesEscaped rest
      | [] => false
    else tildesEscaped rest

/-- The characters a token list is written as, each token after a `/`. -/
theorem toList_join (tokens : List String) :
    (join tokens).toList = tokens.flatMap fun t => '/' :: t.toList.flatMap escapeChar := by
  simp [join, encodeToken, List.flatMap_map]

/-- A text whose tildes all start escapes is a first encoded token followed by further encoded
tokens, each after a `/`. The cases follow `tildesEscaped`: `/` starts a new token, `~0` and
`~1` extend the first token by `~` and `/`, and any other character extends it by itself. -/
theorem exists_tokens_of_tildesEscaped (cs : List Char) (h : tildesEscaped cs = true) :
    ∃ (t : List Char) (ts : List (List Char)),
      cs = t.flatMap escapeChar ++ ts.flatMap fun u => '/' :: u.flatMap escapeChar := by
  fun_induction tildesEscaped cs with
  | case1 => exact ⟨[], [], rfl⟩
  | case2 d rest ih =>
    obtain ⟨hd, hrest⟩ : (d = '0' ∨ d = '1') ∧ tildesEscaped rest = true := by simpa using h
    obtain ⟨t, ts, rfl⟩ := ih hrest
    rcases hd with rfl | rfl
    · exact ⟨'~' :: t, ts, by simp [escapeChar]⟩
    · exact ⟨'/' :: t, ts, by simp [escapeChar]⟩
  | case3 => cases h
  | case4 c rest htilde ih =>
    obtain ⟨t, ts, rfl⟩ := ih h
    by_cases hslash : c = '/'
    · subst hslash
      exact ⟨[], t :: ts, by simp⟩
    · exact ⟨c :: t, ts, by simp [escapeChar, htilde, hslash]⟩

/-- A text that starts with `/` and whose tildes all start escapes is a joined token list. -/
theorem eq_join_of_tildesEscaped {p : String} (hstart : p.startsWith "/" = true)
    (h : tildesEscaped p.toList = true) : ∃ tokens, p = join tokens := by
  obtain ⟨q, hq⟩ := String.startsWith_string_iff.mp hstart
  have hp : p.toList = '/' :: q := by simp [← hq]
  have hq' : tildesEscaped q = true := by
    rw [hp] at h
    unfold tildesEscaped at h
    simpa using h
  obtain ⟨t, ts, hts⟩ := exists_tokens_of_tildesEscaped q hq'
  refine ⟨String.ofList t :: ts.map String.ofList, String.toList_inj.mp ?_⟩
  rw [toList_join, hp, hts, List.flatMap_cons, List.flatMap_map]
  simp

/-! ## Splitting and joining -/

theorem eq_append_of_startsWith {p pat : String} (h : p.startsWith pat = true) :
    ∃ q, p = pat ++ q := by
  obtain ⟨q, hq⟩ := String.startsWith_string_iff.mp h
  exact ⟨String.ofList q, String.toList_inj.mp (by simp [← hq])⟩

theorem join_startsWith_hash (tokens : List String) : (join tokens).startsWith "#" = false := by
  cases tokens with
  | nil => rfl
  | cons t ts =>
    rw [Bool.eq_false_iff]
    intro h
    obtain ⟨rest, hrest⟩ := String.startsWith_string_iff.mp h
    simp [toList_join] at hrest

/-- A leading `#` is passed over before anything else is read. -/
theorem split_hash_append {p : String} (hp : p.startsWith "#" = false) :
    split ("#" ++ p) = split p := by
  have hhash : ("#" ++ p).startsWith "#" = true := by simp [String.startsWith_string_iff]
  have hdrop : String.ofList (("#" ++ p).toList.drop 1) = p := by simp
  simp only [split, hhash, hp, hdrop, if_true, Bool.false_eq_true, if_false]

theorem split_hash_join (tokens : List String) : split ("#" ++ join tokens) = tokens := by
  rw [split_hash_append (join_startsWith_hash tokens), split_join]

/-- Joining undoes splitting on the texts `join` writes. -/
theorem join_split {p : String} (hp : p = "" ∨ p.startsWith "/" = true)
    (h : tildesEscaped p.toList = true) : join (split p) = p := by
  rcases hp with rfl | hstart
  · rfl
  · obtain ⟨tokens, rfl⟩ := eq_join_of_tildesEscaped hstart h
    rw [split_join]

/-- The reference written for a schema hoisted under `$defs` splits into `$defs` and the
schema's name. -/
theorem split_defs_reference (name : String) :
    split s!"#/$defs/{encodeToken name}" = ["$defs", name] := by
  have hjoin : s!"#/$defs/{encodeToken name}" = "#" ++ join ["$defs", name] := by
    have hdefs : encodeToken "$defs" = "$defs" := by simp [encodeToken, escapeChar]
    show "#/$defs/" ++ encodeToken name = _
    simp only [join, List.map_cons, List.map_nil, String.join_cons, String.join_nil, hdefs,
      String.append_empty, ← String.append_assoc]
    rfl
  rw [hjoin, split_hash_join]

/-! ## Splitting as resolving does -/

theorem splitOn_slash_cons (q : String) : ("/" ++ q).splitOn "/" = "" :: q.splitOn "/" := by
  rw [@Text.splitOn_eq_of_toList _ "/" '/' rfl, @Text.splitOn_eq_of_toList q "/" '/' rfl]
  simp [List.splitOn, List.splitOnP_cons_eq_if_modifyHead]

/-- On a text that starts with `/`, `split` cuts at every `/` and drops the empty part before
the first one, as resolving a pointer does. -/
theorem split_eq_splitOn_drop {p : String} (hstart : p.startsWith "/" = true) :
    split p = ((p.splitOn "/").drop 1).map decodeToken := by
  obtain ⟨q, rfl⟩ := eq_append_of_startsWith hstart
  have hhash : ("/" ++ q).startsWith "#" = false := by simp
  have hfull : ("/" ++ q).isEmpty = false := by simp
  have hdrop : String.ofList (("/" ++ q).toList.drop 1) = q := by simp
  simp only [split, hhash, hfull, hstart, hdrop, Bool.false_eq_true, if_false, if_true,
    splitOn_slash_cons, List.drop_succ_cons, List.drop_zero]

/-- Resolving a text that is empty or starts with `/` walks the tokens it splits into. -/
theorem resolve_eq_walk_split (root : Json) {p : String}
    (hp : p = "" ∨ p.startsWith "/" = true) : resolve root p = walk root (split p) := by
  rcases hp with rfl | hstart
  · rfl
  · have hfull : p.isEmpty = false := by
      obtain ⟨q, rfl⟩ := eq_append_of_startsWith hstart
      simp
    simp [resolve, hfull, hstart, split_eq_splitOn_drop hstart]

/-- A reference `#` followed by a text that is empty or starts with `/` designates the value
its tokens walk to. -/
theorem resolveReference_eq_ok_iff (root : Json) {p : String}
    (hp : p = "" ∨ p.startsWith "/" = true) (v : Json) :
    Contract.resolveReference root ("#" ++ p) = .ok v ↔ walk root (split ("#" ++ p)) = some v := by
  have hhash : ("#" ++ p).startsWith "#" = true := by simp [String.startsWith_string_iff]
  have hp' : p.startsWith "#" = false := by
    rcases hp with rfl | hstart
    · rfl
    · obtain ⟨q, rfl⟩ := eq_append_of_startsWith hstart
      simp
  have hdrop : String.ofList (("#" ++ p).toList.drop 1) = p := by simp
  rw [split_hash_append hp', ← resolve_eq_walk_split root hp]
  simp only [Contract.resolveReference, hhash, if_true, hdrop]
  cases resolve root p <;> simp

/-! ## Pointers as token lists -/

/-- `split` and `join` are inverse encodings of token lists as pointer texts: splitting undoes
joining, also after a `#`; joining undoes splitting on the texts `join` writes; so no two
token lists are written alike, and the `$defs` reference of a hoisted schema splits into `$defs`
and its name. On texts that start with `/`, `split` decodes the tokens as resolving does, so a
reference designates the value its split tokens walk to. -/
theorem split_join_inverse :
    (∀ tokens, split (join tokens) = tokens) ∧
    (∀ tokens, split ("#" ++ join tokens) = tokens) ∧
    (∀ p : String, (p = "" ∨ p.startsWith "/" = true) → tildesEscaped p.toList = true →
      join (split p) = p) ∧
    Function.Injective join ∧
    (∀ name, split s!"#/$defs/{encodeToken name}" = ["$defs", name]) ∧
    (∀ p : String, p.startsWith "/" = true →
      split p = ((p.splitOn "/").drop 1).map decodeToken) ∧
    (∀ (root : Json) (p : String), (p = "" ∨ p.startsWith "/" = true) → ∀ v,
      Contract.resolveReference root ("#" ++ p) = .ok v ↔
        walk root (split ("#" ++ p)) = some v) :=
  ⟨split_join, split_hash_join, fun _ hp h => join_split hp h, join_injective,
    split_defs_reference, fun _ hstart => split_eq_splitOn_drop hstart,
    fun root _ hp v => resolveReference_eq_ok_iff root hp v⟩

theorem escaped_pointer_round_trip :
    let p := "/a~1b/c~0d"
    (p = "" ∨ p.startsWith "/" = true) ∧ tildesEscaped p.toList = true ∧ join (split p) = p ∧
      (Contract.resolveReference .null ("#" ++ p) = .ok .null ↔
        walk .null (split ("#" ++ p)) = some .null) := by
  intro p
  have hp : p = "" ∨ p.startsWith "/" = true := .inr (by simp [p, String.startsWith_string_iff])
  have hesc : tildesEscaped p.toList = true := by simp [p, tildesEscaped]
  exact ⟨hp, hesc, split_join_inverse.2.2.1 p hp hesc,
    split_join_inverse.2.2.2.2.2.2 .null p hp .null⟩

end Covenant.Pointer
