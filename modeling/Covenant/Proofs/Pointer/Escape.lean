import Covenant.Pointer
import Covenant.Proofs.Text.Split

/-!
# Escaping pointer tokens

Encoding a token writes `~` as `~0` and `/` as `~1`, so an encoded token holds no `/` and
decoding gives the token back (`decodeToken_encodeToken`). A joined token list is therefore cut
back into its encoded tokens at `/` (`splitOn_join`), split back into its tokens (`split_join`),
so no two token lists are joined alike (`join_injective`), and resolving a joined pointer walks
its tokens (`resolve_join`).
-/

namespace Covenant.Pointer

/-- The escape of `~` alone, which the decoding of `~1` leaves in place. -/
def escapeTilde (c : Char) : List Char := if c = '~' then ['~', '0'] else [c]

theorem unescapeWith_cons_of_ne {digit c x : Char} (rest : List Char) (hx : x ≠ '~') :
    unescapeWith digit c (x :: rest) = x :: unescapeWith digit c rest := by
  cases rest with
  | nil => simp [unescapeWith]
  | cons d rest => simp [unescapeWith, hx]

/-- Decoding `~1` turns the escapes of `/` back and keeps those of `~`. -/
theorem unescapeWith_one_flatMap (cs : List Char) :
    unescapeWith '1' '/' (cs.flatMap escapeChar) = cs.flatMap escapeTilde := by
  induction cs with
  | nil => rfl
  | cons x rest ih =>
    rw [List.flatMap_cons, List.flatMap_cons]
    by_cases htilde : x = '~'
    · subst htilde
      simp [escapeChar, escapeTilde, unescapeWith, unescapeWith_cons_of_ne, ih]
    · by_cases hslash : x = '/'
      · subst hslash
        simp [escapeChar, escapeTilde, unescapeWith, ih]
      · simp [escapeChar, escapeTilde, htilde, hslash, unescapeWith_cons_of_ne _ htilde, ih]

theorem unescapeWith_zero_flatMap (cs : List Char) :
    unescapeWith '0' '~' (cs.flatMap escapeTilde) = cs := by
  induction cs with
  | nil => rfl
  | cons x rest ih =>
    rw [List.flatMap_cons]
    by_cases htilde : x = '~'
    · subst htilde
      simp [escapeTilde, unescapeWith, ih]
    · simp [escapeTilde, htilde, unescapeWith_cons_of_ne _ htilde, ih]

@[simp] theorem decodeToken_encodeToken (token : String) :
    decodeToken (encodeToken token) = token := by
  simp [decodeToken, encodeToken, unescapeWith_one_flatMap, unescapeWith_zero_flatMap]

theorem slash_notMem_encodeToken (token : String) : '/' ∉ (encodeToken token).toList := by
  simp only [encodeToken, String.toList_ofList, List.mem_flatMap, not_exists, not_and]
  intro c _ hc
  unfold escapeChar at hc
  by_cases htilde : c = '~'
  · simp [htilde] at hc
  · by_cases hslash : c = '/'
    · simp [hslash] at hc
    · simp only [htilde, hslash, if_false, List.mem_singleton] at hc
      exact hslash hc.symm

/-- A pointer of tokens is a `/` followed by the encoded tokens separated by `/`. -/
theorem join_cons (t : String) (ts : List String) :
    join (t :: ts) = "/" ++ "/".intercalate ((t :: ts).map encodeToken) := by
  simp only [join, List.map_cons, String.join_cons]
  induction ts generalizing t with
  | nil => simp
  | cons u us ih => simp [String.intercalate_cons_cons, ih, String.append_assoc]

theorem splitOn_intercalate_encodeToken {tokens : List String} (hne : tokens ≠ []) :
    ("/".intercalate (tokens.map encodeToken)).splitOn "/" = tokens.map encodeToken := by
  refine Text.splitOn_intercalate_of_notMem "/" rfl ?_ (by simpa using hne)
  intro part hpart
  obtain ⟨u, -, rfl⟩ := List.mem_map.mp hpart
  exact slash_notMem_encodeToken u

/-- A joined pointer is cut at `/` into an empty first part and its encoded tokens. -/
theorem splitOn_join (tokens : List String) (hne : tokens ≠ []) :
    (join tokens).splitOn "/" = "" :: tokens.map encodeToken := by
  obtain ⟨t, ts, rfl⟩ := List.exists_cons_of_ne_nil hne
  have hjoin : join (t :: ts) = "/".intercalate ("" :: (t :: ts).map encodeToken) := by
    rw [join_cons, List.map_cons, String.intercalate_cons_cons, String.empty_append]
  rw [hjoin, Text.splitOn_intercalate_of_notMem "/" rfl _ (by simp)]
  intro part hpart
  rcases List.mem_cons.mp hpart with rfl | hpart
  · simp
  · obtain ⟨u, -, rfl⟩ := List.mem_map.mp hpart
    exact slash_notMem_encodeToken u

/-- Splitting a joined pointer gives its tokens back. -/
theorem split_join (tokens : List String) : split (join tokens) = tokens := by
  cases tokens with
  | nil => simp [split, join]
  | cons t ts =>
    have hparts := splitOn_intercalate_encodeToken (List.cons_ne_nil t ts)
    have hjoin := join_cons t ts
    generalize "/".intercalate ((t :: ts).map encodeToken) = q at hjoin hparts
    -- the leading `/` is dropped and the rest cut at `/`
    have hdrop : String.ofList (("/" ++ q).toList.drop 1) = q := by simp
    have hhash : ("/" ++ q).startsWith "#" = false := by simp
    have hslash : ("/" ++ q).startsWith "/" = true := by simp
    have hfull : ("/" ++ q).isEmpty = false := by simp
    simp only [split, hjoin, hhash, hslash, hfull, hdrop, hparts, if_true, Bool.false_eq_true,
      if_false]
    simp [Function.comp_def]

/-- Joining is injective: the text of a pointer determines its tokens. -/
theorem join_injective : Function.Injective join :=
  Function.LeftInverse.injective split_join

/-- Resolving a joined pointer walks its tokens. -/
theorem resolve_join (root : Json) (tokens : List String) :
    resolve root (join tokens) = walk root tokens := by
  by_cases hne : tokens = []
  · subst hne
    simp [resolve, join, walk]
  · have hstart : (join tokens).startsWith "/" = true := by
      obtain ⟨t, ts, rfl⟩ := List.exists_cons_of_ne_nil hne
      simp [join, String.startsWith_string_iff]
    have hnonempty : (join tokens).isEmpty = false := by
      obtain ⟨t, ts, rfl⟩ := List.exists_cons_of_ne_nil hne
      simp [join]
    simp [resolve, hstart, hnonempty, splitOn_join tokens hne, Function.comp_def]

end Covenant.Pointer
