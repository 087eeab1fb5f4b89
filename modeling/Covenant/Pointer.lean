import Covenant.Json.Value

/-!
# JSON pointers

A pointer is a list of reference tokens. In text each token follows a `/`, with `~` written
`~0` and `/` written `~1`; a fragment pointer may start with `#`. `resolve` walks a value:
an object by key, an array by a decimal index without sign or leading zero.
-/

namespace Covenant.Pointer

/-- Replaces each `~` followed by `digit` with `c`, scanning left to right. -/
def unescapeWith (digit c : Char) : List Char → List Char
  | '~' :: d :: rest =>
    if d = digit then c :: unescapeWith digit c rest else '~' :: unescapeWith digit c (d :: rest)
  | x :: rest => x :: unescapeWith digit c rest
  | [] => []

/-- Decodes one token: `~1` becomes `/`, then `~0` becomes `~`. -/
def decodeToken (token : String) : String :=
  String.ofList (unescapeWith '0' '~' (unescapeWith '1' '/' token.toList))

/-- The escape of one character of a token: `~0` for `~`, `~1` for `/`. -/
def escapeChar (c : Char) : List Char :=
  if c = '~' then ['~', '0'] else if c = '/' then ['~', '1'] else [c]

/-- Encodes one token: `~` becomes `~0` and `/` becomes `~1`. -/
def encodeToken (token : String) : String :=
  String.ofList (token.toList.flatMap escapeChar)

/-- The tokens of a pointer text: one leading `#` and one leading `/` are dropped, the rest
is split at `/` and each part decoded. An empty pointer has no tokens. -/
def split (pointer : String) : List String :=
  let p := if pointer.startsWith "#" then String.ofList (pointer.toList.drop 1) else pointer
  if p.isEmpty then []
  else
    let p := if p.startsWith "/" then String.ofList (p.toList.drop 1) else p
    (p.splitOn "/").map decodeToken

/-- The text of a token list: each token encoded and preceded by `/`. -/
def join (tokens : List String) : String :=
  String.join (tokens.map (fun t => "/" ++ encodeToken t))

/-- An array index token: decimal digits, no sign, no leading zero. -/
def parseIndex (token : String) : Option Nat :=
  if token.startsWith "0" ∧ token.length ≠ 1 then none
  else if token.isEmpty ∨ !token.all Char.isDigit then none
  else token.toNat?

/-- The value a token list designates. -/
def walk : Json → List String → Option Json
  | v, [] => some v
  | v, t :: ts =>
    match v with
    | .obj _ => (v.get? t).bind (walk · ts)
    | .arr items => (parseIndex t).bind (fun i => items[i]?.bind (walk · ts))
    | _ => none

/-- The value at a pointer text, which must be empty or start with `/`. -/
def resolve (root : Json) (pointer : String) : Option Json :=
  if pointer.isEmpty then some root
  else if !pointer.startsWith "/" then none
  else walk root (((pointer.splitOn "/").drop 1).map decodeToken)

theorem mem_of_get?_eq_some {fields : List (String × Json)} {key : String} {v : Json}
    (h : (Json.obj fields).get? key = some v) : ∃ k, (k, v) ∈ fields := by
  simp only [Json.get?, Option.map_eq_some_iff] at h
  obtain ⟨⟨k, w⟩, hfind, rfl⟩ := h
  exact ⟨k, List.mem_of_find?_eq_some hfind⟩

/-- What a walk reaches occurs in the value walked. -/
theorem walk_occurs {v x : Json} {tokens : List String} (h : walk v tokens = some x) :
    Json.Occurs x v := by
  induction tokens generalizing v with
  | nil =>
    cases h
    exact .refl x
  | cons t ts ih =>
    match v, h with
    | .obj fields, h =>
      obtain ⟨w, hw, hwalk⟩ := Option.bind_eq_some_iff.mp h
      obtain ⟨k, hmem⟩ := mem_of_get?_eq_some hw
      exact .field hmem (ih hwalk)
    | .arr items, h =>
      obtain ⟨i, -, hi⟩ := Option.bind_eq_some_iff.mp h
      obtain ⟨w, hw, hwalk⟩ := Option.bind_eq_some_iff.mp hi
      exact .item (List.mem_of_getElem? hw) (ih hwalk)

theorem resolve_occurs {root x : Json} {pointer : String} (h : resolve root pointer = some x) :
    Json.Occurs x root := by
  unfold resolve at h
  split at h
  · cases h
    exact .refl root
  · split at h
    · cases h
    · exact walk_occurs h

end Covenant.Pointer
