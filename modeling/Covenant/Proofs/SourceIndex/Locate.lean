import Covenant.Proofs.SourceIndex.JsonWalk
import Covenant.Proofs.Pointer.Escape
import Covenant.Proofs.Json.Read

/-!
# Locating pointers in JSON text

A joined pointer names its tokens and no others (`Pointer.join_injective`), so an index that
records distinct pointers answers each with the location recorded for it
(`get?_foldl_record`). The index of a text the reader accepts as an object or array records the
marks of its derivation (`scan_eq_recordMarks`, `value_of_read`); when no object repeats a key,
those marks are exactly the pointers into the value read (`Value.marks_address`). So the index
locates exactly the members and items of the value, each where its text begins
(`json_index_locates`), as long as no key is written with a surrogate pair.
-/

namespace Covenant

open Json.Grammar

namespace SourceIndex

/-- Recording pointers that are new and distinct appends them in order. -/
theorem foldl_record_entries : ∀ (idx : SourceIndex) (es : List (List String × Location)),
    (es.map Prod.fst).Nodup → (∀ e ∈ es, ∀ e' ∈ idx.entries, e'.1 ≠ Pointer.join e.1) →
    (es.foldl (fun idx e => idx.record e.1 e.2) idx).entries =
      idx.entries ++ es.map (fun e => (Pointer.join e.1, e.2))
  | idx, [], _, _ => by simp
  | idx, e :: es, hnd, hnew => by
    have hany : idx.entries.any (fun e' => e'.1 == Pointer.join e.1) = false := by
      simpa using fun e' he' => hnew e List.mem_cons_self e' he'
    have hrec : idx.record e.1 e.2 = ⟨idx.entries ++ [(Pointer.join e.1, e.2)]⟩ := by
      simp [record, hany]
    have hnd' := List.nodup_cons.mp (show (e.1 :: es.map Prod.fst).Nodup from hnd)
    rw [List.foldl_cons, hrec, foldl_record_entries _ es hnd'.2]
    · simp
    · intro e'' he'' e' he'
      rcases List.mem_append.mp he' with he' | he'
      · exact hnew e'' (List.mem_cons_of_mem e he'') e' he'
      · obtain rfl := List.mem_singleton.mp he'
        intro hjoin
        exact hnd'.1 (Pointer.join_injective hjoin ▸ List.mem_map_of_mem he'')

/-- An index built by recording distinct pointers answers each with its location. -/
theorem get?_foldl_record {es : List (List String × Location)} (hnd : (es.map Prod.fst).Nodup)
    {p : List String} {l : Location} :
    (es.foldl (fun idx e => idx.record e.1 e.2) ({} : SourceIndex)).get? p = some l ↔
      p ≠ [] ∧ (p, l) ∈ es := by
  have hentries := foldl_record_entries {} es hnd (by simp)
  by_cases hp : p = []
  · simp [get?, hp]
  · have hfind : ∀ e : List String × Location,
        ((Pointer.join e.1, e.2).1 == Pointer.join p) = (e.1 == p) := fun e => by
      simp [Pointer.join_injective.eq_iff]
    simp only [get?, List.isEmpty_iff, hp, if_false, hentries, List.nil_append, List.find?_map,
      Function.comp_def, hfind, Option.map_map, ne_eq, not_false_eq_true, true_and]
    exact find?_key_eq_some_iff hnd

theorem recordMarks_eq_foldl (d : List Char) (marks : List Mark) :
    JsonText.recordMarks d {} marks =
      (marks.map fun m => (m.path, (JsonText.within d m.rest).here)).foldl
        (fun idx e => idx.record e.1 e.2) {} := by
  simp [JsonText.recordMarks, List.foldl_map]

theorem ofSource_of_firstVisible {s : String}
    (h : Text.firstVisible s = some '\x7b' ∨ Text.firstVisible s = some '[') :
    ofSource s = JsonText.scan s := by
  rcases h with h | h <;> simp [ofSource, h]

/-- The index of a text `s` read as `v` locates the members and items of `v`: the grammar derives
`s` with marks such that, when no object repeats a key and no key is written with a surrogate
pair, a non-empty pointer is located exactly when it reaches a member or item of `v`, and each
member or item is located where its text begins (a member at its key's opening quote), the line
counting the line feeds before it and the column the characters since the last of them, both
from 1. -/
def IndexLocates (s : String) (v : Json) : Prop :=
  ∃ marks r, Value [] s.toList v marks r ∧ (∀ x ∈ r, blank x) ∧
    ((marks.map Mark.path).Nodup → (∀ m ∈ marks, m.plainKey) →
      (∀ p, p ≠ [] → (((ofSource s).get? p).isSome ↔ (Pointer.walk v p).isSome)) ∧
      ∀ m ∈ marks, (ofSource s).get? m.path =
        some (JsonText.locationAfter (s.toList.take (s.toList.length - m.rest.length))))

/-- The index of a text the reader accepts, whose first visible character opens an object or an
array, locates the members and items of the value read. -/
theorem json_index_locates {s : String} {v : Json} (hread : Json.read s = .ok v)
    (hjson : Text.firstVisible s = some '\x7b' ∨ Text.firstVisible s = some '[') :
    IndexLocates s v := by
  obtain ⟨marks, r, hv, hr⟩ := Json.value_of_read hread
  refine ⟨marks, r, hv, hr, fun hnd hplain => ?_⟩
  have hidx : ofSource s = (marks.map fun m => (m.path, (JsonText.within s.toList m.rest).here)).foldl
      (fun idx e => idx.record e.1 e.2) {} := by
    rw [ofSource_of_firstVisible hjson, JsonText.scan_eq_recordMarks hv hr hplain,
      recordMarks_eq_foldl]
  have hnd' : ((marks.map fun m => (m.path, (JsonText.within s.toList m.rest).here)).map
      Prod.fst).Nodup := by
    simpa [Function.comp_def] using hnd
  have haddr := Value.marks_address hv hnd
  refine ⟨fun p hp => ?_, fun m hm => ?_⟩
  · rw [hidx]
    constructor
    · intro hsome
      obtain ⟨l, hl⟩ := Option.isSome_iff_exists.mp hsome
      obtain ⟨-, hmem⟩ := (get?_foldl_record hnd').mp hl
      obtain ⟨m, hm, hpl⟩ := List.mem_map.mp hmem
      simp only [Prod.mk.injEq] at hpl
      exact ((haddr p).mp ⟨m, hm, by simpa using hpl.1⟩).2
    · intro hwalk
      obtain ⟨m, hm, hpath⟩ := (haddr p).mpr ⟨hp, hwalk⟩
      rw [Option.isSome_iff_exists]
      refine ⟨(JsonText.within s.toList m.rest).here, (get?_foldl_record hnd').mpr ⟨hp, ?_⟩⟩
      exact List.mem_map.mpr ⟨m, hm, by simp [hpath]⟩
  · -- a mark's path goes below the root, so it is not empty
    have hne : m.path ≠ [] := by
      obtain ⟨k, q, hkq⟩ := Value.marks_below hv m hm
      simp [hkq]
    rw [hidx]
    exact (get?_foldl_record hnd').mpr ⟨hne, List.mem_map.mpr ⟨m, hm, rfl⟩⟩

/-- An object with a list member, written over two lines. -/
def listMemberText : String := "\x7b\"a\": [1,\n  2]\x7d"

theorem list_member_text_located :
    Text.firstVisible listMemberText = some '\x7b' ∧ ∃ v, Json.read listMemberText = .ok v ∧
      IndexLocates listMemberText v := by
  have hfirst : Text.firstVisible listMemberText = some '\x7b' := by decide +kernel
  have hok : (Json.read listMemberText).toBool = true := by decide +kernel
  cases hv : Json.read listMemberText with
  | ok v => exact ⟨hfirst, v, rfl, json_index_locates hv (.inl hfirst)⟩
  | error e => simp [hv, Except.toBool] at hok

end SourceIndex

end Covenant
