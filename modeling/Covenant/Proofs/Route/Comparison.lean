import Mathlib
import Covenant.Route.Resolve

/-!
# Comparing a request with a template

The fold that compares a template's segments with a request, in closed form. A comparison
rebuilds the request from the template (`rebuild`: literals spell themselves, placeholders take
the requested segment), collects the placeholder captures (`captures`), and checks each captured
value against the path parameter the operation sees under its name (`mismatchOf`). The
parameters are the captures bound one after another (`bindParams`): a name keeps the position of
its first capture and the value of its last.
-/

namespace Covenant.Route

namespace Segment

def fill : Segment → String → String
  | .literal text, _ => text
  | .placeholder _ _, value => value

def capture : Segment × String → Option (String × String)
  | (.placeholder _ name, value) => some (name, value)
  | (.literal _, _) => none

@[simp] theorem fill_literal (text value : String) : fill (.literal text) value = text := rfl

@[simp] theorem fill_placeholder (raw name value : String) :
    fill (.placeholder raw name) value = value := rfl

@[simp] theorem capture_literal (text value : String) : capture (.literal text, value) = none :=
  rfl

@[simp] theorem capture_placeholder (raw name value : String) :
    capture (.placeholder raw name, value) = some (name, value) := rfl

/-- The parameter name of a placeholder. -/
def name? : Segment → Option String
  | .placeholder _ name => some name
  | .literal _ => none

end Segment

def rebuild (segments : List Segment) (requested : List String) : List String :=
  List.zipWith Segment.fill segments requested

def captures (segments : List Segment) (requested : List String) : List (String × String) :=
  (segments.zip requested).filterMap Segment.capture

def mismatchOf (item : PathItem) (op : Operation) (capture : String × String) : Option Mismatch :=
  (item.pathParameter op capture.1).bind fun p =>
    (rejectingType p.types capture.2).map fun t => ⟨p, t, capture.2⟩

def bindParams (captures : List (String × String)) : List (String × String) :=
  captures.foldl (fun params c => setParam params c.1 c.2) []

@[simp] theorem rebuild_cons (s : Segment) (segments : List Segment) (v : String)
    (requested : List String) :
    rebuild (s :: segments) (v :: requested) = s.fill v :: rebuild segments requested := rfl

@[simp] theorem captures_cons (s : Segment) (segments : List Segment) (v : String)
    (requested : List String) :
    captures (s :: segments) (v :: requested) =
      (Segment.capture (s, v)).toList ++ captures segments requested := by
  simp only [captures, List.zip_cons_cons, List.filterMap_cons]
  cases Segment.capture (s, v) <;> rfl

/-- The captures name the template's placeholders in order. -/
theorem captures_map_fst (segments : List Segment) (requested : List String)
    (hlen : segments.length = requested.length) :
    (captures segments requested).map Prod.fst = segments.filterMap Segment.name? := by
  induction segments generalizing requested with
  | nil => rfl
  | cons s segs ih =>
    cases requested with
    | nil => simp at hlen
    | cons v vs =>
      rw [captures_cons, List.map_append, ih vs (by simpa using hlen)]
      cases s <;> simp [Segment.name?, List.filterMap_cons]

theorem foldl_compareStep (item : PathItem) (op : Operation) (segments : List Segment)
    (requested rebuilt : List String) (params : List (String × String)) (ms : List Mismatch) :
    (segments.zip requested).foldl (compareStep item op) (rebuilt, params, ms) =
      (rebuilt ++ rebuild segments requested,
        (captures segments requested).foldl (fun ps c => setParam ps c.1 c.2) params,
        ms ++ (captures segments requested).filterMap (mismatchOf item op)) := by
  induction segments generalizing requested rebuilt params ms with
  | nil => simp [rebuild, captures]
  | cons s segs ih =>
    cases requested with
    | nil => simp [rebuild, captures]
    | cons v vs =>
      cases s with
      | literal text =>
        simp [compareStep, ih]
      | placeholder raw name =>
        rw [List.zip_cons_cons, List.foldl_cons]
        cases hp : item.pathParameter op name with
        | none =>
          simp [compareStep, hp, ih, mismatchOf]
        | some p =>
          cases hr : rejectingType p.types v <;> simp [compareStep, hp, hr, ih, mismatchOf]

/-- The request's segments line up with the template: as many of them, and the path the
template spells for them cleans to the requested one. -/
def Aligns (template : Template) (requested : List String) : Prop :=
  template.segments.length = requested.length ∧
    canonicalJoin (rebuild template.segments requested) = canonicalJoin requested

instance (template : Template) (requested : List String) :
    Decidable (Aligns template requested) :=
  inferInstanceAs (Decidable (_ ∧ _))

/-- The captured values that the declared types of their parameters reject. -/
def mismatches (item : PathItem) (op : Operation) (template : Template)
    (requested : List String) : List Mismatch :=
  (captures template.segments requested).filterMap (mismatchOf item op)

/-- A comparison in three outcomes: the request does not line up with the template; it does
and no value is rejected, binding the captured values; or it does and some are rejected. -/
theorem compare_eq (template : Template) (requested : List String) (item : PathItem)
    (op : Operation) :
    compare template requested item op =
      if Aligns template requested then
        if (mismatches item op template requested).isEmpty then
          .fits (bindParams (captures template.segments requested))
        else .mismatched (mismatches item op template requested)
      else .differs := by
  unfold compare Aligns
  rw [foldl_compareStep]
  by_cases hlen : template.segments.length = requested.length
  · by_cases hjoin : canonicalJoin (rebuild template.segments requested) = canonicalJoin requested
    · by_cases hm : (mismatches item op template requested).isEmpty
      · simp only [mismatches] at hm
        simp [hlen, hjoin, hm, bindParams, mismatches]
      · simp only [mismatches] at hm
        simp [hlen, hjoin, hm, mismatches]
    · simp [hlen, hjoin]
  · simp [hlen]

theorem lookup_map_setParam (params : List (String × String)) (name value key : String) :
    (params.map fun p => if p.1 == name then (name, value) else p).lookup key =
      if key = name then (if params.any (·.1 == name) then some value else none)
      else params.lookup key := by
  induction params with
  | nil => simp
  | cons p rest ih =>
    obtain ⟨k, b⟩ := p
    simp only [List.map_cons, List.any_cons]
    by_cases hk : k = name <;> by_cases hkey : key = name <;> grind

/-- Setting a parameter binds its name to the new value and leaves every other name alone. -/
theorem lookup_setParam (params : List (String × String)) (name value key : String) :
    (setParam params name value).lookup key =
      if key = name then some value else params.lookup key := by
  unfold setParam
  split
  · rename_i hany
    rw [lookup_map_setParam]
    simp [hany]
  · rename_i hany
    rw [List.lookup_append]
    by_cases hkey : key = name
    · subst hkey
      have hnone : params.lookup key = none := by
        rw [List.lookup_eq_none_iff]
        intro p hp
        grind
      simp [hnone, List.lookup]
    · have hne : (key == name) = false := by simpa using hkey
      cases params.lookup key <;> simp [List.lookup, hkey, hne]

/-- Setting a parameter keeps the order of the names bound so far and puts a new name last. -/
theorem keys_setParam (params : List (String × String)) (name value : String) :
    (setParam params name value).map Prod.fst =
      if name ∈ params.map Prod.fst then params.map Prod.fst else params.map Prod.fst ++ [name] := by
  unfold setParam
  split
  · rename_i hany
    have hmem : name ∈ params.map Prod.fst := by simpa using hany
    rw [if_pos hmem, List.map_map]
    apply List.map_congr_left
    intro p _
    by_cases hp : p.1 = name <;> simp [hp]
  · rename_i hany
    have hmem : name ∉ params.map Prod.fst := by simpa using hany
    simp [hmem]

theorem bindParams_append (cs : List (String × String)) (c : String × String) :
    bindParams (cs ++ [c]) = setParam (bindParams cs) c.1 c.2 := by
  simp [bindParams, List.foldl_append]

/-- Each bound name holds the value of its last capture. -/
theorem lookup_bindParams (cs : List (String × String)) (key : String) :
    (bindParams cs).lookup key = cs.reverse.lookup key := by
  induction cs using List.reverseRecOn with
  | nil => rfl
  | append_singleton cs c ih =>
    rw [bindParams_append, lookup_setParam, ih]
    by_cases hkey : key = c.1
    · simp [hkey, List.lookup]
    · have hne : (key == c.1) = false := by simpa using hkey
      simp [hkey, hne, List.lookup]

/-- The names are bound in the order of their first capture. -/
theorem keys_bindParams (cs : List (String × String)) :
    (bindParams cs).map Prod.fst = (cs.map Prod.fst).eraseDups := by
  induction cs using List.reverseRecOn with
  | nil => rfl
  | append_singleton cs c ih =>
    rw [bindParams_append, keys_setParam, ih, List.map_append, List.eraseDups_append]
    by_cases hc : c.1 ∈ cs.map Prod.fst
    · have hc' : c.1 ∈ (cs.map Prod.fst).eraseDups := List.mem_eraseDups.mpr hc
      simp [hc', List.removeAll, hc]
    · have hc' : c.1 ∉ (cs.map Prod.fst).eraseDups := fun h => hc (List.mem_eraseDups.mp h)
      simp [hc', List.removeAll, hc, List.eraseDups_cons]

end Covenant.Route
