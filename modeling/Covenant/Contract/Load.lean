import Covenant.Contract.Basic
import Covenant.Contract.Error
import Covenant.Pointer
import Covenant.SourceIndex.Scan

/-!
# Contracts from OpenAPI documents

Reads the parts of an OpenAPI document that resolution and validation need: `info`, `paths`
in declaration order, their parameters, operations and JSON request bodies. A `$ref` is
followed through at most 32 references. A schema is rendered with its references replaced by
their targets; a reference met again inside its own target is rendered once under `$defs` and
pointed to from there. Each schema records where its `type` key sits in the source.
-/

namespace Covenant.Contract

/-- The longest chain of references followed. -/
def maxReferenceChain : Nat := 32

/-- The value a local reference designates: `#` followed by a JSON pointer. -/
def resolveReference (root : Json) (reference : String) : Except ContractError Json :=
  if reference.startsWith "#" then
    match Pointer.resolve root (String.ofList (reference.toList.drop 1)) with
    | some v => .ok v
    | none => .error (.unresolvedReference reference)
  else .error (.unresolvedReference reference)

/-- The `$ref` text of an object, if it has one. -/
def referenceOf (v : Json) : Option String := (v.get? "$ref").bind Json.getStr?

/-- Follows references from a value and its token path. Only `maxReferenceChain` steps are
taken: a value still unresolved after them is an error naming the last path reached, even when
the next value would hold no reference. -/
def follow (root : Json) (value : Json) (path : List String) :
    Except ContractError (Json × List String) :=
  let rec go : Nat → Json → List String → Except ContractError (Json × List String)
    | 0, _, path =>
      let joined := "/".intercalate path
      .error (.unresolvedReference
        s!"{joined} (reference chain deeper than {maxReferenceChain})")
    | n + 1, v, path =>
      match referenceOf v with
      | none => .ok (v, path)
      | some r => do
        let target ← resolveReference root r
        go n target (Pointer.split r)
  go maxReferenceChain value path

/-- The `$ref` texts of the objects of a value that hold one, in document order. -/
def referenceTexts : Json → List String
  | .arr items => items.attach.flatMap fun ⟨x, _⟩ => referenceTexts x
  | .obj fields =>
    (referenceOf (.obj fields)).toList ++
      fields.attach.flatMap fun ⟨p, _⟩ => referenceTexts p.2
  | _ => []
decreasing_by
  · have := List.sizeOf_lt_of_mem ‹x ∈ items›
    simp only [Json.arr.sizeOf_spec]
    omega
  · have := List.sizeOf_lt_of_mem ‹p ∈ fields›
    have : sizeOf p.2 < sizeOf p := by
      obtain ⟨k, w⟩ := p
      simp only [Prod.mk.sizeOf_spec]
      omega
    simp only [Json.obj.sizeOf_spec]
    omega

/-- The hoisted targets met while rendering: reference text and the name under `$defs`. -/
abbrev Hoisted := List (String × String)

/-- The `$defs` name of a reference: known already, or its last token made unique with a
numeric suffix from 2. -/
def hoist (hoisted : Hoisted) (reference : String) : String × Hoisted :=
  match hoisted.find? (·.1 == reference) with
  | some (_, name) => (name, hoisted)
  | none =>
    let base := (Pointer.split reference).getLast?.getD "root"
    let taken (n : String) : Bool := hoisted.any (·.2 == n)
    let rec pick : Nat → Nat → String
      | 0, _ => base
      | fuel + 1, suffix =>
        let name := if suffix = 1 then base else s!"{base}{suffix}"
        if taken name then pick fuel (suffix + 1) else name
    let name := pick (hoisted.length + 1) 1
    (name, hoisted ++ [(reference, name)])

/-- The occurrences of `$ref` texts in the root that are not being expanded. -/
def unseen (root : Json) (seen : List String) : Nat :=
  (referenceTexts root).countP (fun r => r ∉ seen)

/-- `0` when a condition holds and `1` otherwise; rendering counts values outside the root. -/
noncomputable def outside (p : Prop) : Nat :=
  open Classical in if p then 0 else 1

theorem outside_le {p q : Prop} (h : q → p) : outside p ≤ outside q := by
  unfold outside
  by_cases hq : q
  · simp [hq, h hq]
  · simp only [hq, if_false]
    split <;> omega

theorem outside_le_one (p : Prop) : outside p ≤ 1 := by
  unfold outside
  split <;> omega

theorem outside_of_holds {p : Prop} (h : p) : outside p = 0 := by
  simp [outside, h]

theorem unseen_cons_le (root : Json) (seen : List String) (r : String) :
    unseen root (r :: seen) ≤ unseen root seen :=
  List.countP_mono_left (fun x _ hx => by simp_all)

theorem countP_not_mem_cons_lt {refs seen : List String} {r : String} (hr : r ∈ refs)
    (hs : r ∉ seen) :
    refs.countP (fun x => x ∉ r :: seen) < refs.countP (fun x => x ∉ seen) := by
  induction refs with
  | nil => cases hr
  | cons a rest ih =>
    have hle : rest.countP (fun x => x ∉ r :: seen) ≤ rest.countP (fun x => x ∉ seen) :=
      List.countP_mono_left (fun x _ hx => by simp_all)
    rw [List.countP_cons, List.countP_cons]
    by_cases ha : a = r
    · subst ha
      have hout : decide (a ∉ a :: seen) = false := by simp
      have hin : decide (a ∉ seen) = true := by simp [hs]
      rw [hout, hin]
      simp only [Bool.false_eq_true, if_false, if_true]
      omega
    · have hrest : r ∈ rest := by
        rcases List.mem_cons.mp hr with h | h
        · exact absurd h.symm ha
        · exact h
      have hsame : (a ∉ r :: seen) ↔ a ∉ seen := by simp [ha]
      simp only [hsame]
      have := ih hrest
      omega

theorem unseen_cons_lt {root : Json} {seen : List String} {r : String}
    (hr : r ∈ referenceTexts root) (hs : r ∉ seen) :
    unseen root (r :: seen) < unseen root seen :=
  countP_not_mem_cons_lt hr hs

theorem mem_referenceTexts {x root : Json} {r : String} (ho : Json.Occurs x root)
    (hr : referenceOf x = some r) : r ∈ referenceTexts root := by
  induction ho with
  | refl =>
    cases x with
    | obj fields => simp [referenceTexts, hr]
    | _ => simp [referenceOf, Json.get?] at hr
  | item hv _ ih =>
    rw [referenceTexts, List.mem_flatMap]
    exact ⟨⟨_, hv⟩, List.mem_attach _ _, ih⟩
  | field hv _ ih =>
    rw [referenceTexts, List.mem_append, List.mem_flatMap]
    exact .inr ⟨⟨_, hv⟩, List.mem_attach _ _, ih⟩

theorem resolveReference_occurs {root target : Json} {r : String}
    (h : resolveReference root r = .ok target) : Json.Occurs target root := by
  unfold resolveReference at h
  split at h
  · split at h
    · cases h
      exact Pointer.resolve_occurs ‹_›
    · cases h
  · cases h

theorem lex_of_le_of_lt {a a' b b' : Nat} (ha : a' ≤ a) (hb : b' < b) :
    Prod.Lex (· < ·) (· < ·) (a', b') (a, b) := by
  rcases Nat.lt_or_eq_of_le ha with h | rfl
  · exact .left _ _ h
  · exact .right _ hb

mutual

/-- Renders a value with its references replaced by their targets. `seen` holds the
references being expanded; meeting one of them again hoists it. Each reference followed is one
fewer of the root's references left to expand, so rendering ends. -/
def inline (root : Json) (seen : List String) (hoisted : Hoisted) (v : Json) :
    Except ContractError (Json × Hoisted) :=
  match v with
  | .obj fields =>
    match _hr : referenceOf (.obj fields) with
    | some r =>
      if _hs : seen.contains r then
        let (name, hoisted) := hoist hoisted r
        let token := Pointer.encodeToken name
        .ok (.obj [("$ref", .str s!"#/$defs/{token}")], hoisted)
      else
        match _ht : resolveReference root r with
        | .error e => .error e
        | .ok target => inline root (r :: seen) hoisted target
    | none => do
      let (fields, hoisted) ← inlineFields root seen hoisted fields
      return (.obj fields, hoisted)
  | .arr items => do
    let (items, hoisted) ← inlineItems root seen hoisted items
    return (.arr items, hoisted)
  | other => .ok (other, hoisted)
termination_by (2 * unseen root seen + outside (Json.Occurs v root), sizeOf v)
decreasing_by
  · -- a reference followed: one more of the root's references is being expanded
    apply Prod.Lex.left
    have hnot : r ∉ seen := by simpa using _hs
    have hle := unseen_cons_le root seen r
    have hone := outside_le_one (target.Occurs root)
    by_cases ho : (Json.obj fields).Occurs root
    · have hlt := unseen_cons_lt (mem_referenceTexts ho _hr) hnot
      omega
    · have h0 : outside (target.Occurs root) = 0 := outside_of_holds (resolveReference_occurs _ht)
      have h1 : outside ((Json.obj fields).Occurs root) = 1 := by simp [outside, ho]
      omega
  · apply lex_of_le_of_lt
    · exact Nat.add_le_add_left
        (outside_le fun h p hp => Json.Occurs.trans (.field hp (.refl _)) h) _
    · simp only [Json.obj.sizeOf_spec]
      omega
  · apply lex_of_le_of_lt
    · exact Nat.add_le_add_left
        (outside_le fun h x hx => Json.Occurs.trans (.item hx (.refl _)) h) _
    · simp only [Json.arr.sizeOf_spec]
      omega

def inlineFields (root : Json) (seen : List String) (hoisted : Hoisted) :
    List (String × Json) → Except ContractError (List (String × Json) × Hoisted)
  | [] => .ok ([], hoisted)
  | (k, v) :: rest => do
    let (v, hoisted) ← inline root seen hoisted v
    let (rest, hoisted) ← inlineFields root seen hoisted rest
    return ((k, v) :: rest, hoisted)
termination_by fields => (2 * unseen root seen + outside (∀ p ∈ fields, Json.Occurs p.2 root),
  sizeOf fields)
decreasing_by
  · apply lex_of_le_of_lt
    · exact Nat.add_le_add_left (outside_le fun h => h (k, v) List.mem_cons_self) _
    · simp only [List.cons.sizeOf_spec, Prod.mk.sizeOf_spec]
      omega
  · apply lex_of_le_of_lt
    · exact Nat.add_le_add_left (outside_le fun h p hp => h p (List.mem_cons_of_mem _ hp)) _
    · simp only [List.cons.sizeOf_spec]
      omega

def inlineItems (root : Json) (seen : List String) (hoisted : Hoisted) :
    List Json → Except ContractError (List Json × Hoisted)
  | [] => .ok ([], hoisted)
  | v :: rest => do
    let (v, hoisted) ← inline root seen hoisted v
    let (rest, hoisted) ← inlineItems root seen hoisted rest
    return (v :: rest, hoisted)
termination_by items => (2 * unseen root seen + outside (∀ x ∈ items, Json.Occurs x root),
  sizeOf items)
decreasing_by
  · apply lex_of_le_of_lt
    · exact Nat.add_le_add_left (outside_le fun h => h v List.mem_cons_self) _
    · simp only [List.cons.sizeOf_spec]
      omega
  · apply lex_of_le_of_lt
    · exact Nat.add_le_add_left (outside_le fun h x hx => h x (List.mem_cons_of_mem _ hx)) _
    · simp only [List.cons.sizeOf_spec]
      omega

end

/-- Renders a schema value standing on its own: references inlined, cycles hoisted into
`$defs` (an object gains a `$defs` member; anything else is wrapped in `allOf`). -/
def render (root : Json) (v : Json) : Except ContractError Json := do
  let (rendered, hoisted) ← inline root [] [] v
  if hoisted.isEmpty then return rendered
  -- each hoisted target is rendered in turn; rendering may hoist more, at most one entry for
  -- each reference of the root
  let rec defs : Nat → Nat → Hoisted → List (String × Json) →
      Except ContractError (List (String × Json))
    | 0, _, _, acc => .ok acc
    | budget + 1, next, hoisted, acc =>
      match hoisted[next]? with
      | none => .ok acc
      | some (reference, name) => do
        let target ← resolveReference root reference
        let (body, hoisted) ← inline root [reference] hoisted target
        defs budget (next + 1) hoisted (acc ++ [(name, body)])
  let found ← defs ((referenceTexts root).length + 1) 0 hoisted []
  match rendered with
  | .obj fields => return .obj (Json.setField fields "$defs" (.obj found))
  | other => return .obj [("allOf", .arr [other]), ("$defs", .obj found)]

/-- A document being read: its parsed root and the index of its source text. -/
structure Document where
  root : Json
  index : SourceIndex

namespace Document

/-- A schema at a token path: rendered, and located at its (followed) `type` key. -/
def schema (d : Document) (value : Json) (path : List String) :
    Except ContractError SchemaDefinition := do
  let (_, path) ← follow d.root value path
  let rendered ← render d.root value
  let location := (d.index.get? (path ++ ["type"])).getD .unknown
  return (SchemaDefinition.ofValue rendered).withLocation location

/-- One parameter, after following its references. -/
def parameter (d : Document) (template : String) (value : Json) (path : List String) :
    Except ContractError Parameter := do
  let (value, path) ← follow d.root value path
  let some name := value.strField? "name"
    | .error (.invalidParameter template "missing 'name'")
  let some loc := value.strField? "in"
    | .error (.invalidParameter template s!"parameter '{name}' is missing 'in'")
  let some location := ParameterLocation.ofName? loc
    | .error (.invalidParameter template s!"parameter '{name}' has unknown location '{loc}'")
  let p := Parameter.new name location
  let p := match (value.get? "required").bind Json.getBool? with
    | some r => { p with required := r }
    | none => p
  match value.get? "schema" with
  | some s => return { p with schema := some (← d.schema s (path ++ ["schema"])) }
  | none => return p

/-- The `parameters` list of an object, each read in turn. -/
def parameters (d : Document) (template : String) (owner : Json) (base : List String) :
    Except ContractError (List Parameter) :=
  match (owner.get? "parameters").bind Json.getArr? with
  | none => .ok []
  | some list =>
    (list.zipIdx).mapM (fun (p, i) => d.parameter template p (base ++ ["parameters", toString i]))

/-- One operation: id, deprecation, string tags, parameters, and a JSON request body. -/
def operation (d : Document) (template : String) (value : Json) (path : List String) :
    Except ContractError Operation := do
  let tags := ((value.get? "tags").bind Json.getArr?).getD [] |>.filterMap Json.getStr?
  let params ← d.parameters template value path
  let body ← match value.get? "requestBody" with
    | none => pure none
    | some b => do
      let (b, bodyPath) ← follow d.root b (path ++ ["requestBody"])
      match Pointer.resolve b "/content/application~1json/schema" with
      | none => pure none
      | some s => some <$> d.schema s (bodyPath ++ ["content", "application/json", "schema"])
  return { operationId := value.strField? "operationId",
           deprecated := ((value.get? "deprecated").bind Json.getBool?).getD false,
           tags := tags, parameters := params, requestBody := body }

/-- One path item: shared parameters, then operations in verb order. -/
def pathItem (d : Document) (template : String) (value : Json) :
    Except ContractError PathItem := do
  let (value, base) ← follow d.root value ["paths", template]
  let params ← d.parameters template value base
  Verb.all.foldlM (fun item v => do
    let key := v.name.toLower
    match value.get? key with
    | none => pure item
    | some op => return item.withOperation v (← d.operation template op (base ++ [key])))
    ({ parameters := params } : PathItem)

/-- The contract of a document. -/
def contract (d : Document) : Except ContractError Contract := do
  let info := d.root.get? "info"
  let title := (info.bind (·.strField? "title")).getD ""
  let version := (info.bind (·.strField? "version")).getD ""
  let paths := ((d.root.get? "paths").bind Json.getObj?).getD []
  paths.foldlM (fun c (template, item) => return c.addPath template (← d.pathItem template item))
    ({ title := title, version := version } : Contract)

end Document

end Covenant.Contract
