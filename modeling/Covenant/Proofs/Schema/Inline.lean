import Covenant.Proofs.Schema.Unfold
import Covenant.Proofs.Schema.Hoist

/-!
# What inlining produces

A successful `inline` yields a rendering in the sense of `Renders`, under the entries it hoisted
(`inline_inlined`). Three facts travel with it through the recursion:

* every reference being expanded leads, from its target, to the value at hand (`SeenLeads`), so a
  reference is hoisted only when it recurs in its own target (`Recurs`), and the hoisted entries
  stay distinct (`Hoisted.Valid`);
* an object without a string `$ref` renders to one without, provided no `$ref` member of the
  document is itself a reference (`NoNestedReference`);
* when no reference recurs along the way (`Quiet`), nothing is hoisted.
-/

namespace Covenant.Contract

/-- `z` is met while rendering `x`: references are followed, and objects without a string
`$ref` and arrays are entered. -/
inductive Reaches (doc : Json) : Json → Json → Prop
  | refl (x : Json) : Reaches doc x x
  | follow {x target z : Json} {r : String} :
      referenceOf x = some r → resolveReference doc r = .ok target → Reaches doc target z →
      Reaches doc x z
  | field {fields : List (String × Json)} {key : String} {v z : Json} :
      referenceOf (.obj fields) = none → (key, v) ∈ fields → Reaches doc v z →
      Reaches doc (.obj fields) z
  | item {items : List Json} {x z : Json} :
      x ∈ items → Reaches doc x z → Reaches doc (.arr items) z

section Reach

variable {doc : Json}

theorem Reaches.trans {x y z : Json} (hxy : Reaches doc x y) (hyz : Reaches doc y z) :
    Reaches doc x z := by
  induction hxy with
  | refl => exact hyz
  | follow hr ht _ ih => exact .follow hr ht (ih hyz)
  | field hnone hp _ ih => exact .field hnone hp (ih hyz)
  | item hx _ ih => exact .item hx (ih hyz)

theorem Reaches.occurs {x z : Json} (hx : Json.Occurs x doc) (h : Reaches doc x z) :
    Json.Occurs z doc := by
  induction h with
  | refl => exact hx
  | follow _ ht _ ih => exact ih (resolveReference_occurs ht)
  | field _ hp _ ih => exact ih (Json.Occurs.trans (.field hp (.refl _)) hx)
  | item hmem _ ih => exact ih (Json.Occurs.trans (.item hmem (.refl _)) hx)

end Reach

/-- A reference that is met again inside its own target. -/
def Recurs (doc : Json) (r : String) : Prop :=
  ∃ target z, resolveReference doc r = .ok target ∧ Reaches doc target z ∧ referenceOf z = some r

/-- Rendering `x` runs into a reference that recurs in its own target. -/
def CycleFrom (doc x : Json) : Prop :=
  ∃ z r, Reaches doc x z ∧ referenceOf z = some r ∧ Recurs doc r

/-- Each reference being expanded leads, from its target, to `x`. -/
def SeenLeads (doc : Json) (seen : List String) (x : Json) : Prop :=
  ∀ r ∈ seen, ∃ target, resolveReference doc r = .ok target ∧ Reaches doc target x

/-- Nothing is hoisted while rendering `x`: no reference met recurs, and none of those being
expanded is met again. -/
def Quiet (doc : Json) (seen : List String) (x : Json) : Prop :=
  ¬CycleFrom doc x ∧ ∀ z r, Reaches doc x z → referenceOf z = some r → r ∉ seen

/-- No object of the document has a `$ref` member that is itself a reference. -/
def NoNestedReference (doc : Json) : Prop :=
  ∀ fields w, Json.Occurs (.obj fields) doc → ("$ref", w) ∈ fields → referenceOf w = none

section Occurrences

theorem occurs_obj_iff {z : Json} {fields : List (String × Json)} :
    Json.Occurs z (.obj fields) ↔ z = .obj fields ∨ ∃ key v, (key, v) ∈ fields ∧ Json.Occurs z v := by
  constructor
  · intro h
    cases h with
    | refl => exact .inl rfl
    | field hmem hz => exact .inr ⟨_, _, hmem, hz⟩
  · rintro (rfl | ⟨key, v, hmem, hz⟩)
    · exact .refl _
    · exact .field hmem hz

theorem occurs_arr_iff {z : Json} {items : List Json} :
    Json.Occurs z (.arr items) ↔ z = .arr items ∨ ∃ x ∈ items, Json.Occurs z x := by
  constructor
  · intro h
    cases h with
    | refl => exact .inl rfl
    | item hmem hz => exact .inr ⟨_, hmem, hz⟩
  · rintro (rfl | ⟨x, hmem, hz⟩)
    · exact .refl _
    · exact .item hmem hz

theorem eq_of_occurs_isScalar {z x : Json} (hx : IsScalar x) (hz : Json.Occurs z x) : z = x := by
  cases hz with
  | refl => rfl
  | item => cases hx
  | field => cases hx

@[simp] theorem noNestedReference_obj {fields : List (String × Json)} :
    NoNestedReference (.obj fields) ↔
      (∀ w, ("$ref", w) ∈ fields → referenceOf w = none) ∧ ∀ p ∈ fields, NoNestedReference p.2 := by
  constructor
  · intro h
    exact ⟨fun w hw => h fields w (.refl _) hw,
      fun p hp fields' w hocc hw => h fields' w (.field hp hocc) hw⟩
  · rintro ⟨hself, hsub⟩ fields' w hocc hw
    rcases occurs_obj_iff.mp hocc with h | ⟨key, v, hmem, hv⟩
    · cases h
      exact hself w hw
    · exact hsub (key, v) hmem fields' w hv hw

@[simp] theorem noNestedReference_arr {items : List Json} :
    NoNestedReference (.arr items) ↔ ∀ x ∈ items, NoNestedReference x := by
  constructor
  · intro h x hx fields w hocc hw
    exact h fields w (.item hx hocc) hw
  · intro h fields w hocc hw
    rcases occurs_arr_iff.mp hocc with h' | ⟨x, hx, hocc⟩
    · cases h'
    · exact h x hx fields w hocc hw

theorem noNestedReference_of_isScalar {x : Json} (hx : IsScalar x) : NoNestedReference x := by
  intro fields w hocc
  rw [← eq_of_occurs_isScalar hx hocc] at hx
  cases hx

@[simp] theorem noNestedReference_str (s : String) : NoNestedReference (.str s) :=
  noNestedReference_of_isScalar trivial

end Occurrences

/-- Hoisted entries are distinct and each reference recurs in its own target. -/
structure Hoisted.Valid (doc : Json) (hoisted : Hoisted) : Prop extends Hoisted.Distinct hoisted where
  recurs : ∀ e ∈ hoisted, Recurs doc e.1

section Invariants

variable {doc : Json} {seen : List String}

theorem SeenLeads.follow {x target : Json} {r : String} (h : SeenLeads doc seen x)
    (hr : referenceOf x = some r) (ht : resolveReference doc r = .ok target) :
    SeenLeads doc (r :: seen) target := by
  intro r' hr'
  rcases List.mem_cons.mp hr' with rfl | hmem
  · exact ⟨target, ht, .refl _⟩
  · obtain ⟨t, ht', hreach⟩ := h r' hmem
    exact ⟨t, ht', hreach.trans (.follow hr ht (.refl _))⟩

theorem SeenLeads.of_reaches {x x' : Json} (h : SeenLeads doc seen x) (hx : Reaches doc x x') :
    SeenLeads doc seen x' := by
  intro r hr
  obtain ⟨t, ht, hreach⟩ := h r hr
  exact ⟨t, ht, hreach.trans hx⟩

theorem CycleFrom.of_reaches {x x' : Json} (hx : Reaches doc x x') (h : CycleFrom doc x') :
    CycleFrom doc x := by
  obtain ⟨z, r, hz, hr, hrec⟩ := h
  exact ⟨z, r, hx.trans hz, hr, hrec⟩

theorem Quiet.of_reaches {x x' : Json} (h : Quiet doc seen x) (hx : Reaches doc x x') :
    Quiet doc seen x' :=
  ⟨fun hc => h.1 (hc.of_reaches hx), fun z r hz => h.2 z r (hx.trans hz)⟩

theorem Quiet.follow {x target : Json} {r : String} (h : Quiet doc seen x)
    (hr : referenceOf x = some r) (ht : resolveReference doc r = .ok target) :
    Quiet doc (r :: seen) target := by
  have hstep : Reaches doc x target := .follow hr ht (.refl _)
  refine ⟨fun hc => h.1 (hc.of_reaches hstep), fun z r' hz hzr hmem => ?_⟩
  rcases List.mem_cons.mp hmem with rfl | hmem
  · -- meeting the reference again inside its target is a cycle from `x`
    exact h.1 ⟨x, r', .refl _, hr, target, z, ht, hz, hzr⟩
  · exact h.2 z r' (.follow hr ht hz) hzr hmem

theorem Hoisted.Valid.hoist {hoisted : Hoisted} {r : String} (h : Hoisted.Valid doc hoisted)
    (hr : Recurs doc r) : Hoisted.Valid doc (Contract.hoist hoisted r).2 where
  toDistinct := h.toDistinct.hoist
  recurs e he := by
    rcases mem_of_mem_hoist he with he | rfl
    · exact h.recurs e he
    · exact hr

end Invariants

section Steps

variable {doc : Json} {seen : List String} {hoisted hoisted' : Hoisted}

theorem except_bind_eq_ok {ε α β : Type} (x : Except ε α) (f : α → Except ε β) (b : β) :
    x >>= f = .ok b ↔ ∃ a, x = .ok a ∧ f a = .ok b := by
  cases x <;> simp [bind, Except.bind]

theorem inline_of_mem {fields : List (String × Json)} {r : String}
    (hr : referenceOf (.obj fields) = some r) (hs : r ∈ seen) :
    inline doc seen hoisted (.obj fields) =
      .ok (hoistedRef (hoist hoisted r).1, (hoist hoisted r).2) := by
  rw [inline]
  split
  · rename_i r' hr'
    rw [hr] at hr'
    cases hr'
    simp [hs, hoistedRef]
  · simp_all

theorem inline_of_not_mem {fields : List (String × Json)} {r : String}
    (hr : referenceOf (.obj fields) = some r) (hs : r ∉ seen) :
    inline doc seen hoisted (.obj fields) =
      (resolveReference doc r).bind (inline doc (r :: seen) hoisted) := by
  rw [inline]
  split
  · rename_i r' hr'
    rw [hr] at hr'
    cases hr'
    simp only [List.contains_iff_mem, hs, dite_false]
    split <;> simp_all [Except.bind]
  · simp_all

theorem inline_obj_eq_ok {fields : List (String × Json)} {y : Json}
    (hr : referenceOf (.obj fields) = none) :
    inline doc seen hoisted (.obj fields) = .ok (y, hoisted') ↔
      ∃ rendered, inlineFields doc seen hoisted fields = .ok (rendered, hoisted') ∧
        y = .obj rendered := by
  rw [inline]
  split
  · simp_all
  · rw [except_bind_eq_ok]
    constructor
    · rintro ⟨⟨rendered, h⟩, hfields, hy⟩
      cases hy
      exact ⟨rendered, hfields, rfl⟩
    · rintro ⟨rendered, hfields, rfl⟩
      exact ⟨_, hfields, rfl⟩

theorem inline_arr_eq_ok {items : List Json} {y : Json} :
    inline doc seen hoisted (.arr items) = .ok (y, hoisted') ↔
      ∃ rendered, inlineItems doc seen hoisted items = .ok (rendered, hoisted') ∧
        y = .arr rendered := by
  rw [inline, except_bind_eq_ok]
  constructor
  · rintro ⟨⟨rendered, h⟩, hitems, hy⟩
    cases hy
    exact ⟨rendered, hitems, rfl⟩
  · rintro ⟨rendered, hitems, rfl⟩
    exact ⟨_, hitems, rfl⟩

theorem inline_of_isScalar {x : Json} (hx : IsScalar x) :
    inline doc seen hoisted x = .ok (x, hoisted) := by
  rw [inline.eq_def]
  cases x <;> simp_all [IsScalar]

theorem inlineItems_cons_eq_ok {v : Json} {rest rendered : List Json} :
    inlineItems doc seen hoisted (v :: rest) = .ok (rendered, hoisted') ↔
      ∃ v' mid rest', inline doc seen hoisted v = .ok (v', mid) ∧
        inlineItems doc seen mid rest = .ok (rest', hoisted') ∧ rendered = v' :: rest' := by
  rw [inlineItems, except_bind_eq_ok]
  constructor
  · rintro ⟨⟨v', mid⟩, hv, hrest⟩
    obtain ⟨⟨rest', h⟩, hrest, heq⟩ := (except_bind_eq_ok _ _ _).mp hrest
    cases heq
    exact ⟨v', mid, rest', hv, hrest, rfl⟩
  · rintro ⟨v', mid, rest', hv, hrest, rfl⟩
    exact ⟨_, hv, (except_bind_eq_ok _ _ _).mpr ⟨_, hrest, rfl⟩⟩

theorem inlineFields_cons_eq_ok {key : String} {v : Json} {rest rendered : List (String × Json)} :
    inlineFields doc seen hoisted ((key, v) :: rest) = .ok (rendered, hoisted') ↔
      ∃ v' mid rest', inline doc seen hoisted v = .ok (v', mid) ∧
        inlineFields doc seen mid rest = .ok (rest', hoisted') ∧ rendered = (key, v') :: rest' := by
  rw [inlineFields, except_bind_eq_ok]
  constructor
  · rintro ⟨⟨v', mid⟩, hv, hrest⟩
    obtain ⟨⟨rest', h⟩, hrest, heq⟩ := (except_bind_eq_ok _ _ _).mp hrest
    cases heq
    exact ⟨v', mid, rest', hv, hrest, rfl⟩
  · rintro ⟨v', mid, rest', hv, hrest, rfl⟩
    exact ⟨_, hv, (except_bind_eq_ok _ _ _).mpr ⟨_, hrest, rfl⟩⟩

end Steps

section Objects

variable {doc : Json} {hoisted : Hoisted} {seen : List String}

/-- A value that is not a reference renders to a string only when it is that string. -/
theorem Renders.getStr?_eq {w w' : Json} (h : Renders doc hoisted seen w w')
    (hw : referenceOf w = none) : Json.getStr? w' = Json.getStr? w := by
  cases h with
  | follow hr => simp [hw] at hr
  | hoist hr => simp [hw] at hr
  | obj => rfl
  | arr => rfl
  | scalar => rfl

/-- Members related key by key, with `$ref` members that are strings exactly when their
counterparts are, leave the reference of an object as it was. -/
theorem referenceOf_eq_of_forall₂ {R : Json → Json → Prop} {fields rendered : List (String × Json)}
    (h : List.Forall₂ (fun a b => a.1 = b.1 ∧ R a.2 b.2) fields rendered)
    (hstr : ∀ w w', ("$ref", w) ∈ fields → R w w' → Json.getStr? w' = Json.getStr? w) :
    referenceOf (.obj rendered) = referenceOf (.obj fields) := by
  induction h with
  | nil => rfl
  | @cons a b fields rendered hab _ ih =>
    obtain ⟨hkey, hrel⟩ := hab
    have ih' := ih fun w w' hw => hstr w w' (List.mem_cons_of_mem a hw)
    simp only [referenceOf, Json.get?, List.find?_cons] at ih' ⊢
    by_cases hk : a.1 = "$ref"
    · have hmem : ("$ref", a.2) ∈ a :: fields := by rw [← hk]; exact List.mem_cons_self
      have ha : (a.1 == "$ref") = true := by simpa using hk
      have hb : (b.1 == "$ref") = true := by simpa [← hkey] using hk
      simp only [ha, hb, Option.map_some, Option.bind_some]
      exact hstr a.2 b.2 hmem hrel
    · have ha : (a.1 == "$ref") = false := by simpa using hk
      have hb : (b.1 == "$ref") = false := by simpa [← hkey] using hk
      simp only [ha, hb]
      exact ih'

end Objects

/-- What a call of `inline` gives: the entries hoisted before it stay, in front, all entries are
valid, the result renders under them, and nothing is hoisted when rendering is quiet. -/
structure Inlined (doc : Json) (hoisted : Hoisted) (renders : Hoisted → Prop) (quiet : Prop)
    (hoisted' : Hoisted) : Prop where
  grows : hoisted <+: hoisted'
  valid : Hoisted.Valid doc hoisted'
  renders : renders hoisted'
  quiet : quiet → hoisted' = hoisted

/-- What `inline` gives on one value, from the facts that hold where it is called. -/
def InlineSpec (doc : Json) (seen : List String) (hoisted : Hoisted) (x : Json) : Prop :=
  Json.Occurs x doc → SeenLeads doc seen x → Hoisted.Valid doc hoisted →
    ∀ y hoisted', inline doc seen hoisted x = .ok (y, hoisted') →
      Inlined doc hoisted (fun h => Renders doc h seen x y) (Quiet doc seen x) hoisted'

def ItemsSpec (doc : Json) (seen : List String) (hoisted : Hoisted) (items : List Json) : Prop :=
  (∀ x ∈ items, Json.Occurs x doc ∧ SeenLeads doc seen x) → Hoisted.Valid doc hoisted →
    ∀ rendered hoisted', inlineItems doc seen hoisted items = .ok (rendered, hoisted') →
      Inlined doc hoisted (fun h => List.Forall₂ (Renders doc h seen) items rendered)
        (∀ x ∈ items, Quiet doc seen x) hoisted'

def FieldsSpec (doc : Json) (seen : List String) (hoisted : Hoisted)
    (fields : List (String × Json)) : Prop :=
  (∀ p ∈ fields, Json.Occurs p.2 doc ∧ SeenLeads doc seen p.2) → Hoisted.Valid doc hoisted →
    ∀ rendered hoisted', inlineFields doc seen hoisted fields = .ok (rendered, hoisted') →
      Inlined doc hoisted
        (fun h => List.Forall₂ (fun a b => a.1 = b.1 ∧ Renders doc h seen a.2 b.2) fields rendered)
        (∀ p ∈ fields, Quiet doc seen p.2) hoisted'

/-- `inline`, `inlineItems` and `inlineFields` meet their specifications, by induction along
their own recursion. -/
theorem inline_spec {doc : Json} (hdoc : NoNestedReference doc) :
    (∀ seen hoisted x, InlineSpec doc seen hoisted x) ∧
      (∀ seen hoisted items, ItemsSpec doc seen hoisted items) ∧
      (∀ seen hoisted fields, FieldsSpec doc seen hoisted fields) := by
  refine inline.mutual_induct doc (InlineSpec doc) (ItemsSpec doc) (FieldsSpec doc)
    ?hoist ?error ?follow ?obj ?arr ?scalar ?nil ?cons ?fieldsNil ?fieldsCons
  case hoist =>
    intro seen hoisted fields r hr hcont _ _ _ _ hseen hvalid y hoisted' hrun
    have hs : r ∈ seen := by simpa using hcont
    rw [inline_of_mem hr hs] at hrun
    cases hrun
    -- the reference met again leads back to itself from its target
    obtain ⟨target, ht, hreach⟩ := hseen r hs
    exact ⟨hoist_extends, hvalid.hoist ⟨target, _, ht, hreach, hr⟩, .hoist hr hs mem_hoist,
      fun hq => absurd hs (hq.2 _ r (.refl _) hr)⟩
  case error =>
    intro seen hoisted fields r hr hcont e he _ _ _ y hoisted' hrun
    rw [inline_of_not_mem hr (by simpa using hcont), he] at hrun
    cases hrun
  case follow =>
    intro seen hoisted fields r hr hcont target ht ih _ hseen hvalid y hoisted' hrun
    have hs : r ∉ seen := by simpa using hcont
    rw [inline_of_not_mem hr hs, ht] at hrun
    have h := ih (resolveReference_occurs ht) (hseen.follow hr ht) hvalid y hoisted' hrun
    exact ⟨h.grows, h.valid, .follow hr hs ht h.renders, fun hq => h.quiet (hq.follow hr ht)⟩
  case obj =>
    intro seen hoisted fields hr ih hocc hseen hvalid y hoisted' hrun
    obtain ⟨rendered, hfields, rfl⟩ := (inline_obj_eq_ok hr).mp hrun
    have hchildren : ∀ p ∈ fields, Json.Occurs p.2 doc ∧ SeenLeads doc seen p.2 := fun p hp =>
      ⟨Json.Occurs.trans (.field hp (.refl _)) hocc, hseen.of_reaches (.field hr hp (.refl _))⟩
    have h := ih hchildren hvalid rendered hoisted' hfields
    -- `$ref` members are not references, so they render to strings only when they are strings
    have hnone : referenceOf (.obj rendered) = none := by
      rw [referenceOf_eq_of_forall₂ h.renders
        fun w w' hw hren => hren.getStr?_eq (hdoc fields w hocc hw), hr]
    obtain ⟨hkeys, hsub⟩ := forall₂_fields_iff.mp h.renders
    exact ⟨h.grows, h.valid, .obj hr hnone hkeys hsub,
      fun hq => h.quiet fun p hp => hq.of_reaches (.field hr hp (.refl _))⟩
  case arr =>
    intro seen hoisted items ih hocc hseen hvalid y hoisted' hrun
    obtain ⟨rendered, hitems, rfl⟩ := inline_arr_eq_ok.mp hrun
    have hchildren : ∀ x ∈ items, Json.Occurs x doc ∧ SeenLeads doc seen x := fun x hx =>
      ⟨Json.Occurs.trans (.item hx (.refl _)) hocc, hseen.of_reaches (.item hx (.refl _))⟩
    have h := ih hchildren hvalid rendered hoisted' hitems
    exact ⟨h.grows, h.valid, .arr h.renders.length_eq fun _ hx hy => h.renders.get hx hy,
      fun hq => h.quiet fun x hx => hq.of_reaches (.item hx (.refl _))⟩
  case scalar =>
    intro seen hoisted x hobj harr _ _ hvalid y hoisted' hrun
    have hx : IsScalar x := by
      cases x with
      | obj fields => exact hobj fields rfl
      | arr items => exact harr items rfl
      | _ => trivial
    rw [inline_of_isScalar hx] at hrun
    cases hrun
    exact ⟨List.prefix_refl _, hvalid, .scalar hx, fun _ => rfl⟩
  case nil =>
    intro seen hoisted _ hvalid rendered hoisted' hrun
    simp only [inlineItems, Except.ok.injEq, Prod.mk.injEq] at hrun
    obtain ⟨rfl, rfl⟩ := hrun
    exact ⟨List.prefix_refl _, hvalid, .nil, fun _ => rfl⟩
  case cons =>
    intro seen hoisted v rest ihv ihrest hchildren hvalid rendered hoisted' hrun
    obtain ⟨v', mid, rest', hv, hrest, rfl⟩ := inlineItems_cons_eq_ok.mp hrun
    have hhead := hchildren v List.mem_cons_self
    have h1 := ihv hhead.1 hhead.2 hvalid v' mid hv
    have h2 := ihrest mid (fun x hx => hchildren x (List.mem_cons_of_mem v hx)) h1.valid
      rest' hoisted' hrest
    refine ⟨h1.grows.trans h2.grows, h2.valid,
      .cons (h1.renders.mono fun e he => h2.grows.subset he) h2.renders, fun hq => ?_⟩
    rw [h2.quiet fun x hx => hq x (List.mem_cons_of_mem v hx), h1.quiet (hq v List.mem_cons_self)]
  case fieldsNil =>
    intro seen hoisted _ hvalid rendered hoisted' hrun
    simp only [inlineFields, Except.ok.injEq, Prod.mk.injEq] at hrun
    obtain ⟨rfl, rfl⟩ := hrun
    exact ⟨List.prefix_refl _, hvalid, .nil, fun _ => rfl⟩
  case fieldsCons =>
    intro seen hoisted key v rest ihv ihrest hchildren hvalid rendered hoisted' hrun
    obtain ⟨v', mid, rest', hv, hrest, rfl⟩ := inlineFields_cons_eq_ok.mp hrun
    have hhead := hchildren (key, v) List.mem_cons_self
    have h1 := ihv hhead.1 hhead.2 hvalid v' mid hv
    have h2 := ihrest mid (fun p hp => hchildren p (List.mem_cons_of_mem _ hp)) h1.valid
      rest' hoisted' hrest
    refine ⟨h1.grows.trans h2.grows, h2.valid,
      .cons ⟨rfl, h1.renders.mono fun e he => h2.grows.subset he⟩ h2.renders, fun hq => ?_⟩
    rw [h2.quiet fun p hp => hq p (List.mem_cons_of_mem _ hp),
      h1.quiet (hq (key, v) List.mem_cons_self)]

end Covenant.Contract
