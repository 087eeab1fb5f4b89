import Covenant.Proofs.Schema.Inline

/-!
# Rendering a schema on its own

`render` inlines a value, then renders the target of each hoisted reference into `$defs`,
hoisting more as it goes. The loop runs over a list that grows, with a budget of one step for
each reference of the document: the hoisted references are distinct references of the document
(`Hoisted.Valid.length_le`), so the budget never runs out and every entry gets its definition
(`render_defs_spec`).
-/

namespace Covenant.Contract

/-- A rendered body with `$defs` beside it: a member of an object, or next to an `allOf` that
wraps anything else. -/
def withDefs (body : Json) (defs : List (String × Json)) : Json :=
  match body with
  | .obj fields => .obj (Json.setField fields "$defs" (.obj defs))
  | other => .obj [("allOf", .arr [other]), ("$defs", .obj defs)]

/-- The `$defs` entry of a hoisted reference: under its name, a rendering of its target begun
with the reference itself being expanded. -/
def DefEntry (doc : Json) (hoisted : Hoisted) (e : String × String) (d : String × Json) : Prop :=
  d.1 = e.2 ∧ ∃ target, resolveReference doc e.1 = .ok target ∧ Renders doc hoisted [e.1] target d.2

section Defs

variable {doc : Json}

theorem DefEntry.mono {hoisted hoisted' : Hoisted} {e : String × String} {d : String × Json}
    (h : DefEntry doc hoisted e d) (hsub : hoisted <+: hoisted') : DefEntry doc hoisted' e d := by
  obtain ⟨hname, target, ht, hrender⟩ := h
  exact ⟨hname, target, ht, hrender.mono fun _ he => hsub.subset he⟩

/-- Hoisted references are distinct references of the document. -/
theorem Hoisted.Valid.length_le {hoisted : Hoisted} (h : Hoisted.Valid doc hoisted) :
    hoisted.length ≤ (referenceTexts doc).length := by
  have hsub : hoisted.map Prod.fst ⊆ referenceTexts doc := by
    intro r hr
    obtain ⟨e, he, rfl⟩ := List.mem_map.mp hr
    obtain ⟨target, z, ht, hz, hzr⟩ := h.recurs e he
    exact mem_referenceTexts (hz.occurs (resolveReference_occurs ht)) hzr
  simpa using h.refs.length_le_of_subset hsub

theorem take_succ_of_extends {hoisted mid : Hoisted} {next : Nat} {e : String × String}
    (hpre : hoisted <+: mid) (hget : hoisted[next]? = some e) :
    mid.take (next + 1) = hoisted.take next ++ [e] := by
  have hlt : next < hoisted.length := (List.getElem?_eq_some_iff.mp hget).1
  calc mid.take (next + 1) = (mid.take hoisted.length).take (next + 1) := by
        rw [List.take_take, Nat.min_eq_left (by omega)]
    _ = hoisted.take (next + 1) := by rw [← List.prefix_iff_eq_take.mp hpre]
    _ = hoisted.take next ++ [e] := by rw [List.take_add_one, hget, Option.toList_some]

/-- The loop over the hoisted entries: from a valid list whose first `next` entries have their
definitions in `acc`, and a budget that covers the document's references, it gives every entry of
a longer valid list its definition. -/
theorem render_defs_spec (hdoc : NoNestedReference doc) (budget next : Nat) (hoisted : Hoisted)
    (acc found : List (String × Json)) (hrun : render.defs doc budget next hoisted acc = .ok found)
    (hvalid : Hoisted.Valid doc hoisted) (hnext : next ≤ hoisted.length)
    (hacc : List.Forall₂ (DefEntry doc hoisted) (hoisted.take next) acc)
    (hbudget : (referenceTexts doc).length < budget + next) :
    ∃ hoisted', hoisted <+: hoisted' ∧ Hoisted.Valid doc hoisted' ∧
      List.Forall₂ (DefEntry doc hoisted') hoisted' found := by
  induction budget generalizing next hoisted acc with
  | zero =>
    -- the budget covers every reference of the document, so it never runs out
    have := hvalid.length_le
    omega
  | succ budget ih =>
    rw [render.defs.eq_2] at hrun
    cases hget : hoisted[next]? with
    | none =>
      rw [hget] at hrun
      cases hrun
      have hlen : hoisted.length ≤ next := List.getElem?_eq_none_iff.mp hget
      refine ⟨hoisted, List.prefix_refl _, hvalid, ?_⟩
      rwa [List.take_of_length_le hlen] at hacc
    | some e =>
      obtain ⟨reference, name⟩ := e
      rw [hget] at hrun
      obtain ⟨target, ht, hrun⟩ := (except_bind_eq_ok _ _ _).mp hrun
      obtain ⟨⟨body, mid⟩, hbody, hrun⟩ := (except_bind_eq_ok _ _ _).mp hrun
      have hlt : next < hoisted.length := (List.getElem?_eq_some_iff.mp hget).1
      have hseen : SeenLeads doc [reference] target := fun r hr => by
        rw [List.mem_singleton.mp hr]
        exact ⟨target, ht, .refl _⟩
      have h := (inline_spec hdoc).1 [reference] hoisted target (resolveReference_occurs ht) hseen
        hvalid body mid hbody
      -- the entry just rendered joins those before it, all read under the longer list
      have hacc' : List.Forall₂ (DefEntry doc mid) (mid.take (next + 1)) (acc ++ [(name, body)]) := by
        rw [take_succ_of_extends h.grows hget]
        exact List.rel_append (hacc.imp fun _ _ he => he.mono h.grows)
          (.cons ⟨rfl, target, ht, h.renders⟩ .nil)
      have hnext' : next + 1 ≤ mid.length := by
        have := h.grows.length_le
        omega
      obtain ⟨hoisted', hpre, hval, hrel⟩ := ih (next + 1) mid _ hrun h.valid hnext' hacc' (by omega)
      exact ⟨hoisted', h.grows.trans hpre, hval, hrel⟩

end Defs

section Pointers

theorem defsPointer_eq (name : String) :
    s!"#/$defs/{Pointer.encodeToken name}" = "#" ++ Pointer.join ["$defs", name] := by
  have h : Pointer.encodeToken "$defs" = "$defs" := by decide
  show "#/$defs/" ++ Pointer.encodeToken name = _
  simp only [Pointer.join, List.map_cons, List.map_nil, String.join_cons, String.join_nil, h,
    String.append_empty, ← String.append_assoc]
  rfl

theorem resolveReference_hash {doc v : Json} {pointer : String}
    (h : Pointer.resolve doc pointer = some v) : resolveReference doc ("#" ++ pointer) = .ok v := by
  have hstart : ("#" ++ pointer).startsWith "#" = true := by simp [String.startsWith_string_iff]
  simp [resolveReference, hstart, h]

/-- A pointer to a member of the root. -/
theorem resolveReference_top {fields : List (String × Json)} {key : String} {v : Json}
    (hkey : Pointer.encodeToken key = key) (hget : (Json.obj fields).get? key = some v) :
    resolveReference (.obj fields) ("#/" ++ key) = .ok v := by
  have hptr : "#/" ++ key = "#" ++ Pointer.join [key] := by
    simp only [Pointer.join, List.map_cons, List.map_nil, String.join_cons, String.join_nil, hkey,
      String.append_empty, ← String.append_assoc]
    rfl
  rw [hptr]
  apply resolveReference_hash
  rw [Pointer.resolve_join]
  simp [Pointer.walk, hget]

theorem get?_of_mem {fields : List (String × Json)} {key : String} {v : Json}
    (hnodup : (fields.map Prod.fst).Nodup) (hmem : (key, v) ∈ fields) :
    (Json.obj fields).get? key = some v := by
  induction fields with
  | nil => cases hmem
  | cons p rest ih =>
    obtain ⟨hp, hrest⟩ := List.nodup_cons.mp hnodup
    rcases List.mem_cons.mp hmem with rfl | hmem
    · simp [Json.get?]
    · have hne : (p.1 == key) = false := by
        simpa using fun h : p.1 = key => hp (h ▸ List.mem_map_of_mem hmem)
      have ih' := ih hrest hmem
      simp only [Json.get?, List.find?_cons] at ih' ⊢
      simp only [hne]
      exact ih'

theorem get?_setField_self (fields : List (String × Json)) (key : String) (v : Json) :
    (Json.obj (Json.setField fields key v)).get? key = some v := by
  unfold Json.setField
  split
  · rename_i hany
    obtain ⟨q, hq, hkey⟩ := List.any_eq_true.mp hany
    have hfind : (fields.find? (·.1 == key)).isSome := List.find?_isSome.mpr ⟨q, hq, hkey⟩
    obtain ⟨q', hq'⟩ := Option.isSome_iff_exists.mp hfind
    have hkey' : q'.1 = key := by simpa using List.find?_some hq'
    have hsame : ((fun p : String × Json => p.1 == key) ∘
        fun p => if (p.1 == key) = true then (key, v) else p) = (·.1 == key) := by
      funext p
      by_cases hp : p.1 = key <;> simp [hp]
    simp only [Json.get?]
    rw [List.find?_map, hsame, hq']
    simp [hkey']
  · rename_i hany
    have hnone : fields.find? (·.1 == key) = none :=
      List.find?_eq_none.mpr fun q hq hkey => hany (List.any_eq_true.mpr ⟨q, hq, hkey⟩)
    simp [Json.get?, List.find?_append, hnone]

theorem get?_setField_of_ne (fields : List (String × Json)) {key k : String} (v : Json)
    (hk : k ≠ key) : (Json.obj (Json.setField fields key v)).get? k = (Json.obj fields).get? k := by
  unfold Json.setField
  split
  · simp only [Json.get?, List.find?_map]
    have hsame : ((fun p : String × Json => p.1 == k) ∘
        fun p => if (p.1 == key) = true then (key, v) else p) = (·.1 == k) := by
      funext p
      by_cases hp : p.1 = key <;> simp [hp]
    rw [hsame]
    cases hfind : fields.find? (·.1 == k) with
    | none => rfl
    | some q =>
      have hq : q.1 = k := by simpa using List.find?_some hfind
      have hne : q.1 ≠ key := hq ▸ hk
      simp [hne]
  · have hne : (key == k) = false := by simpa using Ne.symm hk
    simp [Json.get?, List.find?_append, hne]

/-- In a rendering with `$defs`, the pointer to a name leads to its entry. -/
theorem resolveReference_withDefs {body : Json} {defs : List (String × Json)} {name : String}
    {d : Json} (hnodup : (defs.map Prod.fst).Nodup) (hmem : (name, d) ∈ defs) :
    resolveReference (withDefs body defs) s!"#/$defs/{Pointer.encodeToken name}" = .ok d := by
  have hdefs : (withDefs body defs).get? "$defs" = some (.obj defs) := by
    cases body with
    | obj fields => exact get?_setField_self fields "$defs" _
    | _ => simp [withDefs, Json.get?]
  rw [defsPointer_eq]
  apply resolveReference_hash
  rw [Pointer.resolve_join]
  have hobj : ∃ fields, withDefs body defs = .obj fields := by
    cases body <;> simp [withDefs]
  obtain ⟨fields, hfields⟩ := hobj
  rw [hfields] at hdefs ⊢
  simp [Pointer.walk, hdefs, get?_of_mem hnodup hmem]

end Pointers

section References

variable {doc : Json} {hoisted : Hoisted} {seen : List String}

/-- The only objects with a string `$ref` in a rendering are the pointers to hoisted names. -/
theorem Renders.pointer_of_occurs {x y z : Json} {s : String} (h : Renders doc hoisted seen x y)
    (hz : Json.Occurs z y) (hs : referenceOf z = some s) :
    ∃ name ∈ hoisted.map Prod.snd, z = hoistedRef name := by
  induction h with
  | follow _ _ _ _ ih => exact ih hz
  | hoist _ _ hmem =>
    rcases occurs_obj_iff.mp hz with rfl | ⟨key, v, hmem', hv⟩
    · exact ⟨_, List.mem_map_of_mem hmem, rfl⟩
    · -- below the pointer there is only its string
      obtain ⟨-, rfl⟩ := List.mem_singleton.mp hmem'
      cases hv
      simp [referenceOf, Json.get?] at hs
  | @obj seen fields rendered _ hnone hkeys _ ih =>
    rcases occurs_obj_iff.mp hz with rfl | ⟨key, v, hmem, hv⟩
    · rw [hnone] at hs
      cases hs
    · obtain ⟨i, hi, hget⟩ := List.getElem_of_mem hmem
      have hx : i < fields.length := by
        rw [← List.length_map Prod.fst, hkeys, List.length_map]
        exact hi
      exact ih i hx hi (by rw [hget]; exact hv)
  | @arr seen items rendered hlen _ ih =>
    rcases occurs_arr_iff.mp hz with rfl | ⟨v, hmem, hv⟩
    · simp at hs
    · obtain ⟨i, hi, rfl⟩ := List.getElem_of_mem hmem
      exact ih i (by omega) hi hv
  | scalar hsc =>
    rw [eq_of_occurs_isScalar hsc hz, referenceOf_of_isScalar hsc] at hs
    cases hs

/-- A value from which a reference being expanded is met again does not render to a string. -/
theorem Renders.getStr?_of_reaches {t y z : Json} {r : String} (h : Renders doc hoisted seen t y)
    (hz : Reaches doc t z) (hzr : referenceOf z = some r) (hr : r ∈ seen) :
    Json.getStr? y = none := by
  induction h generalizing z with
  | follow hr0 hs0 ht0 _ ih =>
    cases hz with
    | refl =>
      rw [hr0] at hzr
      cases hzr
      exact absurd hr hs0
    | follow hr1 ht1 hz' =>
      rw [hr0] at hr1
      cases hr1
      rw [ht0] at ht1
      cases ht1
      exact ih hz' hzr (List.mem_cons_of_mem _ hr)
    | field hnone => simp [hnone] at hr0
    | item => simp at hr0
  | hoist => simp [hoistedRef, Json.getStr?]
  | obj => rfl
  | arr => rfl
  | scalar hsc =>
    cases hz with
    | refl => simp [referenceOf_of_isScalar hsc] at hzr
    | follow hr1 => simp [referenceOf_of_isScalar hsc] at hr1
    | field => cases hsc
    | item => cases hsc

theorem referenceOf_obj_of_getStr? {fields : List (String × Json)}
    (h : ∀ p ∈ fields, Json.getStr? p.2 = none) : referenceOf (.obj fields) = none := by
  simp only [referenceOf, Json.get?]
  cases hfind : fields.find? (·.1 == "$ref") with
  | none => rfl
  | some p => simp [h p (List.mem_of_find?_eq_some hfind)]

end References

section Attached

variable {doc : Json} {hoisted : Hoisted} {defs : List (String × Json)}

theorem mem_setField {fields : List (String × Json)} {key k : String} {v w : Json}
    (h : (k, w) ∈ Json.setField fields key v) : (k, w) ∈ fields ∨ w = v := by
  unfold Json.setField at h
  split at h
  · obtain ⟨p, hp, heq⟩ := List.mem_map.mp h
    by_cases hk : p.1 = key
    · simp only [hk, beq_self_eq_true, if_true, Prod.mk.injEq] at heq
      exact .inr heq.2.symm
    · simp only [beq_iff_eq, hk, if_false] at heq
      exact .inl (heq ▸ hp)
  · rcases List.mem_append.mp h with h | h
    · exact .inl h
    · exact .inr (Prod.ext_iff.mp (List.mem_singleton.mp h)).2

theorem Json.occurs_withDefs {z body : Json} {s : String}
    (hz : Json.Occurs z (withDefs body defs)) (hs : referenceOf z = some s) :
    z = withDefs body defs ∨ Json.Occurs z body ∨ z = .obj defs ∨ ∃ d ∈ defs, Json.Occurs z d.2 := by
  have hdefs : Json.Occurs z (.obj defs) → z = .obj defs ∨ ∃ d ∈ defs, Json.Occurs z d.2 := by
    intro h
    rcases occurs_obj_iff.mp h with rfl | ⟨key, d, hmem, hd⟩
    · exact .inl rfl
    · exact .inr ⟨(key, d), hmem, hd⟩
  cases body with
  | obj fields =>
    rcases occurs_obj_iff.mp hz with rfl | ⟨key, w, hmem, hw⟩
    · exact .inl rfl
    · rcases mem_setField hmem with hmem | rfl
      · exact .inr (.inl (.field hmem hw))
      · exact .inr (.inr (hdefs hw))
  | _ =>
    rcases occurs_obj_iff.mp hz with rfl | ⟨key, w, hmem, hw⟩
    · exact .inl rfl
    · simp only [List.mem_cons, Prod.mk.injEq, List.not_mem_nil, or_false] at hmem
      rcases hmem with ⟨-, rfl⟩ | ⟨-, rfl⟩
      · rcases occurs_arr_iff.mp hw with rfl | ⟨x, hx, hxz⟩
        · simp at hs
        · exact .inr (.inl (List.mem_singleton.mp hx ▸ hxz))
      · exact .inr (.inr (hdefs hw))

theorem referenceOf_withDefs {body : Json} {s : String}
    (h : referenceOf (withDefs body defs) = some s) : referenceOf body = some s := by
  cases body with
  | obj fields =>
    have hne : ("$ref" : String) ≠ "$defs" := by decide
    simpa [referenceOf, withDefs, get?_setField_of_ne fields _ hne] using h
  | _ => simp [referenceOf, withDefs, Json.get?] at h

theorem map_fst_of_defEntries {hoisted' : Hoisted}
    (h : List.Forall₂ (DefEntry doc hoisted) hoisted' defs) :
    defs.map Prod.fst = hoisted'.map Prod.snd := by
  induction h with
  | nil => rfl
  | cons he _ ih => simp [ih, he.1]

theorem exists_of_mem_defs {hoisted' : Hoisted} {d : String × Json}
    (h : List.Forall₂ (DefEntry doc hoisted) hoisted' defs) (hd : d ∈ defs) :
    ∃ e ∈ hoisted', DefEntry doc hoisted e d := by
  induction h with
  | nil => cases hd
  | @cons e d' _ _ he _ ih =>
    rcases List.mem_cons.mp hd with rfl | hd
    · exact ⟨e, List.mem_cons_self, he⟩
    · obtain ⟨e', he', hrel⟩ := ih hd
      exact ⟨e', List.mem_cons_of_mem _ he', hrel⟩

/-- A `$defs` entry renders a target that leads back to its reference, so it is no string. -/
theorem getStr?_of_defEntry (hvalid : Hoisted.Valid doc hoisted) {e : String × String}
    {d : String × Json} (he : e ∈ hoisted) (h : DefEntry doc hoisted e d) :
    Json.getStr? d.2 = none := by
  obtain ⟨-, target, ht, hrender⟩ := h
  obtain ⟨target', z, ht', hz, hzr⟩ := hvalid.recurs e he
  rw [ht] at ht'
  cases ht'
  exact hrender.getStr?_of_reaches hz hzr List.mem_cons_self

/-- Every hoisted name leads, in the rendering with `$defs`, to its entry. -/
theorem defsRender_withDefs (hvalid : Hoisted.Valid doc hoisted)
    (h : List.Forall₂ (DefEntry doc hoisted) hoisted defs) (body : Json) :
    DefsRender (withDefs body defs) doc hoisted := by
  have hnodup : (defs.map Prod.fst).Nodup := by
    rw [map_fst_of_defEntries h]
    exact hvalid.names
  intro r name hmem
  obtain ⟨i, hi, hget⟩ := List.getElem_of_mem hmem
  have hd : i < defs.length := h.length_eq ▸ hi
  have hentry : DefEntry doc hoisted hoisted[i] defs[i] := h.get hi hd
  rw [hget] at hentry
  obtain ⟨hname, target, ht, hrender⟩ := hentry
  refine ⟨target, defs[i].2, [r], ht, resolveReference_withDefs hnodup ?_, hrender⟩
  have hpair : (name, defs[i].2) = defs[i] := Prod.ext hname.symm rfl
  rw [hpair]
  exact List.getElem_mem hd

end Attached

/-- A successful `render`: the value renders to a body under a valid list of hoisted entries,
each with its `$defs` entry, which stand beside the body when there are any; nothing is hoisted
when rendering is quiet. -/
theorem render_spec {doc v out : Json} (hdoc : NoNestedReference doc) (hv : Json.Occurs v doc)
    (hout : render doc v = .ok out) :
    ∃ body hoisted defs, Hoisted.Valid doc hoisted ∧ Renders doc hoisted [] v body ∧
      List.Forall₂ (DefEntry doc hoisted) hoisted defs ∧
      out = (if defs = [] then body else withDefs body defs) ∧
      (Quiet doc [] v → hoisted = []) := by
  rw [render, except_bind_eq_ok] at hout
  obtain ⟨⟨rendered, hoisted⟩, hinline, hrest⟩ := hout
  have h := (inline_spec hdoc).1 [] [] v hv (fun _ hr => nomatch hr)
    ⟨⟨.nil, .nil⟩, fun _ he => nomatch he⟩ rendered hoisted hinline
  by_cases hempty : hoisted = []
  · subst hempty
    simp only [List.isEmpty_nil, if_true, pure, Except.pure, Except.ok.injEq] at hrest
    exact ⟨rendered, [], [], h.valid, h.renders, .nil, by simp [hrest], fun _ => rfl⟩
  · have hne : hoisted.isEmpty = false := List.isEmpty_eq_false_iff.mpr hempty
    simp only [hne, Bool.false_eq_true, if_false] at hrest
    obtain ⟨found, hfound, hmatch⟩ := (except_bind_eq_ok _ _ _).mp hrest
    obtain ⟨hoisted', hpre, hval, hrel⟩ :=
      render_defs_spec hdoc _ 0 hoisted [] found hfound h.valid (Nat.zero_le _) .nil (by omega)
    have hfound : found ≠ [] := by
      intro hnil
      rw [hnil] at hrel
      exact hempty (List.prefix_nil.mp (List.forall₂_nil_right_iff.mp hrel ▸ hpre))
    refine ⟨rendered, hoisted', found, hval, h.renders.mono fun _ he => hpre.subset he, hrel, ?_,
      fun hq => absurd (h.quiet hq) hempty⟩
    rw [if_neg hfound]
    cases rendered <;> simp [withDefs, pure, Except.pure] at hmatch ⊢ <;> exact hmatch.symm

/-- A rendered schema stands on its own and means what the value means. When no `$ref` member of
the document is itself a reference:
* the only objects with a string `$ref` are pointers `#/$defs/<name>` to entries of `$defs`,
  except the whole rendering when the value's own references loop;
* the `$defs` entries are named apart and stand for distinct references, each unfolding as its
  reference's target;
* the body, its `$defs` members left out, unfolds as the value with its root `$defs` left out;
* when rendering meets no reference inside its own target, nothing is hoisted and the rendering,
  read as it stands, is the value unfolded. -/
theorem render_self_contained {doc v out : Json} (hdoc : NoNestedReference doc)
    (hv : Json.Occurs v doc) (hout : render doc v = .ok out) :
    ∃ body defs refs, out = (if defs = [] then body else withDefs body defs) ∧
      (∀ z s, Json.Occurs z out → referenceOf z = some s →
        (∃ name ∈ defs.map Prod.fst, z = hoistedRef name) ∨ (z = out ∧ Looping doc v)) ∧
      refs.Nodup ∧ (defs.map Prod.fst).Nodup ∧
      List.Forall₂ (fun r d => ∃ target, resolveReference doc r = .ok target ∧
        ∀ n t, Unfolds out n d.2 t ↔ Unfolds doc n target t) refs defs ∧
      (∀ n t, Unfolds out n (withoutDefs body) t ↔ UnfoldsBody doc n v t) ∧
      (¬CycleFrom doc v → defs = [] ∧ out = body ∧ ∀ n, Unfolds doc n v (Tree.ofJson n out)) := by
  obtain ⟨body, hoisted, defs, hvalid, hrender, hentries, rfl, hquiet⟩ := render_spec hdoc hv hout
  have hnames : defs.map Prod.fst = hoisted.map Prod.snd := map_fst_of_defEntries hentries
  -- without entries nothing was hoisted; with them every name leads to its entry
  have hdefs : DefsRender (if defs = [] then body else withDefs body defs) doc hoisted := by
    by_cases hnil : defs = []
    · subst hnil
      rw [List.forall₂_nil_right_iff.mp hentries]
      intro r name hmem
      cases hmem
    · rw [if_neg hnil]
      exact defsRender_withDefs hvalid hentries body
  -- an object with a string `$ref` below the body or an entry is a pointer to a name
  have hpointer : ∀ z s, (Json.Occurs z body ∨ ∃ d ∈ defs, Json.Occurs z d.2) →
      referenceOf z = some s → ∃ name ∈ defs.map Prod.fst, z = hoistedRef name := by
    intro z s hz hs
    rw [hnames]
    rcases hz with hz | ⟨d, hd, hz⟩
    · exact hrender.pointer_of_occurs hz hs
    · obtain ⟨e, -, -, target, -, hrender'⟩ := exists_of_mem_defs hentries hd
      exact hrender'.pointer_of_occurs hz hs
  refine ⟨body, defs, hoisted.map Prod.fst, rfl, ?_, hvalid.refs, hnames ▸ hvalid.names, ?_,
    unfolds_withoutDefs_iff hdefs hrender, ?_⟩
  · intro z s hz hs
    by_cases hnil : defs = []
    · rw [if_pos hnil] at hz
      exact .inl (hpointer z s (.inl hz) hs)
    · rw [if_neg hnil] at hz ⊢
      rcases Json.occurs_withDefs hz hs with rfl | hz | rfl | hz
      · -- the whole rendering carries the body's reference: the value's references loop
        exact .inr ⟨rfl, hrender.looping_of_ref (referenceOf_withDefs hs)⟩
      · exact .inl (hpointer z s (.inl hz) hs)
      · -- `$defs` itself: its entries render targets that lead back, so none is a string
        have hnone : referenceOf (.obj defs) = none := referenceOf_obj_of_getStr? fun d hd => by
          obtain ⟨e, he, hentry⟩ := exists_of_mem_defs hentries hd
          exact getStr?_of_defEntry hvalid he hentry
        rw [hnone] at hs
        cases hs
      · exact .inl (hpointer z s (.inr hz) hs)
  · -- each entry unfolds in the rendering as its reference's target does in the document
    rw [List.forall₂_map_left_iff]
    exact hentries.imp fun e d ⟨_, target, ht, hrender'⟩ =>
      ⟨target, ht, unfolds_iff_of_renders hdefs hrender'⟩
  · intro hcycle
    have hempty : hoisted = [] := hquiet ⟨hcycle, fun _ _ _ _ hmem => nomatch hmem⟩
    subst hempty
    have hnil : defs = [] := List.forall₂_nil_left_iff.mp hentries
    subst hnil
    refine ⟨rfl, if_pos rfl, fun n => ?_⟩
    rw [if_pos rfl]
    exact hrender.unfolds_ofJson n

theorem reference_renders_target :
    let target : Json := .obj [("type", .str "string")]
    let v : Json := .obj [("$ref", .str "#/S")]
    let doc : Json := .obj [("S", target), ("v", v)]
    NoNestedReference doc ∧ Json.Occurs v doc ∧ render doc v = .ok target ∧
    ∃ body defs refs, target = (if defs = [] then body else withDefs body defs) ∧
      (∀ z s, Json.Occurs z target → referenceOf z = some s →
        (∃ name ∈ defs.map Prod.fst, z = hoistedRef name) ∨ (z = target ∧ Looping doc v)) ∧
      refs.Nodup ∧ (defs.map Prod.fst).Nodup ∧
      List.Forall₂ (fun r d => ∃ t, resolveReference doc r = .ok t ∧
        ∀ n u, Unfolds target n d.2 u ↔ Unfolds doc n t u) refs defs ∧
      (∀ n u, Unfolds target n (withoutDefs body) u ↔ UnfoldsBody doc n v u) ∧
      (¬CycleFrom doc v → defs = [] ∧ target = body ∧
        ∀ n, Unfolds doc n v (Tree.ofJson n target)) := by
  intro target v doc
  have hdoc : NoNestedReference doc := by simp [doc, target, v, referenceOf, Json.get?]
  have hv : Json.Occurs v doc := .field (List.mem_cons_of_mem _ List.mem_cons_self) (.refl v)
  have hres : resolveReference doc "#/S" = .ok target :=
    @resolveReference_top _ "S" _ (by decide) (by simp [Json.get?])
  have hrefS : referenceOf v = some "#/S" := by simp [v, referenceOf, Json.get?, Json.getStr?]
  have htarget : inline doc ["#/S"] [] target = .ok (target, []) :=
    (inline_obj_eq_ok (by simp [referenceOf, Json.get?])).mpr
      ⟨_, inlineFields_cons_eq_ok.mpr ⟨_, [], [], inline_of_isScalar trivial,
        by rw [inlineFields], rfl⟩, rfl⟩
  have hinline : inline doc [] [] v = .ok (target, []) := by
    rw [inline_of_not_mem hrefS List.not_mem_nil, hres]
    exact htarget
  have hout : render doc v = .ok target := by
    rw [render, hinline]
    rfl
  exact ⟨hdoc, hv, hout, render_self_contained hdoc hv hout⟩

/-- A `$ref` member that is itself a reference is replaced by its target, so a string `$ref`
that points nowhere appears in the rendering, with no `$defs` beside it. -/
theorem nested_reference_renders_bare :
    let v : Json := .obj [("a", .obj [("$ref", .obj [("$ref", .str "#/S")])])]
    let doc : Json := .obj [("S", .str "hello"), ("v", v)]
    let z : Json := .obj [("$ref", .str "hello")]
    Json.Occurs v doc ∧ render doc v = .ok (.obj [("a", z)]) ∧ Json.Occurs z (.obj [("a", z)]) ∧
      referenceOf z = some "hello" ∧ ∀ name, z ≠ hoistedRef name := by
  intro v doc z
  have hres : resolveReference doc "#/S" = .ok (.str "hello") :=
    @resolveReference_top _ "S" _ (by decide) (by simp [Json.get?])
  have hnil : ∀ (seen : List String) (h : Hoisted), inlineFields doc seen h [] = .ok ([], h) :=
    fun _ _ => by rw [inlineFields]
  have hrefS : referenceOf (.obj [("$ref", .str "#/S")]) = some "#/S" := by
    simp [referenceOf, Json.get?, Json.getStr?]
  have hr : inline doc [] [] (.obj [("$ref", .str "#/S")]) = .ok (.str "hello", []) := by
    rw [inline_of_not_mem hrefS List.not_mem_nil, hres]
    exact inline_of_isScalar trivial
  -- the object holding the nested reference is no reference, so its member is rendered
  have ha : inline doc [] [] (.obj [("$ref", .obj [("$ref", .str "#/S")])]) = .ok (z, []) :=
    (inline_obj_eq_ok (by simp [referenceOf, Json.get?, Json.getStr?])).mpr
      ⟨_, inlineFields_cons_eq_ok.mpr ⟨_, [], [], hr, hnil _ _, rfl⟩, rfl⟩
  have hv : inline doc [] [] v = .ok (.obj [("a", z)], []) :=
    (inline_obj_eq_ok (by simp [referenceOf, Json.get?])).mpr
      ⟨_, inlineFields_cons_eq_ok.mpr ⟨_, [], [], ha, hnil _ _, rfl⟩, rfl⟩
  refine ⟨.field (List.mem_cons_of_mem _ List.mem_cons_self) (.refl v), ?_,
    .field List.mem_cons_self (.refl z), by simp [z, referenceOf, Json.get?, Json.getStr?], ?_⟩
  · rw [render, hv]
    rfl
  · intro name h
    have hs : ("hello" : String) = "#/$defs/" ++ Pointer.encodeToken name := by
      simp only [z, hoistedRef, Json.obj.injEq, List.cons.injEq, Prod.mk.injEq, Json.str.injEq,
        and_true, true_and] at h
      exact h
    have hhead := congrArg (fun s : String => s.toList.head?) hs
    simp at hhead

end Covenant.Contract
