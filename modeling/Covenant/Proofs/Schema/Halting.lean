import Covenant.Proofs.Schema.Render

/-!
# Rendering ends

`inline` follows a reference only when it is not among those being expanded. Its calls on
values of the document (`InlineCall`) therefore stay in the document and lower a measure: each
reference followed leaves one fewer of the document's distinct references to expand, and between
references the value shrinks (`InlineCall.decreases`), so no chain of nested calls is infinite
(`inlineCall_acc`). What remains is the loop of `render` over the hoisted references, which reads
a list that grows while it runs.
Every hoisted reference is a reference of the document and none is hoisted twice
(`Hoisted.Within`), so the loop stops after at most one step for each distinct reference of the
document (`defs_hoisting`). The budget `render` gives the loop is therefore never what stops it:
`render` answers what the loop of the source, which has no budget, answers (`render_halts`).
-/

namespace Covenant.Contract

/-- Hoisted entries are distinct references of the document, under distinct names. -/
structure Hoisted.Within (doc : Json) (hoisted : Hoisted) : Prop
    extends Hoisted.Distinct hoisted where
  mem : ∀ e ∈ hoisted, e.1 ∈ referenceTexts doc

section Within

variable {doc : Json} {hoisted : Hoisted}

theorem Hoisted.Within.nil : Hoisted.Within doc [] :=
  ⟨⟨.nil, .nil⟩, fun _ he => nomatch he⟩

theorem Hoisted.Within.length_le (h : Hoisted.Within doc hoisted) :
    hoisted.length ≤ (referenceTexts doc).dedup.length := by
  have hsub : hoisted.map Prod.fst ⊆ (referenceTexts doc).dedup := fun r hr => by
    obtain ⟨e, he, rfl⟩ := List.mem_map.mp hr
    exact List.mem_dedup.mpr (h.mem e he)
  simpa using h.refs.length_le_of_subset hsub

theorem Hoisted.Within.hoist {r : String} (h : Hoisted.Within doc hoisted)
    (hr : r ∈ referenceTexts doc) : Hoisted.Within doc (Contract.hoist hoisted r).2 where
  toDistinct := h.toDistinct.hoist
  mem e he := by
    rcases mem_of_mem_hoist he with he | rfl
    · exact h.mem e he
    · exact hr

end Within

/-- The calls `inline` makes, the callee first: a reference not being expanded leads to its
target with the reference pushed, and an object without a string `$ref` or an array leads to each
of its members or items. -/
inductive InlineCall (doc : Json) : List String × Json → List String × Json → Prop
  | follow {seen : List String} {x target : Json} {r : String} :
      referenceOf x = some r → r ∉ seen → resolveReference doc r = .ok target →
      InlineCall doc (r :: seen, target) (seen, x)
  | field {seen : List String} {fields : List (String × Json)} {key : String} {w : Json} :
      referenceOf (.obj fields) = none → (key, w) ∈ fields →
      InlineCall doc (seen, w) (seen, .obj fields)
  | item {seen : List String} {items : List Json} {w : Json} :
      w ∈ items → InlineCall doc (seen, w) (seen, .arr items)

/-- The distinct references of the document that are not being expanded. -/
def unexpanded (doc : Json) (seen : List String) : Nat :=
  (referenceTexts doc).dedup.countP (fun r => r ∉ seen)

theorem unexpanded_cons_lt {doc : Json} {seen : List String} {r : String}
    (hr : r ∈ referenceTexts doc) (hs : r ∉ seen) :
    unexpanded doc (r :: seen) < unexpanded doc seen :=
  countP_not_mem_cons_lt (List.mem_dedup.mpr hr) hs

theorem sizeOf_lt_of_mem_fields {fields : List (String × Json)} {key : String} {w : Json}
    (h : (key, w) ∈ fields) : sizeOf w < sizeOf (Json.obj fields) := by
  have := List.sizeOf_lt_of_mem h
  simp only [Json.obj.sizeOf_spec, Prod.mk.sizeOf_spec] at this ⊢
  omega

theorem sizeOf_lt_of_mem_items {items : List Json} {w : Json} (h : w ∈ items) :
    sizeOf w < sizeOf (Json.arr items) := by
  have := List.sizeOf_lt_of_mem h
  simp only [Json.arr.sizeOf_spec]
  omega

/-- A call from a value of the document is on a value of the document, with fewer distinct
references left to expand, or as many and a smaller value. -/
theorem InlineCall.decreases {doc : Json} {a b : List String × Json} (h : InlineCall doc a b)
    (hb : Json.Occurs b.2 doc) :
    Json.Occurs a.2 doc ∧
      Prod.Lex (· < ·) (· < ·) (unexpanded doc a.1, sizeOf a.2)
        (unexpanded doc b.1, sizeOf b.2) := by
  cases h with
  | follow hr hs ht =>
    -- the object followed is one of the document's, so its reference is one of the document's
    exact ⟨resolveReference_occurs ht,
      .left _ _ (unexpanded_cons_lt (mem_referenceTexts hb hr) hs)⟩
  | field _ hmem =>
    exact ⟨Json.Occurs.trans (.field hmem (.refl _)) hb,
      .right _ (sizeOf_lt_of_mem_fields hmem)⟩
  | item hmem =>
    exact ⟨Json.Occurs.trans (.item hmem (.refl _)) hb, .right _ (sizeOf_lt_of_mem_items hmem)⟩

/-- No chain of nested calls of `inline` from a value of the document is infinite. -/
theorem inlineCall_acc {doc : Json} (a : List String × Json) (ha : Json.Occurs a.2 doc) :
    Acc (InlineCall doc) a := by
  have hwf := InvImage.wf (fun a : List String × Json => (unexpanded doc a.1, sizeOf a.2))
    (WellFounded.prod_lex wellFounded_lt wellFounded_lt)
  revert ha
  induction a using hwf.induction with
  | _ a ih =>
    intro ha
    refine .intro a fun b hb => ?_
    obtain ⟨hocc, hlt⟩ := InlineCall.decreases hb ha
    exact ih b hlt hocc

/-- What a call of `inline` on a value of the document keeps: the entries hoisted before it stay
in front, and the entries stay within the document. -/
def KeepsWithin (doc : Json) (seen : List String) (hoisted : Hoisted) (x : Json) : Prop :=
  Json.Occurs x doc → Hoisted.Within doc hoisted →
    ∀ y hoisted', inline doc seen hoisted x = .ok (y, hoisted') →
      hoisted <+: hoisted' ∧ Hoisted.Within doc hoisted'

def ItemsKeepWithin (doc : Json) (seen : List String) (hoisted : Hoisted) (items : List Json) :
    Prop :=
  (∀ x ∈ items, Json.Occurs x doc) → Hoisted.Within doc hoisted →
    ∀ rendered hoisted', inlineItems doc seen hoisted items = .ok (rendered, hoisted') →
      hoisted <+: hoisted' ∧ Hoisted.Within doc hoisted'

def FieldsKeepWithin (doc : Json) (seen : List String) (hoisted : Hoisted)
    (fields : List (String × Json)) : Prop :=
  (∀ p ∈ fields, Json.Occurs p.2 doc) → Hoisted.Within doc hoisted →
    ∀ rendered hoisted', inlineFields doc seen hoisted fields = .ok (rendered, hoisted') →
      hoisted <+: hoisted' ∧ Hoisted.Within doc hoisted'

/-- `inline` hoists only references met inside the document, by induction along its own
recursion. -/
theorem inline_keepsWithin (doc : Json) :
    (∀ seen hoisted x, KeepsWithin doc seen hoisted x) ∧
      (∀ seen hoisted items, ItemsKeepWithin doc seen hoisted items) ∧
      (∀ seen hoisted fields, FieldsKeepWithin doc seen hoisted fields) := by
  refine inline.mutual_induct doc (KeepsWithin doc) (ItemsKeepWithin doc) (FieldsKeepWithin doc)
    ?hoist ?error ?follow ?obj ?arr ?scalar ?nil ?cons ?fieldsNil ?fieldsCons
  case hoist =>
    intro seen hoisted fields r hr hcont _ _ _ hocc hwithin y hoisted' hrun
    rw [inline_of_mem hr (by simpa using hcont)] at hrun
    cases hrun
    -- the object met again is one of the document's, so its reference is too
    exact ⟨hoist_extends, hwithin.hoist (mem_referenceTexts hocc hr)⟩
  case error =>
    intro seen hoisted fields r hr hcont e he _ _ y hoisted' hrun
    rw [inline_of_not_mem hr (by simpa using hcont), he] at hrun
    cases hrun
  case follow =>
    intro seen hoisted fields r hr hcont target ht ih _ hwithin y hoisted' hrun
    rw [inline_of_not_mem hr (by simpa using hcont), ht] at hrun
    exact ih (resolveReference_occurs ht) hwithin y hoisted' hrun
  case obj =>
    intro seen hoisted fields hr ih hocc hwithin y hoisted' hrun
    obtain ⟨rendered, hfields, rfl⟩ := (inline_obj_eq_ok hr).mp hrun
    exact ih (fun p hp => Json.Occurs.trans (.field hp (.refl _)) hocc) hwithin rendered hoisted'
      hfields
  case arr =>
    intro seen hoisted items ih hocc hwithin y hoisted' hrun
    obtain ⟨rendered, hitems, rfl⟩ := inline_arr_eq_ok.mp hrun
    exact ih (fun x hx => Json.Occurs.trans (.item hx (.refl _)) hocc) hwithin rendered hoisted'
      hitems
  case scalar =>
    intro seen hoisted x hobj harr _ hwithin y hoisted' hrun
    have hx : IsScalar x := by
      cases x with
      | obj fields => exact hobj fields rfl
      | arr items => exact harr items rfl
      | _ => trivial
    rw [inline_of_isScalar hx] at hrun
    cases hrun
    exact ⟨List.prefix_refl _, hwithin⟩
  case nil =>
    intro seen hoisted _ hwithin rendered hoisted' hrun
    simp only [inlineItems, Except.ok.injEq, Prod.mk.injEq] at hrun
    obtain ⟨rfl, rfl⟩ := hrun
    exact ⟨List.prefix_refl _, hwithin⟩
  case cons =>
    intro seen hoisted v rest ihv ihrest hchildren hwithin rendered hoisted' hrun
    obtain ⟨v', mid, rest', hv, hrest, rfl⟩ := inlineItems_cons_eq_ok.mp hrun
    have h1 := ihv (hchildren v List.mem_cons_self) hwithin v' mid hv
    have h2 := ihrest mid (fun x hx => hchildren x (List.mem_cons_of_mem v hx)) h1.2 rest'
      hoisted' hrest
    exact ⟨h1.1.trans h2.1, h2.2⟩
  case fieldsNil =>
    intro seen hoisted _ hwithin rendered hoisted' hrun
    simp only [inlineFields, Except.ok.injEq, Prod.mk.injEq] at hrun
    obtain ⟨rfl, rfl⟩ := hrun
    exact ⟨List.prefix_refl _, hwithin⟩
  case fieldsCons =>
    intro seen hoisted key v rest ihv ihrest hchildren hwithin rendered hoisted' hrun
    obtain ⟨v', mid, rest', hv, hrest, rfl⟩ := inlineFields_cons_eq_ok.mp hrun
    have h1 := ihv (hchildren (key, v) List.mem_cons_self) hwithin v' mid hv
    have h2 := ihrest mid (fun p hp => hchildren p (List.mem_cons_of_mem _ hp)) h1.2 rest'
      hoisted' hrest
    exact ⟨h1.1.trans h2.1, h2.2⟩

/-- The loop of `render` over the hoisted entries as the source runs it, with no budget: from
position `next`, each entry's target is rendered into the definitions until no entry is left,
and rendering may add entries. `steps` counts the entries taken. -/
inductive Hoisting (doc : Json) : Nat → Hoisted → List (String × Json) → Nat →
    Except ContractError (List (String × Json)) → Prop
  | done {next : Nat} {hoisted : Hoisted} {acc : List (String × Json)} :
      hoisted[next]? = none → Hoisting doc next hoisted acc 0 (.ok acc)
  | unresolved {next : Nat} {hoisted : Hoisted} {acc : List (String × Json)}
      {reference name : String} {e : ContractError} :
      hoisted[next]? = some (reference, name) → resolveReference doc reference = .error e →
      Hoisting doc next hoisted acc 1 (.error e)
  | failed {next : Nat} {hoisted : Hoisted} {acc : List (String × Json)}
      {reference name : String} {target : Json} {e : ContractError} :
      hoisted[next]? = some (reference, name) → resolveReference doc reference = .ok target →
      inline doc [reference] hoisted target = .error e →
      Hoisting doc next hoisted acc 1 (.error e)
  | step {next : Nat} {hoisted grown : Hoisted} {acc : List (String × Json)}
      {reference name : String} {target body : Json} {steps : Nat}
      {result : Except ContractError (List (String × Json))} :
      hoisted[next]? = some (reference, name) → resolveReference doc reference = .ok target →
      inline doc [reference] hoisted target = .ok (body, grown) →
      Hoisting doc (next + 1) grown (acc ++ [(name, body)]) steps result →
      Hoisting doc next hoisted acc (steps + 1) result

/-- The loop of the source has one run from each state. -/
theorem Hoisting.unique {doc : Json} {next steps steps' : Nat} {hoisted : Hoisted}
    {acc : List (String × Json)} {result result' : Except ContractError (List (String × Json))}
    (h : Hoisting doc next hoisted acc steps result)
    (h' : Hoisting doc next hoisted acc steps' result') : steps = steps' ∧ result = result' := by
  induction h generalizing steps' result' with
  | done hget =>
    cases h' with
    | done => exact ⟨rfl, rfl⟩
    | unresolved hget' | failed hget' | step hget' => simp [hget] at hget'
  | unresolved hget ht =>
    cases h' with
    | done hget' => simp [hget] at hget'
    | unresolved hget' ht' | failed hget' ht' | step hget' ht' =>
      obtain ⟨rfl, rfl⟩ := Prod.mk.inj (Option.some.inj (hget.symm.trans hget'))
      simp_all
  | failed hget ht hbody =>
    cases h' with
    | done hget' => simp [hget] at hget'
    | unresolved hget' ht' => simp_all
    | failed hget' ht' hbody' | step hget' ht' hbody' =>
      obtain ⟨rfl, rfl⟩ := Prod.mk.inj (Option.some.inj (hget.symm.trans hget'))
      simp_all
  | step hget ht hbody _ ih =>
    cases h' with
    | done hget' => simp [hget] at hget'
    | unresolved hget' ht' => simp_all
    | failed hget' ht' hbody' =>
      obtain ⟨rfl, rfl⟩ := Prod.mk.inj (Option.some.inj (hget.symm.trans hget'))
      simp_all
    | step hget' ht' hbody' hrest =>
      obtain ⟨rfl, rfl⟩ := Prod.mk.inj (Option.some.inj (hget.symm.trans hget'))
      -- the same entry renders the same target to the same body and entries
      obtain rfl := Except.ok.inj (ht.symm.trans ht')
      obtain ⟨rfl, rfl⟩ := Prod.mk.inj (Except.ok.inj (hbody.symm.trans hbody'))
      obtain ⟨rfl, rfl⟩ := ih hrest
      exact ⟨rfl, rfl⟩

/-- From a position within a list of entries within the document, with a budget that covers
the distinct references of the document left after it, the budgeted loop answers what the loop
of the source answers, taking an entry at most once for each distinct reference. -/
theorem defs_hoisting {doc : Json} (budget next : Nat) (hoisted : Hoisted)
    (acc : List (String × Json)) (hwithin : Hoisted.Within doc hoisted)
    (hnext : next ≤ hoisted.length)
    (hbudget : (referenceTexts doc).dedup.length < budget + next) :
    ∃ steps, next + steps ≤ (referenceTexts doc).dedup.length ∧
      Hoisting doc next hoisted acc steps (render.defs doc budget next hoisted acc) := by
  have hlen := hwithin.length_le
  induction budget generalizing next hoisted acc with
  | zero => omega
  | succ budget ih =>
    rw [render.defs.eq_2]
    cases hget : hoisted[next]? with
    | none => exact ⟨0, by omega, .done hget⟩
    | some e =>
      obtain ⟨reference, name⟩ := e
      have hlt : next < hoisted.length := (List.getElem?_eq_some_iff.mp hget).1
      dsimp only
      cases ht : resolveReference doc reference with
      | error e =>
        refine ⟨1, by omega, ?_⟩
        simp only [bind, Except.bind]
        exact .unresolved hget ht
      | ok target =>
        simp only [bind, Except.bind]
        cases hbody : inline doc [reference] hoisted target with
        | error e => exact ⟨1, by omega, .failed hget ht hbody⟩
        | ok rendered =>
          obtain ⟨body, grown⟩ := rendered
          obtain ⟨hgrows, hgrown⟩ := (inline_keepsWithin doc).1 [reference] hoisted target
            (resolveReference_occurs ht) hwithin body grown hbody
          -- the entry rendered may hoist more, within the document still
          have hnext' : next + 1 ≤ grown.length := by
            have := hgrows.length_le
            omega
          obtain ⟨steps, hle, hrun⟩ := ih (next + 1) grown (acc ++ [(name, body)]) hgrown hnext'
            (by omega) hgrown.length_le
          exact ⟨steps + 1, by omega, .step hget ht hbody hrun⟩

/-- A rendering as the source runs it: the value is inlined, and when something was hoisted,
the loop renders the definitions that stand beside the body. `steps` counts the loop's steps. -/
inductive RenderRun (doc v : Json) : Nat → Except ContractError Json → Prop
  | unresolved {e : ContractError} :
      inline doc [] [] v = .error e → RenderRun doc v 0 (.error e)
  | plain {body : Json} :
      inline doc [] [] v = .ok (body, []) → RenderRun doc v 0 (.ok body)
  | hoisting {body : Json} {hoisted : Hoisted} {steps : Nat}
      {result : Except ContractError (List (String × Json))} :
      inline doc [] [] v = .ok (body, hoisted) → hoisted ≠ [] →
      Hoisting doc 0 hoisted [] steps result →
      RenderRun doc v steps (result.map (withDefs body))

theorem RenderRun.unique {doc v : Json} {steps steps' : Nat}
    {result result' : Except ContractError Json} (h : RenderRun doc v steps result)
    (h' : RenderRun doc v steps' result') : steps = steps' ∧ result = result' := by
  cases h with
  | unresolved hinline =>
    cases h' with
    | unresolved hinline' | plain hinline' | hoisting hinline' => simp_all
  | plain hinline =>
    cases h' with
    | unresolved hinline' | plain hinline' => simp_all
    | hoisting hinline' hne' =>
      simp [hinline] at hinline'
      exact absurd hinline'.2 hne'
  | hoisting hinline hne hrun =>
    cases h' with
    | unresolved hinline' => simp_all
    | plain hinline' =>
      simp [hinline] at hinline'
      exact absurd hinline'.2 hne
    | hoisting hinline' hne' hrun' =>
      obtain ⟨rfl, rfl⟩ := Prod.mk.inj (Except.ok.inj (hinline.symm.trans hinline'))
      obtain ⟨rfl, rfl⟩ := hrun.unique hrun'
      exact ⟨rfl, rfl⟩

theorem render_of_hoisted {doc v body : Json} {hoisted : Hoisted}
    (hinline : inline doc [] [] v = .ok (body, hoisted)) (hne : hoisted ≠ []) :
    render doc v =
      (render.defs doc ((referenceTexts doc).length + 1) 0 hoisted []).map (withDefs body) := by
  have hempty : hoisted.isEmpty = false := List.isEmpty_eq_false_iff.mpr hne
  simp only [render, hinline, bind, Except.bind, hempty, Bool.false_eq_true, if_false]
  cases render.defs doc ((referenceTexts doc).length + 1) 0 hoisted [] with
  | error e => rfl
  | ok defs => cases body <;> rfl

/-- Rendering a value of the document ends as the source's rendering does. No chain of nested
calls of `inline` on values of the document is infinite: each call has fewer distinct references
left to expand, or as many and a smaller value. The hoisting loop takes at most one step for each
distinct reference of the document, whatever references loop or meet; its budget is never what
stops it, and the source's rendering has no other answer. -/
theorem render_halts (doc v : Json) (hv : Json.Occurs v doc) :
    (∀ seen x, Json.Occurs x doc → Acc (InlineCall doc) (seen, x)) ∧
      ∃ steps ≤ (referenceTexts doc).dedup.length, RenderRun doc v steps (render doc v) ∧
        ∀ steps' result, RenderRun doc v steps' result →
          steps' = steps ∧ result = render doc v := by
  refine ⟨fun seen x hx => inlineCall_acc (seen, x) hx, ?_⟩
  suffices h :
      ∃ steps ≤ (referenceTexts doc).dedup.length, RenderRun doc v steps (render doc v) by
    obtain ⟨steps, hle, hrun⟩ := h
    exact ⟨steps, hle, hrun, fun _ _ h' => h'.unique hrun⟩
  cases hinline : inline doc [] [] v with
  | error e =>
    have hrender : render doc v = .error e := by simp [render, hinline, bind, Except.bind]
    exact ⟨0, Nat.zero_le _, hrender ▸ .unresolved hinline⟩
  | ok rendered =>
    obtain ⟨body, hoisted⟩ := rendered
    by_cases hne : hoisted = []
    · subst hne
      have hrender : render doc v = .ok body := by
        simp [render, hinline, bind, Except.bind, pure, Except.pure]
      exact ⟨0, Nat.zero_le _, hrender ▸ .plain hinline⟩
    · have hwithin := ((inline_keepsWithin doc).1 [] [] v hv .nil body hoisted hinline).2
      -- the budget is one more than the document's references, repeats counted
      have hbudget : (referenceTexts doc).dedup.length < (referenceTexts doc).length + 1 + 0 := by
        have := (List.dedup_sublist (referenceTexts doc)).length_le
        omega
      obtain ⟨steps, hle, hrun⟩ := defs_hoisting _ 0 hoisted [] hwithin (Nat.zero_le _) hbudget
      exact ⟨steps, by omega, render_of_hoisted hinline hne ▸ .hoisting hinline hne hrun⟩

theorem self_reference_rendering_halts :
    let doc : Json := .obj [("a", .obj [("$ref", .str "#/a")])]
    let v : Json := .obj [("$ref", .str "#/a")]
    Json.Occurs v doc ∧
      (∀ seen x, Json.Occurs x doc → Acc (InlineCall doc) (seen, x)) ∧
      ∃ steps ≤ (referenceTexts doc).dedup.length, RenderRun doc v steps (render doc v) ∧
        ∀ steps' result, RenderRun doc v steps' result →
          steps' = steps ∧ result = render doc v := by
  intro doc v
  have hv : Json.Occurs v doc := .field (List.mem_singleton_self _) (.refl v)
  exact ⟨hv, render_halts doc v hv⟩

end Covenant.Contract
