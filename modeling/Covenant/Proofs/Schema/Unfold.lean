import Mathlib.Data.List.Forall2
import Covenant.Contract.Load
import Covenant.Proofs.Pointer.Escape

/-!
# Unfolding references

A schema stands for the tree obtained by replacing each object with a string `$ref` by the
unfolding of the reference's target, the object's other members dropped. The tree may be
infinite; `Unfolds doc n x t` gives it down to depth `n`, with `cut` below. Following a
reference takes no depth, so a chain of references that never reaches a value unfolds to
nothing but `cut` at depth `0`.

`Renders doc hoisted seen x y` says how a rendering `y` stands for `x`: references are followed,
except those met again while their own target is being rendered (`seen`), which become
pointers into `$defs` under the names in `hoisted`. When every such name leads, in a document
`out`, to a rendering of its reference's target (`DefsRender`), `y` unfolds in `out` exactly as
`x` unfolds in `doc` (`unfolds_iff_of_renders`).
-/

namespace Covenant.Contract

/-- A value that is neither an object nor an array. -/
def IsScalar : Json → Prop
  | .obj _ => False
  | .arr _ => False
  | _ => True

theorem referenceOf_of_isScalar {x : Json} (hx : IsScalar x) : referenceOf x = none := by
  cases x <;> simp_all [IsScalar, referenceOf, Json.get?]

@[simp] theorem referenceOf_arr (items : List Json) : referenceOf (.arr items) = none := rfl

/-- An unfolded schema down to some depth; `cut` stands for what lies deeper. -/
inductive Tree where
  | cut
  | scalar (v : Json)
  | arr (items : List Tree)
  | obj (fields : List (String × Tree))

/-- Unfolding to depth `n`. An object with a string `$ref` unfolds as the target of its
reference, at no cost in depth; other objects and arrays unfold member by member. -/
inductive Unfolds (doc : Json) : Nat → Json → Tree → Prop
  | cut (x : Json) : Unfolds doc 0 x .cut
  | ref {n : Nat} {x target : Json} {r : String} {t : Tree} :
      referenceOf x = some r → resolveReference doc r = .ok target → Unfolds doc n target t →
      Unfolds doc n x t
  | obj {n : Nat} {fields : List (String × Json)} {trees : List (String × Tree)} :
      referenceOf (.obj fields) = none → fields.map Prod.fst = trees.map Prod.fst →
      (∀ i (hx : i < fields.length) (ht : i < trees.length),
        Unfolds doc n fields[i].2 trees[i].2) →
      Unfolds doc (n + 1) (.obj fields) (.obj trees)
  | arr {n : Nat} {items : List Json} {trees : List Tree} :
      items.length = trees.length →
      (∀ i (hx : i < items.length) (ht : i < trees.length), Unfolds doc n items[i] trees[i]) →
      Unfolds doc (n + 1) (.arr items) (.arr trees)
  | scalar {n : Nat} {x : Json} : IsScalar x → Unfolds doc (n + 1) x (.scalar x)

/-- The pointer that stands for a hoisted reference: its entry under the root's `$defs`. -/
def hoistedRef (name : String) : Json :=
  .obj [("$ref", .str s!"#/$defs/{Pointer.encodeToken name}")]

@[simp] theorem referenceOf_hoistedRef (name : String) :
    referenceOf (hoistedRef name) = some s!"#/$defs/{Pointer.encodeToken name}" := by
  simp [hoistedRef, referenceOf, Json.get?, Json.getStr?]

/-- A rendering. References are followed; one met again while its own target is rendered
becomes the pointer to its entry under `$defs`; objects without a string `$ref` keep their keys
and render to objects without one; arrays render item by item; scalars stay. -/
inductive Renders (doc : Json) (hoisted : Hoisted) : List String → Json → Json → Prop
  | follow {seen : List String} {x target y : Json} {r : String} :
      referenceOf x = some r → r ∉ seen → resolveReference doc r = .ok target →
      Renders doc hoisted (r :: seen) target y → Renders doc hoisted seen x y
  | hoist {seen : List String} {x : Json} {r name : String} :
      referenceOf x = some r → r ∈ seen → (r, name) ∈ hoisted →
      Renders doc hoisted seen x (hoistedRef name)
  | obj {seen : List String} {fields rendered : List (String × Json)} :
      referenceOf (.obj fields) = none → referenceOf (.obj rendered) = none →
      fields.map Prod.fst = rendered.map Prod.fst →
      (∀ i (hx : i < fields.length) (hy : i < rendered.length),
        Renders doc hoisted seen fields[i].2 rendered[i].2) →
      Renders doc hoisted seen (.obj fields) (.obj rendered)
  | arr {seen : List String} {items rendered : List Json} :
      items.length = rendered.length →
      (∀ i (hx : i < items.length) (hy : i < rendered.length),
        Renders doc hoisted seen items[i] rendered[i]) →
      Renders doc hoisted seen (.arr items) (.arr rendered)
  | scalar {seen : List String} {x : Json} : IsScalar x → Renders doc hoisted seen x x

/-- Renderings stay renderings when more references are hoisted. -/
theorem Renders.mono {doc : Json} {hoisted hoisted' : Hoisted} {seen : List String}
    {x y : Json} (hsub : ∀ e ∈ hoisted, e ∈ hoisted') (h : Renders doc hoisted seen x y) :
    Renders doc hoisted' seen x y := by
  induction h with
  | follow hr hs ht _ ih => exact .follow hr hs ht ih
  | hoist hr hs hmem => exact .hoist hr hs (hsub _ hmem)
  | obj hx hy hkeys _ ih => exact .obj hx hy hkeys ih
  | arr hlen _ ih => exact .arr hlen ih
  | scalar hs => exact .scalar hs

/-- Every hoisted name leads, in `out`, to a rendering of its reference's target. -/
def DefsRender (out doc : Json) (hoisted : Hoisted) : Prop :=
  ∀ r name, (r, name) ∈ hoisted → ∃ target body seen,
    resolveReference doc r = .ok target ∧
    resolveReference out s!"#/$defs/{Pointer.encodeToken name}" = .ok body ∧
    Renders doc hoisted seen target body

section Transfer

variable {out doc : Json} {hoisted : Hoisted}

/-- What unfolds from a value unfolds, to the same tree, from each of its renderings. -/
theorem unfolds_of_renders (hdefs : DefsRender out doc hoisted) {n : Nat} {x : Json}
    {t : Tree} (hx : Unfolds doc n x t) :
    ∀ {seen : List String} {y : Json}, Renders doc hoisted seen x y → Unfolds out n y t := by
  induction hx with
  | cut x => intro _ _ _; exact .cut _
  | ref hr htarget _ ih =>
    intro seen y hy
    cases hy with
    | follow hr' _ htarget' hy' =>
      rw [hr] at hr'
      cases hr'
      rw [htarget] at htarget'
      cases htarget'
      exact ih hy'
    | hoist hr' _ hmem =>
      rw [hr] at hr'
      cases hr'
      obtain ⟨target', body, seen', htarget', hbody, hrender⟩ := hdefs _ _ hmem
      rw [htarget] at htarget'
      cases htarget'
      exact .ref (referenceOf_hoistedRef _) hbody (ih hrender)
    | obj hnone => simp [hr] at hnone
    | arr => simp at hr
    | scalar hs => simp [referenceOf_of_isScalar hs] at hr
  | @obj n fields trees hnone hkeys _ ih =>
    intro seen y hy
    cases hy with
    | follow hr => simp [hnone] at hr
    | hoist hr => simp [hnone] at hr
    | @obj _ _ rendered _ hnone' hkeys' hsub =>
      refine .obj hnone' (hkeys'.symm.trans hkeys) fun i hy ht => ?_
      have hx : i < fields.length := by
        rw [← List.length_map Prod.fst, hkeys', List.length_map]
        exact hy
      exact ih i hx ht (hsub i hx hy)
    | scalar hs => cases hs
  | @arr n items trees hlen _ ih =>
    intro seen y hy
    cases hy with
    | follow hr => simp at hr
    | hoist hr => simp at hr
    | @arr _ _ rendered hlen' hsub =>
      refine .arr (hlen'.symm.trans hlen) fun i hy ht => ?_
      have hx : i < items.length := by omega
      exact ih i hx ht (hsub i hx hy)
    | scalar hs => cases hs
  | scalar hs =>
    intro seen y hy
    cases hy with
    | follow hr => simp [referenceOf_of_isScalar hs] at hr
    | hoist hr => simp [referenceOf_of_isScalar hs] at hr
    | obj => cases hs
    | arr => cases hs
    | scalar => exact .scalar hs

/-- What unfolds from a rendering unfolds, to the same tree, from the value it renders. -/
theorem unfolds_of_renders_rev (hdefs : DefsRender out doc hoisted) {n : Nat} {y : Json}
    {t : Tree} (hy : Unfolds out n y t) :
    ∀ {seen : List String} {x : Json}, Renders doc hoisted seen x y → Unfolds doc n x t := by
  induction hy with
  | cut y => intro _ _ _; exact .cut _
  | @ref n y body r t hr hbody _ ih =>
    intro seen x hx
    -- the references that `x` follows before reaching `y` cost no depth
    induction hx with
    | follow hr' _ htarget _ ih' => exact .ref hr' htarget (ih' hr)
    | hoist hr' _ hmem =>
      obtain ⟨target, body', seen', htarget, hbody', hrender⟩ := hdefs _ _ hmem
      simp only [referenceOf_hoistedRef, Option.some.injEq] at hr
      subst hr
      rw [hbody] at hbody'
      cases hbody'
      exact .ref hr' htarget (ih hrender)
    | obj _ hnone => simp [hnone] at hr
    | arr => simp at hr
    | scalar hs => simp [referenceOf_of_isScalar hs] at hr
  | @obj n rendered trees hnone hkeys _ ih =>
    intro seen x hx
    generalize hy : Json.obj rendered = y at hx
    induction hx with
    | follow hr' _ htarget _ ih' => exact .ref hr' htarget (ih' hy)
    | hoist =>
      rw [hy] at hnone
      simp at hnone
    | @obj _ fields rendered' hnone' _ hkeys' hsub =>
      cases hy
      refine .obj hnone' (hkeys'.trans hkeys) fun i hx ht => ?_
      have hy : i < rendered.length := by
        rw [← List.length_map Prod.fst, ← hkeys', List.length_map]
        exact hx
      exact ih i hy ht (hsub i hx hy)
    | arr => cases hy
    | scalar hs =>
      subst hy
      cases hs
  | @arr n rendered trees hlen _ ih =>
    intro seen x hx
    generalize hy : Json.arr rendered = y at hx
    induction hx with
    | follow hr' _ htarget _ ih' => exact .ref hr' htarget (ih' hy)
    | hoist => cases hy
    | obj => cases hy
    | @arr _ items rendered' hlen' hsub =>
      cases hy
      refine .arr (hlen'.trans hlen) fun i hx ht => ?_
      have hy : i < rendered.length := by omega
      exact ih i hy ht (hsub i hx hy)
    | scalar hs =>
      subst hy
      cases hs
  | scalar hs =>
    intro seen x hx
    induction hx with
    | follow hr' _ htarget _ ih' => exact .ref hr' htarget (ih' hs)
    | hoist => cases hs
    | obj => cases hs
    | arr => cases hs
    | scalar => exact .scalar hs

/-- A rendering unfolds, in a document where every hoisted name leads to a rendering of its
reference's target, exactly as the value it renders. -/
theorem unfolds_iff_of_renders (hdefs : DefsRender out doc hoisted) {seen : List String}
    {x y : Json} (hxy : Renders doc hoisted seen x y) (n : Nat) (t : Tree) :
    Unfolds out n y t ↔ Unfolds doc n x t :=
  ⟨fun hy => unfolds_of_renders_rev hdefs hy hxy, fun hx => unfolds_of_renders hdefs hx hxy⟩

end Transfer

/-- Members in the same order under the same keys, related value by value. -/
theorem forall₂_fields_iff {α β : Type} {R : α → β → Prop} {xs : List (String × α)}
    {ys : List (String × β)} :
    List.Forall₂ (fun a b => a.1 = b.1 ∧ R a.2 b.2) xs ys ↔
      xs.map Prod.fst = ys.map Prod.fst ∧ ∀ i (hx : i < xs.length) (hy : i < ys.length),
        R xs[i].2 ys[i].2 := by
  rw [List.forall₂_iff_get]
  constructor
  · rintro ⟨hlen, h⟩
    refine ⟨List.ext_getElem (by simpa using hlen) fun i h1 h2 => ?_, fun i hx hy => (h i hx hy).2⟩
    simp only [List.getElem_map]
    exact (h i (by simpa using h1) (by simpa using h2)).1
  · rintro ⟨hkeys, h⟩
    have hlen : xs.length = ys.length := by simpa using congrArg List.length hkeys
    refine ⟨hlen, fun i hx hy => ⟨?_, h i hx hy⟩⟩
    have := congrArg (·[i]?) hkeys
    simpa [hx, hy] using this

/-- A schema object without its `$defs` members. -/
def withoutDefs : Json → Json
  | .obj fields => .obj (fields.filter (·.1 != "$defs"))
  | x => x

theorem referenceOf_filter_defs (fields : List (String × Json)) :
    referenceOf (.obj (fields.filter (·.1 != "$defs"))) = referenceOf (.obj fields) := by
  induction fields with
  | nil => rfl
  | cons p rest ih =>
    obtain ⟨k, v⟩ := p
    by_cases hk : k = "$defs"
    · subst hk
      simp only [List.filter_cons, bne_self_eq_false, Bool.false_eq_true, if_false, ih]
      simp [referenceOf, Json.get?]
    · have hne : (k != "$defs") = true := by simpa using hk
      simp only [List.filter_cons, hne, if_true]
      simp only [referenceOf, Json.get?, List.find?_cons] at ih ⊢
      split <;> simp_all

/-- Dropping the `$defs` members of an object and of its rendering keeps it a rendering. -/
theorem Renders.withoutDefs {doc : Json} {hoisted : Hoisted} {seen : List String}
    {fields rendered : List (String × Json)}
    (h : Renders doc hoisted seen (.obj fields) (.obj rendered))
    (hnone : referenceOf (.obj fields) = none) :
    Renders doc hoisted seen (withoutDefs (.obj fields)) (withoutDefs (.obj rendered)) := by
  cases h with
  | follow hr => simp [hnone] at hr
  | hoist hr => simp [hnone] at hr
  | obj hnone hnone' hkeys hsub =>
    have hrel := forall₂_fields_iff.mpr ⟨hkeys, hsub⟩
    have hfilter : List.Forall₂ _ (fields.filter (·.1 != "$defs"))
        (rendered.filter (·.1 != "$defs")) :=
      List.rel_filter (fun a b hab => by simp [hab.1]) hrel
    obtain ⟨hkeys', hsub'⟩ := forall₂_fields_iff.mp hfilter
    exact .obj (by rw [referenceOf_filter_defs]; exact hnone)
      (by rw [referenceOf_filter_defs]; exact hnone') hkeys' hsub'
  | scalar hs => cases hs

/-- Unfolding a value with the `$defs` members of its root object left out: the references at
the root are followed, then the root's other members are unfolded. -/
inductive UnfoldsBody (doc : Json) : Nat → Json → Tree → Prop
  | cut (x : Json) : UnfoldsBody doc 0 x .cut
  | ref {n : Nat} {x target : Json} {r : String} {t : Tree} :
      referenceOf x = some r → resolveReference doc r = .ok target →
      UnfoldsBody doc n target t → UnfoldsBody doc n x t
  | node {n : Nat} {x : Json} {t : Tree} :
      referenceOf x = none → Unfolds doc n (withoutDefs x) t → UnfoldsBody doc n x t

section Inversion

variable {doc : Json}

theorem Unfolds.eq_cut_of_zero {x : Json} {t : Tree} (h : Unfolds doc 0 x t) : t = .cut := by
  generalize hn : 0 = n at h
  induction h with
  | cut => rfl
  | ref _ _ _ ih => exact ih hn
  | obj => omega
  | arr => omega
  | scalar => omega

theorem Unfolds.zero_of_cut {n : Nat} {x : Json} (h : Unfolds doc n x .cut) : n = 0 := by
  generalize ht : Tree.cut = t at h
  induction h with
  | cut => rfl
  | ref _ _ _ ih => exact ih ht
  | obj => cases ht
  | arr => cases ht
  | scalar => cases ht

/-- Unfolding passes through a reference. -/
theorem unfolds_ref_iff {n : Nat} {x target : Json} {r : String} {t : Tree}
    (hr : referenceOf x = some r) (htarget : resolveReference doc r = .ok target) :
    Unfolds doc n x t ↔ Unfolds doc n target t := by
  refine ⟨fun h => ?_, fun h => .ref hr htarget h⟩
  cases h with
  | cut => exact .cut _
  | ref hr' htarget' h =>
    rw [hr] at hr'
    cases hr'
    rw [htarget] at htarget'
    cases htarget'
    exact h
  | obj hnone => simp [hr] at hnone
  | arr => simp at hr
  | scalar hs => simp [referenceOf_of_isScalar hs] at hr

theorem unfoldsBody_ref_iff {n : Nat} {x target : Json} {r : String} {t : Tree}
    (hr : referenceOf x = some r) (htarget : resolveReference doc r = .ok target) :
    UnfoldsBody doc n x t ↔ UnfoldsBody doc n target t := by
  refine ⟨fun h => ?_, fun h => .ref hr htarget h⟩
  cases h with
  | cut => exact .cut _
  | ref hr' htarget' h =>
    rw [hr] at hr'
    cases hr'
    rw [htarget] at htarget'
    cases htarget'
    exact h
  | node hnone => simp [hr] at hnone

/-- Without a reference at the root, leaving out `$defs` is unfolding the rest. -/
theorem unfoldsBody_iff_of_none {n : Nat} {x : Json} {t : Tree} (hnone : referenceOf x = none) :
    UnfoldsBody doc n x t ↔ Unfolds doc n (withoutDefs x) t := by
  refine ⟨fun h => ?_, fun h => .node hnone h⟩
  cases h with
  | cut => exact .cut _
  | ref hr => simp [hnone] at hr
  | node _ h => exact h

end Inversion

section Loops

variable {doc : Json}

/-- `x` reaches an object with reference `r` by following references alone. -/
inductive ReachesRef (doc : Json) : Json → String → Prop
  | here {x : Json} {r : String} : referenceOf x = some r → ReachesRef doc x r
  | step {x target : Json} {r r' : String} :
      referenceOf x = some r' → resolveReference doc r' = .ok target → ReachesRef doc target r →
      ReachesRef doc x r

/-- Following references from `x` runs into a reference whose target leads back to it. -/
def Looping (doc x : Json) : Prop :=
  ∃ r target, ReachesRef doc x r ∧ resolveReference doc r = .ok target ∧ ReachesRef doc target r

theorem Looping.isRef {x : Json} (hloop : Looping doc x) : ∃ r, referenceOf x = some r := by
  obtain ⟨r, target, hx, -, -⟩ := hloop
  cases hx with
  | here hr => exact ⟨r, hr⟩
  | step hr => exact ⟨_, hr⟩

/-- Following a reference from a looping value keeps it in the loop. -/
theorem Looping.follow {x target : Json} {r : String} (hloop : Looping doc x)
    (hr : referenceOf x = some r) (ht : resolveReference doc r = .ok target) :
    Looping doc target := by
  obtain ⟨r', target', hx, htarget', hback⟩ := hloop
  cases hx with
  | here hr' =>
    rw [hr] at hr'
    cases hr'
    rw [ht] at htarget'
    cases htarget'
    exact ⟨r, target, hback, ht, hback⟩
  | step hr' ht' hx' =>
    rw [hr] at hr'
    cases hr'
    rw [ht] at ht'
    cases ht'
    exact ⟨r', target', hx', htarget', hback⟩

/-- A value whose references loop unfolds to nothing but `cut`. -/
theorem Looping.unfolds_iff {x : Json} (hloop : Looping doc x) (n : Nat) (t : Tree) :
    Unfolds doc n x t ↔ n = 0 ∧ t = .cut := by
  refine ⟨fun h => ?_, fun ⟨hn, ht⟩ => hn ▸ ht ▸ .cut x⟩
  suffices hcut : t = .cut from ⟨hcut ▸ h |>.zero_of_cut, hcut⟩
  -- the loop survives every reference followed, so no derivation ever leaves the references
  induction h with
  | cut => rfl
  | ref hr ht _ ih => exact ih (hloop.follow hr ht)
  | obj hnone =>
    obtain ⟨r, hr⟩ := hloop.isRef
    simp [hnone] at hr
  | arr =>
    obtain ⟨r, hr⟩ := hloop.isRef
    simp at hr
  | scalar hs =>
    obtain ⟨r, hr⟩ := hloop.isRef
    simp [referenceOf_of_isScalar hs] at hr

theorem Looping.unfoldsBody_iff {x : Json} (hloop : Looping doc x) (n : Nat) (t : Tree) :
    UnfoldsBody doc n x t ↔ n = 0 ∧ t = .cut := by
  refine ⟨fun h => ?_, fun ⟨hn, ht⟩ => hn ▸ ht ▸ .cut x⟩
  induction h with
  | cut => exact ⟨rfl, rfl⟩
  | ref hr ht _ ih => exact ih (hloop.follow hr ht)
  | node hnone =>
    obtain ⟨r, hr⟩ := hloop.isRef
    simp [hnone] at hr

/-- A rendering that is itself a reference comes from a value whose references run into one
being rendered, or into a loop. -/
theorem Renders.reachesRef_of_ref {hoisted : Hoisted} {seen : List String} {x y : Json}
    {s : String} (h : Renders doc hoisted seen x y) (hy : referenceOf y = some s) :
    ∃ r, ReachesRef doc x r ∧
      (r ∈ seen ∨ ∃ target, resolveReference doc r = .ok target ∧ ReachesRef doc target r) := by
  induction h with
  | @follow seen x target y r hr _ htarget _ ih =>
    obtain ⟨r', hreach, hr'⟩ := ih hy
    rcases hr' with hmem | hloop
    · rcases List.mem_cons.mp hmem with rfl | hmem
      · exact ⟨r', .here hr, .inr ⟨target, htarget, hreach⟩⟩
      · exact ⟨r', .step hr htarget hreach, .inl hmem⟩
    · exact ⟨r', .step hr htarget hreach, .inr hloop⟩
  | hoist hr hmem => exact ⟨_, .here hr, .inl hmem⟩
  | obj _ hnone => simp [hnone] at hy
  | arr => simp at hy
  | scalar hs => simp [referenceOf_of_isScalar hs] at hy

theorem Renders.eq_hoistedRef_of_ref {hoisted : Hoisted} {seen : List String} {x y : Json}
    {s : String} (h : Renders doc hoisted seen x y) (hy : referenceOf y = some s) :
    ∃ name, y = hoistedRef name := by
  induction h with
  | follow _ _ _ _ ih => exact ih hy
  | hoist => exact ⟨_, rfl⟩
  | obj _ hnone => simp [hnone] at hy
  | arr => simp at hy
  | scalar hs => simp [referenceOf_of_isScalar hs] at hy

/-- A whole value renders to a pointer only when its references loop. -/
theorem Renders.looping_of_ref {hoisted : Hoisted} {x y : Json} {s : String}
    (h : Renders doc hoisted [] x y) (hy : referenceOf y = some s) : Looping doc x := by
  obtain ⟨r, hreach, hr⟩ := h.reachesRef_of_ref hy
  rcases hr with hmem | ⟨target, htarget, hback⟩
  · cases hmem
  · exact ⟨r, target, hreach, htarget, hback⟩

end Loops

section Body

variable {out doc : Json} {hoisted : Hoisted}

theorem withoutDefs_of_isScalar {x : Json} (hx : IsScalar x) : withoutDefs x = x := by
  cases x <;> simp_all [IsScalar, withoutDefs]

@[simp] theorem withoutDefs_hoistedRef (name : String) :
    withoutDefs (hoistedRef name) = hoistedRef name := by
  simp [withoutDefs, hoistedRef]

theorem unfolds_withoutDefs_iff_of_none (hdefs : DefsRender out doc hoisted)
    {seen : List String} {x y : Json} (hxy : Renders doc hoisted seen x y)
    (hy : referenceOf y = none) (n : Nat) (t : Tree) :
    Unfolds out n (withoutDefs y) t ↔ UnfoldsBody doc n x t := by
  induction hxy with
  | follow hr _ htarget _ ih => rw [unfoldsBody_ref_iff hr htarget]; exact ih hy
  | hoist => simp at hy
  | obj hnone hnone' hkeys hsub =>
    rw [unfoldsBody_iff_of_none hnone]
    exact unfolds_iff_of_renders hdefs ((Renders.obj hnone hnone' hkeys hsub).withoutDefs hnone) n t
  | arr hlen hsub =>
    rw [unfoldsBody_iff_of_none (referenceOf_arr _)]
    exact unfolds_iff_of_renders hdefs (.arr hlen hsub) n t
  | scalar hs =>
    rw [unfoldsBody_iff_of_none (referenceOf_of_isScalar hs), withoutDefs_of_isScalar hs]
    exact unfolds_iff_of_renders hdefs (@Renders.scalar doc hoisted [] _ hs) n t

/-- The rendering of a whole value, its root `$defs` left out, unfolds as the value does with
its root `$defs` left out. -/
theorem unfolds_withoutDefs_iff (hdefs : DefsRender out doc hoisted) {x y : Json}
    (hxy : Renders doc hoisted [] x y) (n : Nat) (t : Tree) :
    Unfolds out n (withoutDefs y) t ↔ UnfoldsBody doc n x t := by
  cases hy : referenceOf y with
  | none => exact unfolds_withoutDefs_iff_of_none hdefs hxy hy n t
  | some s =>
    -- a rendering that is itself a pointer stands for a value whose references loop
    obtain ⟨name, rfl⟩ := hxy.eq_hoistedRef_of_ref hy
    have hloop := hxy.looping_of_ref hy
    rw [withoutDefs_hoistedRef, unfolds_iff_of_renders hdefs hxy, hloop.unfolds_iff,
      hloop.unfoldsBody_iff]

end Body

/-- A value read as a tree down to depth `n`, without following references. -/
def Tree.ofJson : Nat → Json → Tree
  | 0, _ => .cut
  | n + 1, .obj fields => .obj (fields.map fun p => (p.1, Tree.ofJson n p.2))
  | n + 1, .arr items => .arr (items.map (Tree.ofJson n))
  | _ + 1, x => .scalar x

theorem Tree.ofJson_of_isScalar (n : Nat) {x : Json} (hx : IsScalar x) :
    Tree.ofJson (n + 1) x = .scalar x := by
  cases x <;> simp_all [IsScalar, Tree.ofJson]

/-- Without hoisting, a rendering holds no reference, and the value it renders unfolds to the
rendering read as it stands. -/
theorem Renders.unfolds_ofJson {doc : Json} {seen : List String} {x y : Json}
    (h : Renders doc [] seen x y) (n : Nat) : Unfolds doc n x (Tree.ofJson n y) := by
  induction h generalizing n with
  | follow hr _ htarget _ ih => exact .ref hr htarget (ih n)
  | hoist _ _ hmem => cases hmem
  | @obj seen fields rendered hnone _ hkeys _ ih =>
    cases n with
    | zero => exact .cut _
    | succ n =>
      refine .obj hnone (by rw [hkeys, List.map_map]; rfl) fun i hx ht => ?_
      simp only [List.getElem_map]
      exact ih i hx (by simpa using ht) n
  | @arr seen items rendered hlen _ ih =>
    cases n with
    | zero => exact .cut _
    | succ n =>
      refine .arr (by simp [hlen]) fun i hx ht => ?_
      simp only [List.getElem_map]
      exact ih i hx (by simpa using ht) n
  | scalar hs =>
    cases n with
    | zero => exact .cut _
    | succ n => rw [Tree.ofJson_of_isScalar n hs]; exact .scalar hs

end Covenant.Contract
