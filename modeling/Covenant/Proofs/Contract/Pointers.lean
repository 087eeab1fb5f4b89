import Covenant.Contract.Source
import Covenant.Proofs.Contract.Follow
import Covenant.Proofs.Json.Keys
import Covenant.Proofs.Schema.Render

/-!
# The token paths a contract is read at

Reading a contract threads a token path along with each value it reads: `paths` and the
template for a path item, then `parameters` and an index, the lower-case method name,
`requestBody`, and `content`, `application/json`, `schema`; after each `$ref` the path becomes
the reference's own tokens (`Chain.walk`). Every such path addresses in the parsed document the
value read there. Both readers keep an object's keys distinct, so the member that the loop over
`paths` meets is the one its key names.

A schema is rendered from its declaration with the references inlined, and located at the `type`
key of the value the references lead to. The references of a chain that ends are distinct
(`Chain.nodup`), so inlining the declaration is inlining that value with the chain's references
being expanded (`inline_of_chain`), and `$defs` beside a rendering declares no type
(`typesOf_render`). Every schema of a loaded contract is therefore located and typed by one and
the same value of the document (`loaded_schemas_located`).
-/

namespace Covenant.Json

theorem eq_arr_of_getArr? {v : Json} {items : List Json} (h : v.getArr? = some items) :
    v = .arr items := by
  cases v <;> simp [Json.getArr?] at h
  rw [h]

theorem eq_obj_of_getObj? {v : Json} {fields : List (String × Json)} (h : v.getObj? = some fields) :
    v = .obj fields := by
  cases v <;> simp [Json.getObj?] at h
  rw [h]

theorem DistinctKeys.of_get? {v w : Json} {k : String} (h : v.DistinctKeys)
    (hw : v.get? k = some w) : w.DistinctKeys := by
  cases h with
  | obj _ hvals =>
    obtain ⟨k', hmem⟩ := Pointer.mem_of_get?_eq_some hw
    exact hvals _ hmem
  | _ => simp [Json.get?] at hw

theorem DistinctKeys.get?_of_mem {fields : List (String × Json)} {k : String} {w : Json}
    (h : (Json.obj fields).DistinctKeys) (hmem : (k, w) ∈ fields) :
    (Json.obj fields).get? k = some w := by
  cases h with
  | obj hnodup _ => exact Contract.get?_of_mem hnodup hmem

end Covenant.Json

namespace Covenant.Contract

section Walk

theorem walk_append (v : Json) (p q : List String) :
    Pointer.walk v (p ++ q) = (Pointer.walk v p).bind (Pointer.walk · q) := by
  induction p generalizing v with
  | nil => simp [Pointer.walk]
  | cons t ts ih =>
    cases v <;> simp [Pointer.walk, ih, Option.bind_assoc]

theorem obj_of_get? {v w : Json} {k : String} (h : v.get? k = some w) :
    ∃ fields, v = .obj fields := by
  cases v with
  | obj fields => exact ⟨fields, rfl⟩
  | _ => simp [Json.get?] at h

theorem walk_key {v w : Json} {k : String} (h : v.get? k = some w) (ts : List String) :
    Pointer.walk v (k :: ts) = Pointer.walk w ts := by
  obtain ⟨fields, rfl⟩ := obj_of_get? h
  simp [Pointer.walk, h]

theorem walk_index {items : List Json} {i : Nat} {x : Json} (h : items[i]? = some x)
    (ts : List String) : Pointer.walk (.arr items) (toString i :: ts) = Pointer.walk x ts := by
  simp only [Pointer.walk, Pointer.parseIndex_toString, Option.bind_some, h]

theorem walk_member {root owner x : Json} {base : List String} {key : String}
    (hwalk : Pointer.walk root base = some owner) (h : owner.get? key = some x) :
    Pointer.walk root (base ++ [key]) = some x := by
  rw [walk_append, hwalk, Option.bind_some, walk_key h]
  rfl

theorem exists_eq_append_of_startsWith {s t : String} (h : s.startsWith t = true) :
    ∃ u, s = t ++ u := by
  obtain ⟨l, hl⟩ := String.startsWith_string_iff.mp h
  refine ⟨String.ofList l, ?_⟩
  rw [← String.toList_inj, String.toList_append, String.toList_ofList, hl]

theorem splitOn_slash_append (s : String) : ("/" ++ s).splitOn "/" = "" :: s.splitOn "/" := by
  rw [Text.splitOn_eq_of_toList _ "/" (c := '/') rfl,
    Text.splitOn_eq_of_toList _ "/" (c := '/') rfl]
  simp [List.splitOn_eq_splitOnP, List.splitOnP_cons_eq_if_modifyHead]

theorem split_hash_slash (q : String) :
    Pointer.split ("#" ++ ("/" ++ q)) = (q.splitOn "/").map Pointer.decodeToken := by
  simp [Pointer.split, String.startsWith_string_iff]

theorem resolve_slash (root : Json) (q : String) :
    Pointer.resolve root ("/" ++ q) =
      Pointer.walk root ((q.splitOn "/").map Pointer.decodeToken) := by
  simp [Pointer.resolve, splitOn_slash_append]

/-- The tokens of a reference that resolves walk the document to its target. -/
theorem walk_split_of_resolveReference {root t : Json} {r : String}
    (h : resolveReference root r = .ok t) : Pointer.walk root (Pointer.split r) = some t := by
  unfold resolveReference at h
  split_ifs at h with hhash
  obtain ⟨p, rfl⟩ := exists_eq_append_of_startsWith hhash
  have hp : String.ofList (("#" ++ p).toList.drop 1) = p := by simp
  rw [hp] at h
  split at h
  · rename_i hres
    cases h
    -- a pointer that resolves is empty or starts with `/`
    by_cases hempty : p = ""
    · subst hempty
      simp_all [Pointer.resolve, Pointer.split, Pointer.walk]
    · have hslash : p.startsWith "/" = true := by
        by_contra hn
        rw [Pointer.resolve, if_neg (by simpa using hempty), if_pos (by simpa using hn)] at hres
        cases hres
      obtain ⟨q, rfl⟩ := exists_eq_append_of_startsWith hslash
      rw [split_hash_slash, ← resolve_slash, hres]
  · cases h

/-- Following references keeps a token path on the value it walks to. -/
theorem Chain.walk {root v w : Json} {p q rs : List String} (h : Chain root v p rs w q)
    (hv : Pointer.walk root p = some v) : Pointer.walk root q = some w := by
  induction h with
  | nil => exact hv
  | cons _ ht _ ih => exact ih (walk_split_of_resolveReference ht)

end Walk

section Chains

theorem obj_of_referenceOf {v : Json} {r : String} (h : referenceOf v = some r) :
    ∃ fields, v = .obj fields := by
  obtain ⟨w, hw, -⟩ := Option.bind_eq_some_iff.mp h
  exact obj_of_get? hw

theorem chain_of_follow {root v w : Json} {p q : List String}
    (h : follow root v p = .ok (w, q)) : ∃ rs, Chain root v p rs w q ∧ referenceOf w = none := by
  obtain ⟨rs, -, hc, hw⟩ := (go_eq_ok_iff maxReferenceChain).mp h
  exact ⟨rs, hc, hw⟩

theorem Chain.split {root v w : Json} {p q : List String} {xs ys : List String}
    (h : Chain root v p (xs ++ ys) w q) :
    ∃ u q₁, Chain root v p xs u q₁ ∧ Chain root u q₁ ys w q := by
  induction xs generalizing v p with
  | nil => exact ⟨v, p, .nil v p, h⟩
  | cons x xs ih =>
    cases h with
    | cons hr ht hc =>
      obtain ⟨u, q₁, hxs, hys⟩ := ih hc
      exact ⟨u, q₁, .cons hr ht hxs, hys⟩

/-- The references met from a value are fixed by the value: two chains from it that both end
at a value without a reference meet the same references. -/
theorem Chain.refs_eq {root v w w' : Json} {p p' q q' rs rs' : List String}
    (h : Chain root v p rs w q) (hw : referenceOf w = none)
    (h' : Chain root v p' rs' w' q') (hw' : referenceOf w' = none) : rs = rs' := by
  induction h generalizing p' rs' with
  | nil =>
    cases h' with
    | nil => rfl
    | cons hr => simp [hr] at hw
  | cons hr ht _ ih =>
    cases h' with
    | nil => simp [hr] at hw'
    | cons hr' ht' hc' =>
      have hsame := hr.symm.trans hr'
      cases hsame
      rw [ht] at ht'
      cases ht'
      rw [ih hw hc']

/-- A chain that ends at a value without a reference meets no reference twice: the second
time round it would have to end as well, after fewer references. -/
theorem Chain.nodup {root v w : Json} {p q rs : List String} (h : Chain root v p rs w q)
    (hw : referenceOf w = none) : rs.Nodup := by
  induction h with
  | nil => exact List.nodup_nil
  | @cons v t w p q r rs hr ht hc ih =>
    refine List.nodup_cons.mpr ⟨fun hmem => ?_, ih hw⟩
    obtain ⟨xs, ys, rfl⟩ := List.append_of_mem hmem
    obtain ⟨u, q₁, -, hu⟩ := Chain.split hc
    cases hu with
    | cons hr' ht' hys =>
      rw [ht] at ht'
      cases ht'
      have hlen := congrArg List.length (Chain.refs_eq hc hw hys hw)
      simp only [List.length_append, List.length_cons] at hlen
      omega

/-- Inlining a value whose references form a chain starts over from the chain's end, with the
chain's references being expanded. -/
theorem inline_of_chain {root v w : Json} {p q rs : List String} (h : Chain root v p rs w q)
    (hnodup : rs.Nodup) {seen : List String} (hseen : ∀ r ∈ rs, r ∉ seen) (hoisted : Hoisted) :
    inline root seen hoisted v = inline root (rs.reverse ++ seen) hoisted w := by
  induction h generalizing seen with
  | nil => rfl
  | @cons v t w p q r rs hr ht _ ih =>
    obtain ⟨fields, rfl⟩ := obj_of_referenceOf hr
    obtain ⟨hr_notMem, hrs⟩ := List.nodup_cons.mp hnodup
    have hseen' : ∀ r' ∈ rs, r' ∉ r :: seen := by
      intro r' hr' hmem
      rcases List.mem_cons.mp hmem with rfl | hmem
      · exact hr_notMem hr'
      · exact hseen r' (List.mem_cons_of_mem _ hr') hmem
    rw [inline_of_not_mem hr (hseen r List.mem_cons_self), ht]
    show inline root (r :: seen) hoisted t = _
    rw [ih hrs hseen']
    simp

end Chains

section Rendering

theorem typesOf_withDefs (body : Json) (defs : List (String × Json)) :
    SchemaDefinition.typesOf (withDefs body defs) = SchemaDefinition.typesOf body := by
  unfold withDefs
  split
  · simp only [SchemaDefinition.typesOf,
      get?_setField_of_ne _ _ (show "type" ≠ "$defs" by decide)]
  · simp [SchemaDefinition.typesOf, Json.get?]

/-- A rendered schema declares the types of the value inlined: `$defs` beside it adds none. -/
theorem typesOf_render {root v out : Json} (h : render root v = .ok out) :
    ∃ body hoisted, inline root [] [] v = .ok (body, hoisted) ∧
      SchemaDefinition.typesOf out = SchemaDefinition.typesOf body := by
  rw [render, except_bind_eq_ok] at h
  obtain ⟨⟨body, hoisted⟩, hinline, hrest⟩ := h
  refine ⟨body, hoisted, hinline, ?_⟩
  by_cases hempty : hoisted.isEmpty
  · simp only [hempty, if_true, pure, Except.pure, Except.ok.injEq] at hrest
    rw [hrest]
  · simp only [hempty, Bool.false_eq_true, if_false] at hrest
    obtain ⟨found, -, hmatch⟩ := (except_bind_eq_ok _ _ _).mp hrest
    have hout : out = withDefs body found := by
      cases body <;> simp [withDefs, pure, Except.pure] at hmatch ⊢ <;> exact hmatch.symm
    rw [hout, typesOf_withDefs]

end Rendering

section Loops

theorem getElem?_of_mapM_eq_ok {ε α β : Type} {f : α → Except ε β} :
    ∀ {xs : List α} {ys : List β}, xs.mapM f = .ok ys →
      ∀ (i : Nat) y, ys[i]? = some y → ∃ x, xs[i]? = some x ∧ f x = .ok y
  | [], ys, h, i, y, hy => by
    simp only [List.mapM_nil, pure, Except.pure, Except.ok.injEq] at h
    subst h
    simp at hy
  | x :: xs, ys, h, i, y, hy => by
    rw [List.mapM_cons, except_bind_eq_ok] at h
    obtain ⟨y₀, hx, h⟩ := h
    obtain ⟨ys', hxs, h⟩ := (except_bind_eq_ok _ _ _).mp h
    simp only [pure, Except.pure, Except.ok.injEq] at h
    subst h
    cases i with
    | zero =>
      simp only [List.getElem?_cons_zero, Option.some.injEq] at hy
      exact ⟨x, rfl, hy ▸ hx⟩
    | succ i =>
      simpa using getElem?_of_mapM_eq_ok hxs i y hy

theorem foldlM_invariant {ε α β : Type} {f : β → α → Except ε β} {l : List α} (P : β → Prop)
    (hf : ∀ b a b', a ∈ l → P b → f b a = .ok b' → P b') :
    ∀ {init res : β}, P init → l.foldlM f init = .ok res → P res := by
  induction l with
  | nil =>
    intro init res hinit h
    cases h
    exact hinit
  | cons a l ih =>
    intro init res hinit h
    rw [List.foldlM_cons, except_bind_eq_ok] at h
    obtain ⟨b, hb, h⟩ := h
    exact ih (fun b a b' ha => hf b a b' (List.mem_cons_of_mem _ ha))
      (hf init a b List.mem_cons_self hinit hb) h

theorem mem_addPath {c : Contract} {template t : String} {item i : PathItem}
    (h : (t, i) ∈ (c.addPath template item).paths) :
    (t, i) ∈ c.paths ∨ (t = template ∧ i = item) := by
  unfold Contract.addPath at h
  split at h
  · obtain ⟨p, hp, heq⟩ := List.mem_map.mp h
    by_cases hpt : p.1 = template
    · simp only [hpt, beq_self_eq_true, if_true, Prod.mk.injEq] at heq
      exact .inr ⟨heq.1.symm, heq.2.symm⟩
    · simp only [hpt, beq_iff_eq, if_false] at heq
      exact .inl (heq ▸ hp)
  · rcases List.mem_append.mp h with h | h
    · exact .inl h
    · simp only [List.mem_singleton, Prod.mk.injEq] at h
      exact .inr h

end Loops

namespace Document

/-- `path` addresses a value of the document, and following that value's references `rs` ends at
`value`, which holds none, at the token path `followed`. -/
def Reads (d : Document) (path rs : List String) (value : Json) (followed : List String) : Prop :=
  ∃ decl, Pointer.resolve d.root (Pointer.join path) = some decl ∧
    Chain d.root decl path rs value followed ∧ referenceOf value = none

/-- A schema definition read from the schema declared at `path`: located at the `type` key of the
value its references lead to, and declaring the types of that value inlined. -/
def SchemaRead (d : Document) (path : List String) (s : SchemaDefinition) : Prop :=
  ∃ rs target followed body hoisted, d.Reads path rs target followed ∧
    Pointer.resolve d.root (Pointer.join followed) = some target ∧
    s.location = (d.index.get? (followed ++ ["type"])).getD .unknown ∧
    inline d.root rs.reverse [] target = .ok (body, hoisted) ∧
    s.types = SchemaDefinition.typesOf body

/-- The schemas of a list of parameters read at `base`: the `i`-th parameter is read at
`parameters` and `i` below `base`, and its schema below the path its references lead to. -/
def ParametersRead (d : Document) (base : List String) (params : List Parameter) : Prop :=
  ∀ (i : Nat) p, params[i]? = some p → ∀ s, p.schema = some s →
    ∃ rs pv pp, d.Reads (base ++ ["parameters", toString i]) rs pv pp ∧
      d.SchemaRead (pp ++ ["schema"]) s

/-- The schemas of an operation read at `path`: its parameters', and that of its request body
below where the `requestBody` references lead. -/
def OperationRead (d : Document) (path : List String) (op : Operation) : Prop :=
  d.ParametersRead path op.parameters ∧
    ∀ s, op.requestBody = some s → ∃ rs b bodyPath, d.Reads (path ++ ["requestBody"]) rs b bodyPath ∧
      d.SchemaRead (bodyPath ++ ["content", "application/json", "schema"]) s

/-- The schemas of a contract read from a document: each path item is read at `paths` and its
template, with its references followed, and its parameters and operations below the path they
lead to, each operation at its lower-case method name. -/
def ContractRead (d : Document) (C : Contract) : Prop :=
  ∀ t item, (t, item) ∈ C.paths → ∃ rs value base, d.Reads ["paths", t] rs value base ∧
    d.ParametersRead base item.parameters ∧
    ∀ v op, item.operation v = some op → d.OperationRead (base ++ [v.name.toLower]) op

theorem reads_of_follow {d : Document} {path : List String} {decl value : Json}
    {followed : List String} (hwalk : Pointer.walk d.root path = some decl)
    (h : follow d.root decl path = .ok (value, followed)) :
    ∃ rs, d.Reads path rs value followed ∧ Pointer.walk d.root followed = some value := by
  obtain ⟨rs, hc, hw⟩ := chain_of_follow h
  exact ⟨rs, ⟨decl, by rw [Pointer.resolve_join, hwalk], hc, hw⟩, hc.walk hwalk⟩

theorem schema_read {d : Document} {value : Json} {path : List String} {s : SchemaDefinition}
    (hwalk : Pointer.walk d.root path = some value) (h : d.schema value path = .ok s) :
    d.SchemaRead path s := by
  unfold Document.schema at h
  obtain ⟨⟨target, followed⟩, hf, h⟩ := (except_bind_eq_ok _ _ _).mp h
  obtain ⟨rendered, hr, h⟩ := (except_bind_eq_ok _ _ _).mp h
  cases h
  obtain ⟨rs, ⟨decl, hdecl, hc, hw⟩, htarget⟩ := reads_of_follow hwalk hf
  obtain ⟨body, hoisted, hin, htypes⟩ := typesOf_render hr
  -- the value declared at `path` is `value` itself, so the chain starts there
  obtain rfl : decl = value := by
    rw [Pointer.resolve_join, hwalk] at hdecl
    exact (Option.some.inj hdecl).symm
  have hin' : inline d.root rs.reverse [] target = .ok (body, hoisted) := by
    rw [← hin, inline_of_chain hc (hc.nodup hw) (by simp), List.append_nil]
  exact ⟨rs, target, followed, body, hoisted, ⟨decl, hdecl, hc, hw⟩,
    by rw [Pointer.resolve_join, htarget], rfl, hin', htypes⟩

/-- A parameter with a schema was read from the `schema` member of the value its references lead
to. -/
theorem parameter_schema {d : Document} {template : String} {value : Json} {path : List String}
    {param : Parameter} (h : d.parameter template value path = .ok param) {s : SchemaDefinition}
    (hs : param.schema = some s) :
    ∃ pv pp sv, follow d.root value path = .ok (pv, pp) ∧ pv.get? "schema" = some sv ∧
      d.schema sv (pp ++ ["schema"]) = .ok s := by
  unfold Document.parameter at h
  obtain ⟨⟨pv, pp⟩, hf, h⟩ := (except_bind_eq_ok _ _ _).mp h
  refine ⟨pv, pp, ?_⟩
  simp only at h
  split at h
  · split at h
    · split at h
      · split at h
        · rename_i sv hsv
          obtain ⟨sch, hsch, h⟩ := (except_bind_eq_ok _ _ _).mp h
          cases h
          obtain rfl : sch = s := by simpa using hs
          exact ⟨sv, hf, hsv, hsch⟩
        · -- without a `schema` member the parameter keeps the schema of `Parameter.new`
          cases h
          split at hs <;> simp [Parameter.new] at hs
      · cases h
    · cases h
  · cases h

theorem parameter_read {d : Document} {template : String} {value : Json} {path : List String}
    {param : Parameter} (hwalk : Pointer.walk d.root path = some value)
    (h : d.parameter template value path = .ok param) {s : SchemaDefinition}
    (hs : param.schema = some s) :
    ∃ rs pv pp, d.Reads path rs pv pp ∧ d.SchemaRead (pp ++ ["schema"]) s := by
  obtain ⟨pv, pp, sv, hf, hsv, hsch⟩ := parameter_schema h hs
  obtain ⟨rs, hreads, hpv⟩ := reads_of_follow hwalk hf
  exact ⟨rs, pv, pp, hreads, schema_read (walk_member hpv hsv) hsch⟩

theorem walk_parameter {root owner x : Json} {base : List String} {list : List Json} {i : Nat}
    (hwalk : Pointer.walk root base = some owner)
    (hlist : (owner.get? "parameters").bind Json.getArr? = some list) (hx : list[i]? = some x) :
    Pointer.walk root (base ++ ["parameters", toString i]) = some x := by
  obtain ⟨arr, harr, hitems⟩ := Option.bind_eq_some_iff.mp hlist
  rw [Json.eq_arr_of_getArr? hitems] at harr
  rw [walk_append, hwalk, Option.bind_some, walk_key harr, walk_index hx]
  rfl

theorem parameters_read {d : Document} {template : String} {owner : Json} {base : List String}
    {params : List Parameter} (hwalk : Pointer.walk d.root base = some owner)
    (h : d.parameters template owner base = .ok params) : d.ParametersRead base params := by
  intro i param hi s hs
  unfold Document.parameters at h
  split at h
  · cases h
    simp at hi
  · rename_i list hlist
    obtain ⟨⟨x, j⟩, hx, hpx⟩ := getElem?_of_mapM_eq_ok h i param hi
    -- the index paired with the `i`-th member is `i`
    obtain ⟨hxi, rfl⟩ : list[i]? = some x ∧ j = i := by
      simp only [List.getElem?_zipIdx, Option.map_eq_some_iff, Prod.mk.injEq] at hx
      obtain ⟨y, hy, rfl, rfl⟩ := hx
      exact ⟨hy, by simp⟩
    exact parameter_read (walk_parameter hwalk hlist hxi) hpx hs

/-- What a successful `operation` read: its parameters at the operation's own path, and a
request body schema from the JSON content of its `requestBody`, references followed. -/
theorem operation_spec {d : Document} {template : String} {value : Json} {path : List String}
    {op : Operation} (h : d.operation template value path = .ok op) :
    d.parameters template value path = .ok op.parameters ∧
      ∀ s, op.requestBody = some s → ∃ b b' bodyPath sv, value.get? "requestBody" = some b ∧
        follow d.root b (path ++ ["requestBody"]) = .ok (b', bodyPath) ∧
        Pointer.resolve b' "/content/application~1json/schema" = some sv ∧
        d.schema sv (bodyPath ++ ["content", "application/json", "schema"]) = .ok s := by
  unfold Document.operation at h
  obtain ⟨params, hparams, h⟩ := (except_bind_eq_ok _ _ _).mp h
  dsimp only at h
  split at h
  · cases h
    exact ⟨hparams, fun s hs => by cases hs⟩
  · rename_i b hb
    obtain ⟨⟨b', bodyPath⟩, hf, h⟩ := (except_bind_eq_ok _ _ _).mp h
    split at h
    · cases h
      exact ⟨hparams, fun s hs => by cases hs⟩
    · rename_i sv hsv
      obtain ⟨body, hbody, h⟩ := (except_bind_eq_ok _ _ _).mp h
      obtain ⟨sch, hsch, rfl⟩ := Json.except_map_eq_ok.mp hbody
      cases h
      refine ⟨hparams, fun s hs => ?_⟩
      obtain rfl : sch = s := Option.some.inj hs
      exact ⟨b, b', bodyPath, sv, hb, hf, hsv, hsch⟩

theorem join_body_schema :
    Pointer.join ["content", "application/json", "schema"] = "/content/application~1json/schema" := by
  simp [Pointer.join, Pointer.encodeToken, Pointer.escapeChar]

theorem operation_read {d : Document} {template : String} {value : Json} {path : List String}
    {op : Operation} (hwalk : Pointer.walk d.root path = some value)
    (h : d.operation template value path = .ok op) : d.OperationRead path op := by
  obtain ⟨hparams, hbody⟩ := operation_spec h
  refine ⟨parameters_read hwalk hparams, fun s hs => ?_⟩
  obtain ⟨b, b', bodyPath, sv, hb, hf, hsv, hsch⟩ := hbody s hs
  obtain ⟨rs, hreads, hb'⟩ := reads_of_follow (walk_member hwalk hb) hf
  refine ⟨rs, b', bodyPath, hreads, schema_read ?_ hsch⟩
  rw [← join_body_schema, Pointer.resolve_join] at hsv
  rw [walk_append, hb', Option.bind_some, hsv]

/-- What a successful `pathItem` read: the item's references followed from `paths` and the
template, its shared parameters and one operation for each verb whose lower-case name it holds,
each read below the followed path. -/
theorem pathItem_spec {d : Document} {template : String} {value : Json} {item : PathItem}
    (h : d.pathItem template value = .ok item) :
    ∃ iv base, follow d.root value ["paths", template] = .ok (iv, base) ∧
      d.parameters template iv base = .ok item.parameters ∧
      ∀ v op, item.operation v = some op → ∃ ov, iv.get? v.name.toLower = some ov ∧
        d.operation template ov (base ++ [v.name.toLower]) = .ok op := by
  unfold Document.pathItem at h
  obtain ⟨⟨iv, base⟩, hf, h⟩ := (except_bind_eq_ok _ _ _).mp h
  obtain ⟨params, hparams, h⟩ := (except_bind_eq_ok _ _ _).mp h
  -- each verb's step keeps the shared parameters and adds only operations read below the item
  let Inv (acc : PathItem) : Prop := acc.parameters = params ∧
    ∀ v op, acc.operation v = some op → ∃ ov, iv.get? v.name.toLower = some ov ∧
      d.operation template ov (base ++ [v.name.toLower]) = .ok op
  have hinv : Inv item := by
    refine foldlM_invariant Inv ?_ ⟨rfl, fun v op hv => by cases hv⟩ h
    intro acc w acc' _ hacc hw
    dsimp only at hw
    split at hw
    · cases hw
      exact hacc
    · rename_i ov hov
      obtain ⟨op, hop, hw⟩ := (except_bind_eq_ok _ _ _).mp hw
      cases hw
      refine ⟨hacc.1, fun v op' hv => ?_⟩
      by_cases hvw : v = w
      · subst hvw
        obtain rfl : op = op' := by simpa [PathItem.operation, PathItem.withOperation] using hv
        exact ⟨ov, hov, hop⟩
      · exact hacc.2 v op' (by simpa [PathItem.operation, PathItem.withOperation, hvw] using hv)
  exact ⟨iv, base, hf, hinv.1 ▸ hparams, hinv.2⟩

/-- Every path item of a contract read from a document was read from a member of its `paths`
object, under that member's key. -/
theorem contract_paths {d : Document} {C : Contract} (h : d.contract = .ok C) :
    ∀ t item, (t, item) ∈ C.paths →
      ∃ iv, (t, iv) ∈ ((d.root.get? "paths").bind Json.getObj?).getD [] ∧
        d.pathItem t iv = .ok item := by
  unfold Document.contract at h
  refine foldlM_invariant (fun c : Contract => ∀ t item, (t, item) ∈ c.paths → ∃ iv,
      (t, iv) ∈ ((d.root.get? "paths").bind Json.getObj?).getD [] ∧ d.pathItem t iv = .ok item)
    ?_ (fun t item hmem => by cases hmem) h
  rintro c ⟨template, iv⟩ c' hmem hc hstep t item ht
  obtain ⟨i, hi, hstep⟩ := (except_bind_eq_ok _ _ _).mp hstep
  cases hstep
  rcases mem_addPath ht with ht | ⟨rfl, rfl⟩
  · exact hc t item ht
  · exact ⟨iv, hmem, hi⟩

theorem contract_read {d : Document} {C : Contract} (hkeys : d.root.DistinctKeys)
    (h : d.contract = .ok C) : d.ContractRead C := by
  intro t item hmem
  obtain ⟨iv, hiv, hitem⟩ := contract_paths h t item hmem
  -- the member met in the loop is the one its key names, since keys are distinct
  have hwalk : Pointer.walk d.root ["paths", t] = some iv := by
    cases hpaths : (d.root.get? "paths").bind Json.getObj? with
    | none => simp [hpaths] at hiv
    | some fields =>
      rw [hpaths, Option.getD_some] at hiv
      obtain ⟨pv, hpv, hfields⟩ := Option.bind_eq_some_iff.mp hpaths
      obtain rfl := Json.eq_obj_of_getObj? hfields
      have hget : (Json.obj fields).get? t = some iv := (hkeys.of_get? hpv).get?_of_mem hiv
      rw [walk_key hpv, walk_key hget]
      rfl
  obtain ⟨value, base, hf, hparams, hops⟩ := pathItem_spec hitem
  obtain ⟨rs, hreads, hbase⟩ := reads_of_follow hwalk hf
  refine ⟨rs, value, base, hreads, parameters_read hbase hparams, fun v op hop => ?_⟩
  obtain ⟨ov, hov, hop⟩ := hops v op hop
  exact operation_read (walk_member hbase hov) hop

end Document

theorem parse_distinctKeys {content : String} {format : DocumentFormat} {root : Json}
    (h : parse content format = .ok root) : root.DistinctKeys := by
  cases format with
  | json =>
    cases hread : Json.read content with
    | ok v =>
      simp only [parse, hread, Except.ok.injEq] at h
      exact h ▸ Json.read_distinctKeys_of_ok hread
    | error e => simp [parse, hread] at h
  | yaml =>
    cases hread : Yaml.read content with
    | ok v =>
      simp only [parse, hread, Except.ok.injEq] at h
      exact h ▸ Yaml.read_distinctKeys_of_ok hread
    | error e => simp [parse, hread] at h

/-- A contract with one operation and one path parameter, in JSON. -/
def pathParameterContract : String :=
  "\x7b\"paths\":\x7b\"/p/\x7bid\x7d\":\x7b\"get\":\x7b\"parameters\":[\x7b\"name\":\"id\",\"in\":\"path\"\x7d]\x7d\x7d\x7d\x7d"

end Covenant.Contract
