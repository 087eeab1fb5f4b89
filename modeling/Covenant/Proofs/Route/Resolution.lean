import Covenant.Proofs.Route.Comparison

/-!
# Resolution finds the first template that fits

A request path fits a template under an operation when it is the template's own text, or when
it lines up with the template and no captured value is rejected by the path parameter the
operation sees under its name (`Fits`). Resolution walks the candidates in order and returns the
first one whose item has an operation for the verb and whose template fits (`resolve_of_first_fit`);
when none fits it returns the findings of every rejected value, if asked to report them, and then
the missing path (`resolve_of_none_fits`).
-/

namespace Covenant.Route

/-- The request path fits the template of `item` under `op`: it is the template's own text, or
it lines up with the template and the operation's path parameters accept every captured value. -/
def Fits (item : PathItem) (op : Operation) (template path : String) : Prop :=
  path = template ∨
    (Aligns (Template.ofString template) (splitSegments path) ∧
      ∀ c ∈ captures (Template.ofString template).segments (splitSegments path),
        (mismatchOf item op c).isNone)

instance (item : PathItem) (op : Operation) (template path : String) :
    Decidable (Fits item op template path) :=
  inferInstanceAs (Decidable (_ ∨ _))

/-- A candidate fits a request when its item has an operation for the verb and the path fits
its template under that operation. -/
def FitsCandidate (verb : Option Verb) (path : String) (c : String × PathItem) : Prop :=
  ∃ op, verb.bind c.2.operation = some op ∧ Fits c.2 op c.1 path

instance (verb : Option Verb) (path : String) : DecidablePred (FitsCandidate verb path) :=
  fun c =>
    match h : verb.bind c.2.operation with
    | none => isFalse (by simp [FitsCandidate, h])
    | some op => decidable_of_iff (Fits c.2 op c.1 path) (by simp [FitsCandidate, h])

/-- The parameters a fit binds: none for the template's own text, else the captures in order. -/
def fitParams (template path : String) : List (String × String) :=
  if path = template then []
  else bindParams (captures (Template.ofString template).segments (splitSegments path))

/-- The findings a candidate contributes when mismatches are reported: one for each rejected
value of a template that lines up with the request. -/
def typeFindings (verb : Option Verb) (path : String) (c : String × PathItem) : List Finding :=
  match verb.bind c.2.operation with
  | none => []
  | some op =>
    if Aligns (Template.ofString c.1) (splitSegments path) then
      (mismatches c.2 op (Template.ofString c.1) (splitSegments path)).map (·.toFinding path)
    else []

/-- Without declared parameters, a template fits every request that lines up with it. -/
theorem fits_of_aligns {item : PathItem} {op : Operation} {template path : String}
    (hop : op.parameters = []) (hitem : item.parameters = [])
    (haligned : Aligns (Template.ofString template) (splitSegments path)) :
    Fits item op template path :=
  .inr ⟨haligned, fun c _ => by simp [mismatchOf, PathItem.pathParameter, hop, hitem]⟩

theorem mismatches_eq_nil_iff (item : PathItem) (op : Operation) (template : Template)
    (requested : List String) :
    mismatches item op template requested = [] ↔
      ∀ c ∈ captures template.segments requested, (mismatchOf item op c).isNone := by
  simp [mismatches, List.filterMap_eq_nil_iff]

section Step

variable {verb : Option Verb} {path : String} {report : Bool}

/-- A candidate that fits ends the walk with its template, item and operation. -/
theorem go_cons_of_fits {t : String} {item : PathItem} {op : Operation}
    (rest : List (String × PathItem)) (errors : List Finding)
    (hop : verb.bind item.operation = some op) (hfit : Fits item op t path) :
    resolve.go verb path report (splitSegments path) ((t, item) :: rest) errors =
      ⟨some (t, item, op), fitParams t path, []⟩ := by
  rw [resolve.go, hop]
  by_cases hsame : path = t
  · simp [hsame, fitParams]
  · obtain ⟨haligned, haccepts⟩ := hfit.resolve_left hsame
    have hempty := (mismatches_eq_nil_iff item op _ _).mpr haccepts
    simp [hsame, compare_eq, haligned, hempty, fitParams]

/-- A candidate that does not fit passes the walk on, adding its type findings when asked. -/
theorem go_cons_of_not_fits {c : String × PathItem} (rest : List (String × PathItem))
    (errors : List Finding) (hc : ¬FitsCandidate verb path c) :
    resolve.go verb path report (splitSegments path) (c :: rest) errors =
      resolve.go verb path report (splitSegments path) rest
        (if report then errors ++ typeFindings verb path c else errors) := by
  obtain ⟨t, item⟩ := c
  rw [resolve.go]
  cases hop : verb.bind item.operation with
  | none => simp [typeFindings, hop]
  | some op =>
    have hnofit : ¬Fits item op t path := fun h => hc ⟨op, hop, h⟩
    have hsame : path ≠ t := fun h => hnofit (.inl h)
    by_cases haligned : Aligns (Template.ofString t) (splitSegments path)
    · -- it lines up, so some captured value is rejected and the comparison reports it
      have hreject : mismatches item op (Template.ofString t) (splitSegments path) ≠ [] :=
        fun h => hnofit (.inr ⟨haligned, (mismatches_eq_nil_iff item op _ _).mp h⟩)
      simp [hsame, compare_eq, haligned, hreject, typeFindings, hop]
    · simp [hsame, compare_eq, haligned, typeFindings, hop]

end Step

section Run

variable {verb : Option Verb} {path : String} {report : Bool}

/-- When no candidate fits, the walk collects every reported mismatch and ends with a miss. -/
theorem go_of_none_fits (cands : List (String × PathItem)) (errors : List Finding)
    (hnone : ∀ c ∈ cands, ¬FitsCandidate verb path c) :
    resolve.go verb path report (splitSegments path) cands errors =
      ⟨none, [], errors ++ (if report then cands.flatMap (typeFindings verb path) else []) ++
        [Finding.pathMissing path]⟩ := by
  induction cands generalizing errors with
  | nil => simp [resolve.go]
  | cons c rest ih =>
    rw [go_cons_of_not_fits rest errors (hnone c List.mem_cons_self),
      ih _ (fun c' hc' => hnone c' (List.mem_cons_of_mem c hc'))]
    cases report <;> simp

/-- The walk stops at the first candidate that fits, whatever the findings so far. -/
theorem go_of_first_fit {t : String} {item : PathItem} {op : Operation}
    (pre suf : List (String × PathItem)) (errors : List Finding)
    (hpre : ∀ c ∈ pre, ¬FitsCandidate verb path c)
    (hop : verb.bind item.operation = some op) (hfit : Fits item op t path) :
    resolve.go verb path report (splitSegments path) (pre ++ (t, item) :: suf) errors =
      ⟨some (t, item, op), fitParams t path, []⟩ := by
  induction pre generalizing errors with
  | nil => exact go_cons_of_fits suf errors hop hfit
  | cons c rest ih =>
    rw [List.cons_append, go_cons_of_not_fits _ errors (hpre c List.mem_cons_self)]
    exact ih _ (fun c' hc' => hpre c' (List.mem_cons_of_mem c hc'))

theorem resolve_of_first_fit {t : String} {item : PathItem} {op : Operation}
    (pre suf : List (String × PathItem)) (hpre : ∀ c ∈ pre, ¬FitsCandidate verb path c)
    (hop : verb.bind item.operation = some op) (hfit : Fits item op t path) :
    resolve (pre ++ (t, item) :: suf) verb path report =
      ⟨some (t, item, op), fitParams t path, []⟩ :=
  go_of_first_fit pre suf [] hpre hop hfit

theorem resolve_of_none_fits (cands : List (String × PathItem))
    (hnone : ∀ c ∈ cands, ¬FitsCandidate verb path c) :
    resolve cands verb path report =
      ⟨none, [], (if report then cands.flatMap (typeFindings verb path) else []) ++
        [Finding.pathMissing path]⟩ := by
  simp [resolve, go_of_none_fits cands [] hnone]

/-- Resolution either stops at the first candidate that fits, or finds that none fits. -/
theorem resolve_cases (cands : List (String × PathItem)) :
    (∃ pre t item op suf, cands = pre ++ (t, item) :: suf ∧
      (∀ c ∈ pre, ¬FitsCandidate verb path c) ∧ verb.bind item.operation = some op ∧
      Fits item op t path ∧
      resolve cands verb path report = ⟨some (t, item, op), fitParams t path, []⟩) ∨
    ((∀ c ∈ cands, ¬FitsCandidate verb path c) ∧
      resolve cands verb path report =
        ⟨none, [], (if report then cands.flatMap (typeFindings verb path) else []) ++
          [Finding.pathMissing path]⟩) := by
  cases hfirst : cands.find? (fun c => decide (FitsCandidate verb path c)) with
  | none =>
    have hnone : ∀ c ∈ cands, ¬FitsCandidate verb path c := by
      simpa using List.find?_eq_none.mp hfirst
    exact .inr ⟨hnone, resolve_of_none_fits cands hnone⟩
  | some c =>
    obtain ⟨hc, pre, suf, rfl, hpre⟩ := List.find?_eq_some_iff_append.mp hfirst
    obtain ⟨op, hop, hfit⟩ := of_decide_eq_true hc
    have hpre' : ∀ c ∈ pre, ¬FitsCandidate verb path c := by simpa using hpre
    exact .inl ⟨pre, c.1, c.2, op, suf, rfl, hpre', hop, hfit,
      resolve_of_first_fit pre suf hpre' hop hfit⟩

/-- Resolution returns a candidate exactly when it is the first one that fits. -/
theorem resolve_found_eq_some_iff (cands : List (String × PathItem)) (t : String)
    (item : PathItem) (op : Operation) :
    (resolve cands verb path report).found = some (t, item, op) ↔
      ∃ pre suf, cands = pre ++ (t, item) :: suf ∧ verb.bind item.operation = some op ∧
        Fits item op t path ∧ ∀ c ∈ pre, ¬FitsCandidate verb path c := by
  constructor
  · intro hfound
    rcases @resolve_cases verb path report cands with
      ⟨pre, t', item', op', suf, rfl, hpre, hop, hfit, hres⟩ | ⟨-, hres⟩
    · rw [hres] at hfound
      obtain ⟨rfl, rfl, rfl⟩ : t' = t ∧ item' = item ∧ op' = op := by simpa using hfound
      exact ⟨pre, suf, rfl, hop, hfit, hpre⟩
    · simp [hres] at hfound
  · rintro ⟨pre, suf, rfl, hop, hfit, hpre⟩
    rw [resolve_of_first_fit pre suf hpre hop hfit]

/-- A found template fits; it comes with no findings and with the parameters of the fit. -/
theorem resolve_of_found {cands : List (String × PathItem)} {t : String} {item : PathItem}
    {op : Operation} (hfound : (resolve cands verb path report).found = some (t, item, op)) :
    Fits item op t path ∧ (resolve cands verb path report).findings = [] ∧
      (resolve cands verb path report).pathParams = fitParams t path := by
  rcases @resolve_cases verb path report cands with
    ⟨_, t', item', op', _, -, -, -, hfit, hres⟩ | ⟨-, hres⟩
  · rw [hres] at hfound ⊢
    obtain ⟨rfl, rfl, rfl⟩ : t' = t ∧ item' = item ∧ op' = op := by simpa using hfound
    exact ⟨hfit, rfl, rfl⟩
  · simp [hres] at hfound

/-- A miss reports the mismatches of every candidate, when asked, and then the missing path. -/
theorem resolve_findings_of_not_found {cands : List (String × PathItem)}
    (hmiss : (resolve cands verb path report).found = none) :
    (resolve cands verb path report).findings =
      (if report then cands.flatMap (typeFindings verb path) else []) ++
        [Finding.pathMissing path] := by
  rcases @resolve_cases verb path report cands with
    ⟨_, _, _, _, _, -, -, -, -, hres⟩ | ⟨-, hres⟩
  · simp [hres] at hmiss
  · rw [hres]

/-- Resolution matches exactly when some candidate fits. -/
theorem resolve_isMatch_iff (cands : List (String × PathItem)) :
    (resolve cands verb path report).isMatch ↔ ∃ c ∈ cands, FitsCandidate verb path c := by
  rcases @resolve_cases verb path report cands with
    ⟨pre, t, item, op, suf, rfl, -, hop, hfit, hres⟩ | ⟨hnone, hres⟩
  · simp only [hres, Match.isMatch, Option.isSome_some, true_iff]
    exact ⟨(t, item), by simp, op, hop, hfit⟩
  · simp only [hres, Match.isMatch, Option.isSome_none, Bool.false_eq_true, false_iff]
    rintro ⟨c, hc, hfits⟩
    exact hnone c hc hfits

end Run

section Resolver

theorem candidates_perm (C : Contract) (cfg : ResolverConfig) :
    (Resolver.new C cfg).candidates.Perm C.paths := by
  cases h : cfg.matchOrder with
  | declared => simp [Resolver.new, h]
  | specificity => simpa [Resolver.new, h] using List.mergeSort_perm _ _

/-- A resolver finds a template exactly when some template of the contract fits the request.
What it finds is the first candidate that fits, in the order fixed when the resolver was built,
with no findings and the parameters of the fit; a miss lists the reported mismatches of every
candidate in order and then the missing path. The free lookup is the resolver in declaration
order that reports no mismatches. -/
theorem findPath_first_fit (C : Contract) (cfg : ResolverConfig) (m : Method) (path : String) :
    let r := Resolver.new C cfg
    ((r.findPath m path).isMatch ↔ ∃ c ∈ C.paths, FitsCandidate m.verb? path c) ∧
    (∀ t item op, (r.findPath m path).found = some (t, item, op) ↔
      ∃ pre suf, r.candidates = pre ++ (t, item) :: suf ∧ m.verb?.bind item.operation = some op ∧
        Fits item op t path ∧ ∀ c ∈ pre, ¬FitsCandidate m.verb? path c) ∧
    (∀ t item op, (r.findPath m path).found = some (t, item, op) →
      (r.findPath m path).findings = [] ∧ (r.findPath m path).pathParams = fitParams t path) ∧
    ((r.findPath m path).found = none →
      (r.findPath m path).findings =
        (if cfg.reportParameterTypes then r.candidates.flatMap (typeFindings m.verb? path)
          else []) ++ [Finding.pathMissing path]) ∧
    findPath C m path = (Resolver.new C {}).findPath m path := by
  intro r
  have hfind : r.findPath m path = resolve r.candidates m.verb? path cfg.reportParameterTypes :=
    rfl
  have hperm : r.candidates.Perm C.paths := candidates_perm C cfg
  rw [hfind]
  refine ⟨?_, fun t item op => resolve_found_eq_some_iff _ t item op,
    fun _ _ _ hfound => (resolve_of_found hfound).2, resolve_findings_of_not_found, rfl⟩
  -- the candidates are the contract's templates in another order
  rw [resolve_isMatch_iff]
  exact ⟨fun ⟨c, hc, hfits⟩ => ⟨c, hperm.mem_iff.mp hc, hfits⟩,
    fun ⟨c, hc, hfits⟩ => ⟨c, hperm.mem_iff.mpr hc, hfits⟩⟩

end Resolver

end Covenant.Route
