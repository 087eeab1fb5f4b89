import Covenant.Proofs.Route.Resolution
import Covenant.Service.Resolution

/-!
# The shape of every resolution

A resolution either finds a template, with the item declared for it and the item's operation
for the method, and then reports nothing; or it finds none and reports at least the missing
path. Callers read the empty template as the mark of a miss, which is sound exactly when the
contract declares no empty template (`findPath_coherent`): the empty request path is the empty
template's own text, so such a template matches it and is reported as a match of no template
(`empty_template_matches_blank`).
-/

namespace Covenant.Route

/-- The invariant of an answer over a contract: the operation is present exactly when a
template is found, exactly when nothing is reported, exactly when the template read is not
empty; and what is found is an entry of the contract whose item has that operation for the
verb. -/
structure Match.Coherent (C : Contract) (verb : Option Verb) (r : Match) : Prop where
  operation_iff : r.operation?.isSome ↔ r.isMatch
  findings_iff : r.findings = [] ↔ r.isMatch
  template_iff : r.template ≠ "" ↔ r.isMatch
  entry : ∀ t item op, r.found = some (t, item, op) →
    (t, item) ∈ C.paths ∧ verb.bind item.operation = some op

section Resolve

variable {verb : Option Verb} {path : String} {report : Bool}

theorem resolve_found_entry {cands : List (String × PathItem)} {t : String} {item : PathItem}
    {op : Operation} (hfound : (resolve cands verb path report).found = some (t, item, op)) :
    (t, item) ∈ cands ∧ verb.bind item.operation = some op := by
  obtain ⟨pre, suf, rfl, hop, -, -⟩ := resolve_found_eq_some_iff cands t item op |>.mp hfound
  exact ⟨by simp, hop⟩

/-- A miss always reports the missing path, and a match reports nothing. -/
theorem resolve_findings_eq_nil_iff (cands : List (String × PathItem)) :
    (resolve cands verb path report).findings = [] ↔
      (resolve cands verb path report).isMatch := by
  cases hfound : (resolve cands verb path report).found with
  | none =>
    simp [Match.isMatch, hfound, resolve_findings_of_not_found hfound]
  | some found =>
    obtain ⟨t, item, op⟩ := found
    simp [Match.isMatch, hfound, (resolve_of_found hfound).2.1]

/-- Resolution over entries of a contract without an empty template answers coherently. -/
theorem resolve_coherent {C : Contract} {cands : List (String × PathItem)}
    (hcands : ∀ c ∈ cands, c ∈ C.paths) (hblank : ∀ c ∈ C.paths, c.1 ≠ "") :
    Match.Coherent C verb (resolve cands verb path report) := by
  have hentry : ∀ t item op, (resolve cands verb path report).found = some (t, item, op) →
      (t, item) ∈ C.paths ∧ verb.bind item.operation = some op := fun t item op hfound =>
    have h := resolve_found_entry hfound
    ⟨hcands _ h.1, h.2⟩
  refine ⟨by simp [Match.operation?, Match.isMatch], resolve_findings_eq_nil_iff cands, ?_,
    hentry⟩
  cases hfound : (resolve cands verb path report).found with
  | none => simp [Match.template, Match.isMatch, hfound]
  | some found =>
    obtain ⟨t, item, op⟩ := found
    -- a found template is a declared one, and no declared template is empty
    have ht : t ≠ "" := hblank (t, item) (hentry t item op hfound).1
    simp [Match.template, Match.isMatch, hfound, ht]

end Resolve

/-- The match invariant of the specification, for the resolvers of every configuration and for
the free lookup, over contracts that declare no empty template. -/
theorem findPath_coherent (C : Contract) (hblank : ∀ p ∈ C.paths, p.1 ≠ "")
    (cfg : ResolverConfig) (m : Method) (path : String) :
    Match.Coherent C m.verb? ((Resolver.new C cfg).findPath m path) ∧
      Match.Coherent C m.verb? (findPath C m path) := by
  have hperm := candidates_perm C cfg
  exact ⟨resolve_coherent (fun c hc => hperm.mem_iff.mp hc) hblank,
    resolve_coherent (fun _ hc => hc) hblank⟩

theorem pets_resolution_coherent :
    let C : Contract := { paths := [("/pets", PathItem.withOperation {} .get {})] }
    (∀ p ∈ C.paths, p.1 ≠ "") ∧
      Match.Coherent C (some .get) ((Resolver.new C .strict).findPath ⟨"GET"⟩ "/pets") ∧
      Match.Coherent C (some .get) (findPath C ⟨"GET"⟩ "/pets") := by
  intro C
  have hblank : ∀ p ∈ C.paths, p.1 ≠ "" := by simp [C]
  exact ⟨hblank, findPath_coherent C hblank .strict ⟨"GET"⟩ "/pets"⟩

/-- The empty request path matches an empty template by its own text, and the match is
reported with an empty template. -/
theorem empty_template_matches_blank :
    let C : Contract := { paths := [("", PathItem.withOperation {} .get {})] }
    let r := Resolution.ofMatch ((Resolver.new C {}).findPath ⟨"GET"⟩ "")
    r.matched = true ∧ r.template = "" ∧ r.findings = [] := by
  intro C r
  have hfound : ((Resolver.new C {}).findPath ⟨"GET"⟩ "").found =
      some ("", PathItem.withOperation {} .get {}, {}) := by
    rw [Resolver.findPath, resolve_found_eq_some_iff]
    exact ⟨[], [], rfl, rfl, .inl rfl, by simp⟩
  have hfindings := (resolve_of_found hfound).2.1
  exact ⟨by simp [r, Resolution.ofMatch, Match.isMatch, hfound],
    by simp [r, Resolution.ofMatch, Match.template, hfound], hfindings⟩

end Covenant.Route
