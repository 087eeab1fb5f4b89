import Covenant.Schema.Check
import Covenant.Service.Gateway
import Covenant.Proofs.Pointer.Escape
import Covenant.Proofs.Route.Coherence

/-!
# What a schema check answers

A check of a payload against a schema stops at the first stage that fails: a schema the engine
cannot use gives one `compile` finding whatever the payload, a payload that is not JSON one
`payload` finding, and a value the engine finds fault with one finding that lists the engine's
failures. Only a value with no fault passes, with no finding (`Verdict`). The failures listed
are the engine's, in its order, less those with no keyword path and those whose reason only
points elsewhere, each placed at its keyword in the schema's YAML text when failures are
located (`reportedFailures`); the schema's text is attached exactly when the settings ask.

A gateway checking a request body answers the same for the matched operation's schema, and
answers with the resolution's findings, never empty, when the request matches no operation.
-/

namespace Covenant.Schema

/-- The schema's text attached to a finding when the settings ask for it. -/
def attachedText (settings : Settings) (schema : SchemaDefinition) : Option String :=
  if settings.attachRenderedSchema then some (renderSchema schema.value) else none

/-- The failures reported for the engine's violations of a schema value: those with a keyword
path and a reason of their own, in the engine's order, each placed at its keyword in the schema's
text when failures are located. -/
def reportedFailures (settings : Settings) (value : Json) (found : List Violation) :
    List Failure :=
  (found.filter fun v => v.pathText != "" && !v.message.startsWith "doesn't validate with").map
    fun v => { reason := v.message, keywordPath := v.pathText,
               location := if settings.locateFailures then locateKeyword value v.pathText
                 else .unknown }

/-- What a check of a payload against a schema answers, stage by stage. -/
inductive Verdict (settings : Settings) (schema : SchemaDefinition) (payload : List UInt8) :
    Bool × List Finding → Prop
  | unusable {problem : String} {f : Finding} :
      Prepared.ofSchema schema.value = .error problem →
      f.kind = .schema → f.subKind = some "compile" → f.location = schema.location →
      f.context = attachedText settings schema →
      Verdict settings schema payload (false, [f])
  | undecodable {prepared : Prepared} {e : Json.ReadError} {f : Finding} :
      Prepared.ofSchema schema.value = .ok prepared → Json.readBytes payload = .error e →
      f.kind = .schema → f.subKind = some "payload" → f.location = schema.location →
      Verdict settings schema payload (false, [f])
  | conforms {prepared : Prepared} {value : Json} :
      Prepared.ofSchema schema.value = .ok prepared → Json.readBytes payload = .ok value →
      prepared.check value = [] →
      Verdict settings schema payload (true, [])
  | breaks {prepared : Prepared} {value : Json} {f : Finding} :
      Prepared.ofSchema schema.value = .ok prepared → Json.readBytes payload = .ok value →
      prepared.check value ≠ [] →
      f.kind = .schema → f.subKind = none → f.location = schema.location →
      f.failures = reportedFailures settings schema.value (prepared.check value) →
      f.context = attachedText settings schema →
      Verdict settings schema payload (false, [f])

section Verdict

variable {settings : Settings} {schema : SchemaDefinition} {payload : List UInt8}

/-- Every verdict passes exactly when it has no finding, and has at most one. -/
theorem Verdict.wellFormed {answer : Bool × List Finding}
    (h : Verdict settings schema payload answer) :
    (answer.1 = true ↔ answer.2 = []) ∧ answer.2.length ≤ 1 := by
  cases h <;> simp

/-- A compile finding is given exactly for a schema the engine refuses, whatever the payload. -/
theorem Verdict.compile_iff {answer : Bool × List Finding}
    (h : Verdict settings schema payload answer) :
    (∃ f ∈ answer.2, f.subKind = some "compile") ↔
      ∃ problem, Prepared.ofSchema schema.value = .error problem := by
  cases h with
  | unusable hschema _ hsub =>
    exact ⟨fun _ => ⟨_, hschema⟩, fun _ => ⟨_, List.mem_singleton_self _, hsub⟩⟩
  | undecodable hschema _ _ hsub => simp [hsub, hschema]
  | conforms hschema => simp [hschema]
  | breaks hschema _ _ _ hsub => simp [hsub, hschema]

end Verdict

section Failures

theorem pathText_eq_join (v : Violation) : v.pathText = Pointer.join v.keywordPath := rfl

theorem pathText_eq_empty_iff (v : Violation) : v.pathText = "" ↔ v.keywordPath = [] := by
  rw [pathText_eq_join]
  cases v.keywordPath with
  | nil => simp [Pointer.join]
  | cons t ts => simp [Pointer.join_cons]

/-- The engine's noise, read on the keyword path's text. -/
theorem isNoise_eq (v : Violation) :
    isNoise v = !(v.pathText != "" && !v.message.startsWith "doesn't validate with") := by
  have hempty : v.keywordPath.isEmpty = (v.pathText == "") := by
    rw [Bool.eq_iff_iff, List.isEmpty_iff, beq_iff_eq, pathText_eq_empty_iff]
  simp [isNoise, hempty, bne]

/-- Locating a keyword by its path's text finds what the index holds for the path. -/
theorem locateKeyword_pathText (value : Json) (v : Violation) :
    locateKeyword value v.pathText =
      ((SourceIndex.ofSource (renderSchema value)).get? v.keywordPath).getD .unknown := by
  rw [locateKeyword, pathText_eq_join, Pointer.split_join]

theorem failureFinding_failures (settings : Settings) (schema : SchemaDefinition)
    (found : List Violation) :
    (failureFinding settings schema found).failures =
      reportedFailures settings schema.value found := by
  simp only [failureFinding, reportedFailures, isNoise_eq, Bool.not_not, locateKeyword_pathText]

end Failures

/-- A check answers its verdict. -/
theorem checkPayload_verdict (settings : Settings) (schema : SchemaDefinition)
    (payload : List UInt8) :
    Verdict settings schema payload (checkPayload settings schema payload) := by
  unfold checkPayload
  cases hschema : Prepared.ofSchema schema.value with
  | error problem => exact .unusable hschema rfl rfl rfl rfl
  | ok prepared =>
    cases hvalue : Json.readBytes payload with
    | error e => exact .undecodable hschema hvalue rfl rfl rfl
    | ok value =>
      simp only [checkUsable]
      cases hfound : prepared.check value with
      | nil => exact .conforms hschema hvalue hfound
      | cons v vs =>
        exact .breaks hschema hvalue (by simp [hfound]) rfl rfl rfl
          (by rw [hfound]; exact failureFinding_failures settings schema _) rfl

/-- Checking a decoded value answers as checking any payload that decodes to it. -/
theorem checkValue_eq_checkPayload (settings : Settings) (schema : SchemaDefinition)
    {payload : List UInt8} {value : Json} (hvalue : Json.readBytes payload = .ok value) :
    checkValue settings schema value = checkPayload settings schema payload := by
  unfold checkValue checkPayload
  cases Prepared.ofSchema schema.value <;> simp [hvalue]

section Gateway

variable (g : Gateway) (m : Method) (path : String) (payload : List UInt8)

/-- A gateway's body check of a matched operation with a body schema is that schema's check. -/
theorem checkBody_of_body {op : Operation} {schema : SchemaDefinition}
    (hop : (g.resolver.findPath m path).operation? = some op)
    (hbody : op.requestBody = some schema) :
    g.checkBody m path payload = checkPayload g.settings schema payload := by
  simp [Gateway.checkBody, hop, hbody]

/-- A body check passes exactly when it reports nothing: a request that matches no operation
reports at least the missing path. -/
theorem checkBody_valid_iff :
    (g.checkBody m path payload).1 = true ↔ (g.checkBody m path payload).2 = [] := by
  cases hop : (g.resolver.findPath m path).operation? with
  | none =>
    have hmiss : ¬(g.resolver.findPath m path).isMatch := by
      simpa [Route.Match.operation?, Route.Match.isMatch] using hop
    have hfindings : (g.resolver.findPath m path).findings ≠ [] := fun h =>
      hmiss ((Route.resolve_findings_eq_nil_iff _).mp h)
    simp [Gateway.checkBody, hop, hfindings]
  | some op =>
    cases hbody : op.requestBody with
    | none => simp [Gateway.checkBody, hop, hbody]
    | some schema =>
      rw [checkBody_of_body g m path payload hop hbody]
      exact (checkPayload_verdict _ schema payload).wellFormed.1

end Gateway

/-- Every check answers by stages, passing exactly when it reports nothing and reporting at most
one finding, a compile finding exactly when the schema is refused; checking a decoded value is
checking its payload; and a gateway's body check passes exactly when it reports nothing,
checking a matched operation's body as its schema's check. -/
theorem check_answers_by_stage :
    (∀ settings schema payload,
      Verdict settings schema payload (checkPayload settings schema payload) ∧
        ((checkPayload settings schema payload).1 = true ↔
          (checkPayload settings schema payload).2 = []) ∧
        (checkPayload settings schema payload).2.length ≤ 1 ∧
        ((∃ f ∈ (checkPayload settings schema payload).2, f.subKind = some "compile") ↔
          ∃ problem, Prepared.ofSchema schema.value = .error problem)) ∧
    (∀ settings schema payload value, Json.readBytes payload = .ok value →
      checkValue settings schema value = checkPayload settings schema payload) ∧
    (∀ (g : Gateway) m path payload,
      ((g.checkBody m path payload).1 = true ↔ (g.checkBody m path payload).2 = []) ∧
        ∀ op schema, (g.resolver.findPath m path).operation? = some op →
          op.requestBody = some schema →
          Verdict g.settings schema payload (g.checkBody m path payload)) := by
  refine ⟨fun settings schema payload => ?_, fun settings schema _ _ h =>
    checkValue_eq_checkPayload settings schema h, fun g m path payload => ?_⟩
  · have h := checkPayload_verdict settings schema payload
    exact ⟨h, h.wellFormed.1, h.wellFormed.2, h.compile_iff⟩
  · refine ⟨checkBody_valid_iff g m path payload, fun op schema hop hbody => ?_⟩
    rw [checkBody_of_body g m path payload hop hbody]
    exact checkPayload_verdict g.settings schema payload

theorem pets_body_checked_by_stage :
    let schema := SchemaDefinition.ofValue (.obj [])
    let op : Operation := { requestBody := some schema }
    let g := Gateway.new { paths := [("/pets", PathItem.withOperation {} .post op)] } {} {}
    let payload : List UInt8 := [116, 114, 117, 101]
    (Json.readBytes payload = .ok (.bool true) ∧
      checkValue {} schema (.bool true) = checkPayload {} schema payload) ∧
    (g.resolver.findPath ⟨"POST"⟩ "/pets").operation? = some op ∧ op.requestBody = some schema ∧
      Verdict g.settings schema payload (g.checkBody ⟨"POST"⟩ "/pets" payload) := by
  intro schema op g payload
  have hvalue : Json.readBytes payload = .ok (.bool true) := rfl
  have hfound : (g.resolver.findPath ⟨"POST"⟩ "/pets").found =
      some ("/pets", PathItem.withOperation {} .post op, op) := by
    rw [Route.Resolver.findPath, Route.resolve_found_eq_some_iff]
    exact ⟨[], [], rfl, rfl, .inl rfl, by simp⟩
  have hop : (g.resolver.findPath ⟨"POST"⟩ "/pets").operation? = some op := by
    simp [Route.Match.operation?, hfound]
  have hstage := check_answers_by_stage
  exact ⟨⟨hvalue, hstage.2.1 {} schema payload _ hvalue⟩, hop, rfl,
    (hstage.2.2 g _ _ payload).2 op schema hop rfl⟩

end Covenant.Schema
