import Covenant.Config.Loader

/-!
# The fields of the settings

The settings have nine fields in three sections. A field is named by its section and key in a
settings file, and by `SECTION__KEY` in upper case after the prefix of an environment override.

Decoding a settings file, as JSON or as TOML, yields a document each of whose members is a
field of its record holding a value of that field's type (`Conforms`). Reading settings from
such a document gives every field the document's value, or the default when the document is
silent (`value_ofFields`): nothing of the settings a file is loaded over survives it.
-/

namespace Covenant.Config

/-- A field of the settings. -/
inductive Field where
  | matchOrder
  | reportParameterTypes
  | locateFailures
  | attachRenderedSchema
  | enabled
  | level
  | format
  | includeTarget
  | fileLineInfo
  deriving DecidableEq

namespace Field

/-- The section a field belongs to, as settings files name it. -/
def sectionName : Field → String
  | .matchOrder | .reportParameterTypes => "resolver"
  | .locateFailures | .attachRenderedSchema => "schema"
  | .enabled | .level | .format | .includeTarget | .fileLineInfo => "logging"

/-- The key of a field within its section. -/
def key : Field → String
  | .matchOrder => "match_order"
  | .reportParameterTypes => "report_parameter_types"
  | .locateFailures => "locate_failures"
  | .attachRenderedSchema => "attach_rendered_schema"
  | .enabled => "enabled"
  | .level => "level"
  | .format => "format"
  | .includeTarget => "include_target"
  | .fileLineInfo => "file_line_info"

/-- Section and key as an override names them after its prefix. -/
def envKey : Field → String
  | .matchOrder => "RESOLVER__MATCH_ORDER"
  | .reportParameterTypes => "RESOLVER__REPORT_PARAMETER_TYPES"
  | .locateFailures => "SCHEMA__LOCATE_FAILURES"
  | .attachRenderedSchema => "SCHEMA__ATTACH_RENDERED_SCHEMA"
  | .enabled => "LOGGING__ENABLED"
  | .level => "LOGGING__LEVEL"
  | .format => "LOGGING__FORMAT"
  | .includeTarget => "LOGGING__INCLUDE_TARGET"
  | .fileLineInfo => "LOGGING__FILE_LINE_INFO"

/-- The name of the variable that overrides a field under a prefix: `PREFIX__SECTION__KEY`. -/
def envName (f : Field) (scope : String) : String := scope ++ "__" ++ f.envKey

/-- The type of a field's values. -/
def shape : Field → Shape
  | .matchOrder => .choice "MatchOrder" ["declared", "specificity"]
  | .level => .text
  | .format => .choice "LogFormat" ["json", "pretty"]
  | .reportParameterTypes | .locateFailures | .attachRenderedSchema | .enabled
  | .includeTarget | .fileLineInfo => .boolean

/-- The shape of the section a field belongs to. -/
def sectionShape : Field → Shape
  | .matchOrder | .reportParameterTypes => resolverShape
  | .locateFailures | .attachRenderedSchema => schemaShape
  | .enabled | .level | .format | .includeTarget | .fileLineInfo => logShape

/-- A field's value in some settings, written as a settings file writes it. -/
def value (s : Settings) : Field → Json
  | .matchOrder => .str s.resolver.matchOrder.name
  | .reportParameterTypes => .bool s.resolver.reportParameterTypes
  | .locateFailures => .bool s.schema.locateFailures
  | .attachRenderedSchema => .bool s.schema.attachRenderedSchema
  | .enabled => .bool s.logging.enabled
  | .level => .str s.logging.level
  | .format => .str s.logging.format.name
  | .includeTarget => .bool s.logging.includeTarget
  | .fileLineInfo => .bool s.logging.fileLineInfo

/-- The value a settings document gives a field, if it gives one. -/
def given (doc : Json) (f : Field) : Option Json := (doc.get? f.sectionName).bind (·.get? f.key)

/-- The value an override's text gives a field, if the text reads as one. -/
def parse (text : String) : Field → Option Json
  | .matchOrder => (Route.MatchOrder.parse? text).map fun m => .str m.name
  | .level => some (.str text)
  | .format => (LogFormat.parse? text).map fun f => .str f.name
  | .reportParameterTypes | .locateFailures | .attachRenderedSchema | .enabled
  | .includeTarget | .fileLineInfo => (parseFlag text).map .bool

/-- A field's value is what the settings' JSON form holds under its section and key. -/
theorem given_toJson (s : Settings) (f : Field) : given s.toJson f = some (f.value s) := by
  cases f <;> rfl

end Field

/-! ## Decoded documents -/

open Covenant.Json (Cursor)

mutual

/-- A value of a shape, as decoding builds it: a boolean, a string, one of the choice's names,
or an object each of whose members is a field of the record holding a value of that field's
shape. -/
inductive Conforms : Shape → Json → Prop
  | boolean (b : Bool) : Conforms .boolean (.bool b)
  | text (s : String) : Conforms .text (.str s)
  | choice {name : String} {variants : List String} {s : String} (h : s ∈ variants) :
      Conforms (.choice name variants) (.str s)
  | record {name : String} {fields : List (String × Shape)} {closed : Bool}
      {members : List (String × Json)} (h : MembersConform fields members) :
      Conforms (.record name fields closed) (.obj members)

/-- Members each of which is one of the fields, holding a value of that field's shape. -/
inductive MembersConform : List (String × Shape) → List (String × Json) → Prop
  | nil {fields : List (String × Shape)} : MembersConform fields []
  | cons {fields : List (String × Shape)} {key : String} {shape : Shape} {v : Json}
      {members : List (String × Json)} (hfield : (key, shape) ∈ fields) (hv : Conforms shape v)
      (rest : MembersConform fields members) : MembersConform fields ((key, v) :: members)

end

theorem membersConform_iff {fields : List (String × Shape)} {members : List (String × Json)} :
    MembersConform fields members ↔
      ∀ kv ∈ members, ∃ shape, (kv.1, shape) ∈ fields ∧ Conforms shape kv.2 := by
  induction members with
  | nil => exact ⟨fun _ => by simp, fun _ => .nil⟩
  | cons kv members ih =>
    constructor
    · rintro (_ | ⟨hfield, hv, rest⟩)
      simp only [List.mem_cons, forall_eq_or_imp]
      exact ⟨⟨_, hfield, hv⟩, ih.mp rest⟩
    · intro h
      obtain ⟨shape, hfield, hv⟩ := h kv List.mem_cons_self
      exact .cons hfield hv (ih.mpr fun kv' hkv' => h kv' (List.mem_cons_of_mem _ hkv'))

theorem MembersConform.reverse {fields : List (String × Shape)} {members : List (String × Json)}
    (h : MembersConform fields members) : MembersConform fields members.reverse :=
  membersConform_iff.mpr fun kv hkv => membersConform_iff.mp h kv (List.mem_reverse.mp hkv)

/-- The member a lookup finds is one of the members. -/
theorem MembersConform.get? {fields : List (String × Shape)} {members : List (String × Json)}
    (h : MembersConform fields members) {key : String} {v : Json}
    (hget : (Json.obj members).get? key = some v) :
    ∃ shape, (key, shape) ∈ fields ∧ Conforms shape v := by
  obtain ⟨kv, hfind, rfl⟩ := Option.map_eq_some_iff.mp hget
  have hkey : kv.1 = key := by simpa using List.find?_some hfind
  rw [← hkey]
  exact membersConform_iff.mp h kv (List.mem_of_find?_eq_some hfind)

theorem map_eq_ok {ε α β : Type} {f : α → β} {x : Except ε α} {b : β} :
    x.map f = .ok b ↔ ∃ a, x = .ok a ∧ f a = b := by
  cases x <;> simp [Except.map]

theorem mem_of_lookup_eq_some {fields : List (String × Shape)} {key : String} {shape : Shape}
    (h : fields.lookup key = some shape) : (key, shape) ∈ fields := by
  obtain ⟨before, after, rfl, -⟩ := List.lookup_eq_some_iff.mp h
  simp

theorem decodeVariantObject_conforms {name : String} {variants : List String} {c : Cursor}
    {r : Json × Cursor} (h : decodeVariantObject variants c = .ok r) :
    Conforms (.choice name variants) r.1 := by
  unfold decodeVariantObject at h
  dsimp only at h
  repeat' split at h
  all_goals cases h
  exact .choice (by simpa using ‹¬(!variants.contains _) = true›)

/-- What the JSON decoders return has the shape they decode. Members are gathered in reverse,
so the invariant of the record readers is that the members gathered so far conform; a record
read as an array takes its fields from a suffix of the record's. -/
theorem decodeJson_conforms (fuel : Nat) :
    (∀ shape c r, decodeJson fuel shape c = .ok r → Conforms shape r.1) ∧
    (∀ name fields closed first c acc r, MembersConform fields acc →
      decodeMembers fuel fields closed first c acc = .ok r →
        Conforms (.record name fields closed) r.1) ∧
    (∀ name all closed fields first c acc r, fields ⊆ all → MembersConform all acc →
      decodeElements fuel fields first c acc = .ok r → Conforms (.record name all closed) r.1) := by
  induction fuel with
  | zero =>
    -- out of fuel, each decoder stops with an error
    refine ⟨?_, ?_, ?_⟩
    · intro shape c r h
      cases h
    · intro name fields closed first c acc r _ h
      cases h
    · intro name all closed fields first c acc r _ _ h
      cases h
  | succ fuel ih =>
    obtain ⟨ihValue, ihMembers, ihElements⟩ := ih
    refine ⟨?_, ?_, ?_⟩
    · intro shape c r h
      simp only [decodeJson] at h
      split at h
      · cases h
      · obtain ⟨_, -, rfl⟩ := map_eq_ok.mp h
        exact .boolean true
      · obtain ⟨_, -, rfl⟩ := map_eq_ok.mp h
        exact .boolean false
      · obtain ⟨_, -, rfl⟩ := map_eq_ok.mp h
        exact .text _
      · split at h
        · cases h
        · split at h
          · next hs =>
            cases h
            exact .choice (by simpa using hs)
          · cases h
      · exact decodeVariantObject_conforms h
      · cases h
      · exact ihMembers _ _ _ _ _ _ _ .nil h
      · exact ihElements _ _ _ _ _ _ _ _ (List.Subset.refl _) .nil h
      · cases h
    · intro name fields closed first c acc r hacc h
      simp only [decodeMembers] at h
      repeat' split at h
      all_goals first | cases h | skip
      -- what does not fail: the closing brace, an unknown member passed over, a field read
      · exact .record hacc.reverse
      · exact ihMembers _ _ _ _ _ _ _ hacc h
      · have hv := ihValue _ _ _ ‹decodeJson fuel _ _ = _›
        exact ihMembers _ _ _ _ _ _ _
          (.cons (mem_of_lookup_eq_some ‹fields.lookup _ = _›) hv hacc) h
    · intro name all closed fields first c acc r hsub hacc h
      simp only [decodeElements] at h
      repeat' split at h
      all_goals first | cases h | skip
      -- what does not fail: the closing bracket, early or after the last field, and a field read
      · exact .record hacc.reverse
      · exact .record hacc.reverse
      · have hv := ihValue _ _ _ ‹decodeJson fuel _ _ = _›
        exact ihElements _ _ _ _ _ _ _ _ (List.subset_of_cons_subset hsub)
          (.cons (hsub List.mem_cons_self) hv hacc) h

/-- What the TOML decoders return has the shape they decode, with the same invariants as for
JSON. -/
theorem decodeToml_conforms (fuel : Nat) :
    (∀ shape node v, decodeToml fuel shape node = .ok v → Conforms shape v) ∧
    (∀ name fields closed entries acc v, MembersConform fields acc →
      decodeEntries fuel fields closed entries acc = .ok v →
        Conforms (.record name fields closed) v) ∧
    (∀ name all closed fields items acc v, fields ⊆ all → MembersConform all acc →
      decodeItems fuel fields items acc = .ok v → Conforms (.record name all closed) v) := by
  induction fuel with
  | zero =>
    refine ⟨?_, ?_, ?_⟩
    · intro shape node v h
      cases h
    · intro name fields closed entries acc v hacc h
      cases h
      exact .record hacc.reverse
    · intro name all closed fields items acc v _ hacc h
      cases h
      exact .record hacc.reverse
  | succ fuel ih =>
    obtain ⟨ihValue, ihEntries, ihItems⟩ := ih
    refine ⟨?_, ?_, ?_⟩
    · intro shape node v h
      simp only [decodeToml] at h
      repeat' split at h
      all_goals first | cases h | skip
      -- what does not fail: a value of the shape's own type, a variant named by a table, a
      -- record from a table or an array
      · exact .boolean _
      · exact .text _
      · rename_i hs
        exact .choice (by simpa using hs)
      -- a variant from a one-entry table, then from an inline one
      · rename_i hkey
        obtain ⟨_, -, rfl⟩ := map_eq_ok.mp h
        exact .choice (by simpa using hkey)
      · rename_i hkey
        obtain ⟨_, -, rfl⟩ := map_eq_ok.mp h
        exact .choice (by simpa using hkey)
      -- a record from a table, an inline table or an array
      · exact ihEntries _ _ _ _ _ _ .nil h
      · exact ihEntries _ _ _ _ _ _ .nil h
      · exact ihItems _ _ _ _ _ _ _ (List.Subset.refl _) .nil h
    · intro name fields closed entries acc v hacc h
      cases entries with
      | nil =>
        cases h
        exact .record hacc.reverse
      | cons entry rest =>
        obtain ⟨key, span, node⟩ := entry
        simp only [decodeEntries] at h
        repeat' split at h
        all_goals first | cases h | skip
        -- an unknown entry of an open record is passed over, a field is read
        · exact ihEntries _ _ _ _ _ _ hacc h
        · have hv := ihValue _ _ _ ‹decodeToml fuel _ _ = _›
          exact ihEntries _ _ _ _ _ _
            (.cons (mem_of_lookup_eq_some ‹fields.lookup _ = _›) hv hacc) h
    · intro name all closed fields items acc v hsub hacc h
      cases fields with
      | nil =>
        cases items with
        | nil =>
          cases h
          exact .record hacc.reverse
        | cons item items => cases h
      | cons field rest =>
        cases items with
        | nil =>
          cases h
          exact .record hacc.reverse
        | cons item items =>
          obtain ⟨key, shape⟩ := field
          simp only [decodeItems] at h
          split at h
          · cases h
          · next v' hv =>
            exact ihItems _ _ _ _ _ _ _ (List.subset_of_cons_subset hsub)
              (.cons (hsub List.mem_cons_self) (ihValue _ _ _ hv) hacc) h

theorem decodeJsonText_conforms {text : String} {doc : Json} (h : decodeJsonText text = .ok doc) :
    Conforms settingsShape doc := by
  unfold decodeJsonText decodeShapeText at h
  dsimp only at h
  split at h
  · cases h
  · next r hr =>
    split at h
    · cases h
      exact (decodeJson_conforms 64).1 _ _ _ hr
    · cases h

theorem decodeTomlText_conforms {text : String} {doc : Json} (h : decodeTomlText text = .ok doc) :
    Conforms settingsShape doc := by
  unfold decodeTomlText at h
  split at h
  · cases h
  · split at h
    · cases h
    · next hv =>
      cases h
      exact (decodeToml_conforms 64).1 _ _ _ hv

/-! ## Settings read from a document -/

namespace Field

/-- Each field's section is the one the settings record declares under its name. -/
theorem section_of_mem {f : Field} {shape : Shape}
    (h : (f.sectionName, shape) ∈ [("resolver", resolverShape), ("schema", schemaShape),
      ("logging", logShape)]) : shape = f.sectionShape := by
  cases f <;> simpa [sectionName, sectionShape] using h

/-- Each field is the one its section declares under its key. -/
theorem field_of_mem {f : Field} {name : String} {fields : List (String × Shape)} {closed : Bool}
    {shape : Shape} (hsec : f.sectionShape = .record name fields closed)
    (h : (f.key, shape) ∈ fields) : shape = f.shape := by
  cases f <;> simp only [sectionShape, resolverShape, schemaShape, logShape,
    Shape.record.injEq] at hsec <;> obtain ⟨-, rfl, -⟩ := hsec <;> simpa [key, Field.shape] using h

/-- A value a decoded document gives a field is of the field's type. -/
theorem given_conforms {doc : Json} (hdoc : Conforms settingsShape doc) {f : Field} {v : Json}
    (h : given doc f = some v) : Conforms f.shape v := by
  obtain ⟨part, hpart, hv⟩ := Option.bind_eq_some_iff.mp h
  cases hdoc with
  | record hmembers =>
    obtain ⟨shape, hmem, hconf⟩ := hmembers.get? hpart
    rw [section_of_mem hmem] at hconf
    -- every section is a record, whose members are the fields
    have hsec : ∃ name fields closed, f.sectionShape = .record name fields closed := by
      cases f <;> exact ⟨_, _, _, rfl⟩
    obtain ⟨name, fields, closed, hsec⟩ := hsec
    rw [hsec] at hconf
    cases hconf with
    | record hfields =>
      obtain ⟨shape', hmem', hconf'⟩ := hfields.get? hv
      rwa [← field_of_mem hsec hmem']

/-- Looking a key up in a section that may be absent is looking it up in what is present. -/
theorem get?_getD_obj (part : Option Json) (key : String) :
    (part.getD (.obj [])).get? key = part.bind (·.get? key) := by
  cases part <;> rfl

/-- The names a choice field admits read back as themselves. -/
theorem parse_names :
    (∀ s ∈ ["declared", "specificity"], (Route.MatchOrder.parse? s).map Route.MatchOrder.name = some s) ∧
    ∀ s ∈ ["json", "pretty"], (LogFormat.parse? s).map LogFormat.name = some s := by
  -- the parsers compare the text in lower case, and each name is in lower case already
  have hlower : ∀ s : String, s.toList.map Char.toLower = s.toList → s.toLower = s := fun s h => by
    show s.map Char.toLower = s
    rw [← String.toList_inj, String.toList_map, h]
  refine ⟨?_, ?_⟩ <;> intro s hs <;> simp only [List.mem_cons, List.not_mem_nil, or_false] at hs <;>
    rcases hs with rfl | rfl
  · simp [Route.MatchOrder.parse?, hlower "declared" (by simp), Route.MatchOrder.name]
  · simp [Route.MatchOrder.parse?, hlower "specificity" (by simp), Route.MatchOrder.name]
  · simp [LogFormat.parse?, hlower "json" (by simp), LogFormat.name]
  · simp [LogFormat.parse?, hlower "pretty" (by simp), LogFormat.name]

/-- Settings read from a decoded document give each field the document's value, or the
default when the document gives it none. -/
theorem value_ofFields {doc : Json} (hdoc : Conforms settingsShape doc) (f : Field) :
    f.value (Settings.ofFields doc) = (given doc f).getD (f.value {}) := by
  cases hg : given doc f with
  | none =>
    cases f <;> simp only [given, sectionName, key] at hg <;>
      simp only [value, Settings.ofFields, boolField, get?_getD_obj, hg, Option.bind_none,
        Option.getD_none]
  | some v =>
    have hv := given_conforms hdoc hg
    cases f <;> simp only [given, sectionName, key] at hg <;> simp only [Field.shape] at hv <;>
      cases hv
    -- a choice holds one of its names, which the settings read back
    case matchOrder.choice name hname =>
      obtain ⟨m, hm, rfl⟩ := Option.map_eq_some_iff.mp (parse_names.1 name hname)
      simp only [value, Settings.ofFields, get?_getD_obj, hg, Option.bind_some, Json.getStr?, hm,
        Option.getD_some]
    case format.choice name hname =>
      obtain ⟨m, hm, rfl⟩ := Option.map_eq_some_iff.mp (parse_names.2 name hname)
      simp only [value, Settings.ofFields, get?_getD_obj, hg, Option.bind_some, Json.getStr?, hm,
        Option.getD_some]
    all_goals simp only [value, Settings.ofFields, boolField, get?_getD_obj, hg, Option.bind_some,
      Json.getBool?, Json.getStr?, Option.getD_some]

end Field

end Covenant.Config
