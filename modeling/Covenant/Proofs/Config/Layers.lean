import Covenant.Proofs.Config.Fields
import Covenant.Proofs.Text.Separator

/-!
# Loading settings in layers

Settings are loaded from a base (the defaults or the development preset), then any number of
files and texts, then the overrides of an environment. A file or text replaces the whole
settings by what its document reads as, its silent fields taking their defaults; an override
changes the one field its name designates (`applyOverride_field`), so with distinct names every
field is set by its own variable when there is one (`applyOverrides_field`).

Main statement: `load_field_from_last_layer`. Each field of loaded settings is the value of
its variable when the environment has one; otherwise the value the last document gives it, or
its default when that document is silent; otherwise the base's value. Nothing of the base or
of an earlier document survives a later document.
-/

namespace Covenant.Config

open Covenant.Text (splitOn_append_sep eq_append_of_splitOn_eq_pair)

/-! ## Override names -/

namespace Field

/-- The section of a field as an override names it. -/
def envSection : Field → String
  | .matchOrder | .reportParameterTypes => "RESOLVER"
  | .locateFailures | .attachRenderedSchema => "SCHEMA"
  | .enabled | .level | .format | .includeTarget | .fileLineInfo => "LOGGING"

/-- The key of a field as an override names it. -/
def envField : Field → String
  | .matchOrder => "MATCH_ORDER"
  | .reportParameterTypes => "REPORT_PARAMETER_TYPES"
  | .locateFailures => "LOCATE_FAILURES"
  | .attachRenderedSchema => "ATTACH_RENDERED_SCHEMA"
  | .enabled => "ENABLED"
  | .level => "LEVEL"
  | .format => "FORMAT"
  | .includeTarget => "INCLUDE_TARGET"
  | .fileLineInfo => "FILE_LINE_INFO"

theorem envKey_eq (f : Field) : f.envKey = f.envSection ++ "__" ++ f.envField := by
  cases f <;> rfl

/-- An override's name past the prefix splits into the field's section and key. -/
theorem splitOn_envKey (f : Field) : f.envKey.splitOn "__" = [f.envSection, f.envField] := by
  -- no section has an underscore, and no key two in a row
  have hsection : '_' ∉ f.envSection.toList := by cases f <;> simp [envSection]
  have hkey : ¬ ['_', '_'] <:+: f.envField.toList := by cases f <;> decide
  rw [envKey_eq]
  exact splitOn_append_sep rfl hsection hkey

theorem envKey_injective : Function.Injective envKey := by
  intro f g h
  cases f <;> cases g <;> simp_all [envKey]

theorem envName_inj {f g : Field} {scope : String} : f.envName scope = g.envName scope ↔ f = g :=
  ⟨fun h => envKey_injective ((String.append_right_inj _).mp h), fun h => h ▸ rfl⟩

end Field

theorem eq_append_drop_of_startsWith {name marker : String} (h : name.startsWith marker = true) :
    name = marker ++ (name.drop marker.length).toString := by
  obtain ⟨rest, hrest⟩ := String.startsWith_string_iff.mp h
  apply String.toList_inj.mp
  simp [String.Slice.toString, String.toList_copy_drop, ← hrest, ← String.length_toList]

theorem drop_append_toString (marker rest : String) :
    ((marker ++ rest).drop marker.length).toString = rest := by
  apply String.toList_inj.mp
  simp [String.Slice.toString, String.toList_copy_drop, ← String.length_toList]

/-! ## One override -/

section Override

variable {s s' : Settings} {scope name text : String}

/-- A name past the prefix that splits as a field's section and key is that field's name. -/
theorem eq_envName_of_splitOn {f : Field} (hstart : ¬(!name.startsWith (scope ++ "__")) = true)
    (hsplit : (name.drop (scope ++ "__").length).toString.splitOn "__" =
      [f.envSection, f.envField]) : name = f.envName scope := by
  have hname := eq_append_drop_of_startsWith
    (by simpa only [Bool.not_eq_true', Bool.not_eq_false] using hstart)
  rw [hname, eq_append_of_splitOn_eq_pair (by decide) hsplit, Field.envName, Field.envKey_eq]

/-- Reading a flag or failing, then updating with it, succeeds only with the flag read. -/
theorem flag_map_eq_ok {e : ConfigError} {update : Bool → Settings}
    (h : Except.map update (match parseFlag text with
      | some b => .ok b
      | none => .error e) = .ok s') : ∃ b, parseFlag text = some b ∧ update b = s' := by
  cases hflag : parseFlag text with
  | none => simp [hflag, Except.map] at h
  | some b => simp_all [Except.map]

/-- What one override that applies does: it sets the field its name designates to the value
its text reads as and leaves every other field, or, when its name designates no field,
changes nothing. -/
theorem applyOverride_eq_ok (h : applyOverride s scope name text = .ok s') :
    (∃ g : Field, name = g.envName scope ∧ g.parse text = some (g.value s') ∧
      ∀ f ≠ g, f.value s' = f.value s) ∨ ((∀ f : Field, name ≠ f.envName scope) ∧ s' = s) := by
  unfold applyOverride at h
  dsimp only at h
  split at h
  · cases h
  next hstart =>
  -- one case per field, in the order the definition lists them, then a name of no field;
  -- in each, only the field named is updated
  split at h
  · split at h
    · next m hm =>
      cases h
      exact .inl ⟨.matchOrder, eq_envName_of_splitOn hstart ‹_›,
        by simp [Field.parse, hm, Field.value], fun f hf => by cases f <;> simp_all [Field.value]⟩
    · cases h
  · obtain ⟨b, hb, rfl⟩ := flag_map_eq_ok h
    exact .inl ⟨.reportParameterTypes, eq_envName_of_splitOn hstart ‹_›,
      by simp [Field.parse, hb, Field.value], fun f hf => by cases f <;> simp_all [Field.value]⟩
  · obtain ⟨b, hb, rfl⟩ := flag_map_eq_ok h
    exact .inl ⟨.locateFailures, eq_envName_of_splitOn hstart ‹_›,
      by simp [Field.parse, hb, Field.value], fun f hf => by cases f <;> simp_all [Field.value]⟩
  · obtain ⟨b, hb, rfl⟩ := flag_map_eq_ok h
    exact .inl ⟨.attachRenderedSchema, eq_envName_of_splitOn hstart ‹_›,
      by simp [Field.parse, hb, Field.value], fun f hf => by cases f <;> simp_all [Field.value]⟩
  · obtain ⟨b, hb, rfl⟩ := flag_map_eq_ok h
    exact .inl ⟨.enabled, eq_envName_of_splitOn hstart ‹_›,
      by simp [Field.parse, hb, Field.value], fun f hf => by cases f <;> simp_all [Field.value]⟩
  · cases h
    exact .inl ⟨.level, eq_envName_of_splitOn hstart ‹_›,
      by simp [Field.parse, Field.value], fun f hf => by cases f <;> simp_all [Field.value]⟩
  · split at h
    · next fmt hfmt =>
      cases h
      exact .inl ⟨.format, eq_envName_of_splitOn hstart ‹_›,
        by simp [Field.parse, hfmt, Field.value], fun f hf => by cases f <;> simp_all [Field.value]⟩
    · cases h
  · obtain ⟨b, hb, rfl⟩ := flag_map_eq_ok h
    exact .inl ⟨.includeTarget, eq_envName_of_splitOn hstart ‹_›,
      by simp [Field.parse, hb, Field.value], fun f hf => by cases f <;> simp_all [Field.value]⟩
  · obtain ⟨b, hb, rfl⟩ := flag_map_eq_ok h
    exact .inl ⟨.fileLineInfo, eq_envName_of_splitOn hstart ‹_›,
      by simp [Field.parse, hb, Field.value], fun f hf => by cases f <;> simp_all [Field.value]⟩
  · cases h
    refine .inr ⟨fun f hname => ?_, rfl⟩
    -- a field's own name splits as its section and key, which is one of the cases above: the
    -- hypothesis that excludes that case reads `x = x → False`
    subst hname
    simp only [Field.envName, drop_append_toString, Field.splitOn_envKey] at *
    cases f <;> contradiction

/-- What one override does to one field: the field its name designates takes the value its
text reads as, every other field keeps its value. -/
theorem applyOverride_field (h : applyOverride s scope name text = .ok s') (f : Field) :
    if name = f.envName scope then f.parse text = some (f.value s')
    else f.value s' = f.value s := by
  rcases applyOverride_eq_ok h with ⟨g, hname, hparse, hkeep⟩ | ⟨hnone, rfl⟩
  · by_cases hfg : f = g
    · subst hfg
      simp [hname, hparse]
    · rw [if_neg (by rw [hname, Field.envName_inj]; exact Ne.symm hfg)]
      exact hkeep f hfg
  · rw [if_neg (hnone f)]

end Override

/-! ## Overrides in turn -/

section Overrides

variable {scope : String} {s s' : Settings}

/-- Overrides applied in turn, their names distinct: a field one of them names takes the value
its text reads as, a field none names keeps its value. The induction is on the overrides, from
whatever settings the earlier ones left. -/
theorem foldOverrides_field {vars : List (String × String)} (hnames : (vars.map Prod.fst).Nodup)
    (h : vars.foldlM (fun s (name, value) => applyOverride s scope name value) s = .ok s')
    (f : Field) :
    (∀ text, (f.envName scope, text) ∈ vars → f.parse text = some (f.value s')) ∧
      ((∀ v ∈ vars, v.1 ≠ f.envName scope) → f.value s' = f.value s) := by
  induction vars generalizing s with
  | nil =>
    cases h
    simp
  | cons entry rest ih =>
    obtain ⟨name, text⟩ := entry
    rw [List.foldlM_cons] at h
    dsimp only at h
    cases hfirst : applyOverride s scope name text with
    | error e =>
      rw [hfirst] at h
      cases h
    | ok s₁ =>
      rw [hfirst] at h
      obtain ⟨hfresh, hnodup⟩ := List.nodup_cons.mp hnames
      have hstep := applyOverride_field hfirst f
      obtain ⟨ihSet, ihKeep⟩ := ih hnodup h
      constructor
      · intro t ht
        rcases List.mem_cons.mp ht with heq | hmem
        · -- this override names the field, and no later one does
          obtain ⟨hname, rfl⟩ := Prod.mk.inj heq
          rw [if_pos hname.symm] at hstep
          have hlater : ∀ v ∈ rest, v.1 ≠ f.envName scope := fun v hv hv1 =>
            hfresh (List.mem_map.mpr ⟨v, hv, hv1.trans hname⟩)
          rw [ihKeep hlater]
          exact hstep
        · exact ihSet t hmem
      · intro hnone
        rw [if_neg (hnone _ List.mem_cons_self)] at hstep
        rw [ihKeep fun v hv => hnone v (List.mem_cons_of_mem _ hv), hstep]

theorem envName_startsWith (f : Field) (scope : String) :
    (f.envName scope).startsWith (scope ++ "__") = true := by
  simp [Field.envName, String.startsWith_string_iff, String.toList_append]

/-- The overrides of an environment whose names are distinct set each field from its own
variable when there is one, and leave it otherwise: sorting them and passing over names
without the prefix changes neither which variable names a field nor its text. -/
theorem applyOverrides_field {env : Environment} (hnames : (env.vars.map Prod.fst).Nodup)
    (h : applyOverrides s env scope = .ok s') (f : Field) :
    match env.get? (f.envName scope) with
    | some text => f.parse text = some (f.value s')
    | none => f.value s' = f.value s := by
  unfold applyOverrides at h
  dsimp only at h
  generalize hchosen : List.mergeSort _ _ = chosen at h
  have hperm : chosen.Perm (env.vars.filter (·.1.startsWith (scope ++ "__"))) :=
    hchosen ▸ List.mergeSort_perm _ _
  have hnodup : (chosen.map Prod.fst).Nodup :=
    (hperm.map Prod.fst).nodup_iff.mpr (hnames.sublist ((List.filter_sublist).map _))
  have hmem : ∀ text, (f.envName scope, text) ∈ chosen ↔ (f.envName scope, text) ∈ env.vars :=
    fun text => by simp [hperm.mem_iff, envName_startsWith]
  obtain ⟨hset, hkeep⟩ := foldOverrides_field hnodup h f
  cases hget : env.get? (f.envName scope) with
  | some text =>
    obtain ⟨before, after, hvars, -⟩ := List.lookup_eq_some_iff.mp hget
    exact hset text ((hmem text).mpr (by simp [hvars]))
  | none =>
    refine hkeep fun v hv hv1 => ?_
    have hin : (f.envName scope, v.2) ∈ env.vars := (hmem v.2).mp (hv1 ▸ hv)
    simpa using List.lookup_eq_none_iff.mp hget _ hin

end Overrides

/-! ## Layers -/

/-- A layer loaded over the settings before it: a settings file, a settings file loaded only
when it exists, or settings text in a named format. -/
inductive Layer where
  | file (files : Files) (path : String)
  | optionalFile (files : Files) (path : String)
  | text (content format : String)

namespace Layer

/-- Loads a layer over a loader. -/
def apply (l : Loader) : Layer → Except ConfigError Loader
  | .file files path => l.withFile files path
  | .optionalFile files path => l.withOptionalFile files path
  | .text content format => l.withText content format

/-- The settings document a file's text decodes to, read as TOML or JSON by its extension. -/
def fileDocument (text path : String) : Option Json :=
  match (Files.extension path).map String.toLower with
  | some "toml" => (decodeTomlText text).toOption
  | some "json" => (decodeJsonText text).toOption
  | _ => none

/-- The settings document a layer loads, `none` when it loads none. -/
def document : Layer → Option Json
  | .file files path | .optionalFile files path =>
    (files.readText path).toOption.bind (fileDocument · path)
  | .text content format =>
    match format.toLower with
    | "toml" => (decodeTomlText content).toOption
    | "json" => (decodeJsonText content).toOption
    | _ => none

theorem eq_ok_of_toOption {ε α : Type} {x : Except ε α} {a : α} (h : x.toOption = some a) :
    x = .ok a := by
  cases x <;> simp_all [Except.toOption]

theorem settingsOfToml_eq_ok {text : String} {s : Settings} (h : settingsOfToml text = .ok s) :
    ∃ doc, (decodeTomlText text).toOption = some doc ∧ Settings.ofFields doc = s := by
  unfold settingsOfToml at h
  split at h
  · next doc hdoc =>
    cases h
    exact ⟨doc, by simp [hdoc, Except.toOption], rfl⟩
  · cases h

theorem settingsOfJson_eq_ok {text : String} {s : Settings} (h : settingsOfJson text = .ok s) :
    ∃ doc, (decodeJsonText text).toOption = some doc ∧ Settings.ofFields doc = s := by
  unfold settingsOfJson at h
  split at h
  · next doc hdoc =>
    cases h
    exact ⟨doc, by simp [hdoc, Except.toOption], rfl⟩
  · cases h

theorem settingsOfFile_eq_ok {text path : String} {s : Settings}
    (h : settingsOfFile text path = .ok s) :
    ∃ doc, fileDocument text path = some doc ∧ Settings.ofFields doc = s := by
  -- the loader and `fileDocument` pick the decoder by the same match on the lowered extension
  unfold settingsOfFile at h
  split at h
  · next hext =>
    obtain ⟨doc, hdoc, hs⟩ := settingsOfToml_eq_ok h
    refine ⟨doc, ?_, hs⟩
    unfold fileDocument
    rw [hext]
    simp [hdoc]
  · next hext =>
    obtain ⟨doc, hdoc, hs⟩ := settingsOfJson_eq_ok h
    refine ⟨doc, ?_, hs⟩
    unfold fileDocument
    rw [hext]
    simp [hdoc]
  · cases h

/-- A file loaded over a loader replaces its settings by those its document reads as. -/
theorem withFile_eq_ok {l l' : Loader} {files : Files} {path : String}
    (h : l.withFile files path = .ok l') :
    ∃ doc, (Layer.file files path).document = some doc ∧ l'.settings = Settings.ofFields doc := by
  unfold Loader.withFile at h
  split at h
  · cases h
  · split at h
    · cases h
    · next text htext =>
      obtain ⟨s, hs, rfl⟩ := map_eq_ok.mp h
      obtain ⟨doc, hdoc, rfl⟩ := settingsOfFile_eq_ok hs
      exact ⟨doc, by simp [document, htext, Except.toOption, hdoc], rfl⟩

/-- A layer that loads replaces the settings by those its document reads as, or changes
nothing when it loads no document. -/
theorem apply_settings {l l' : Loader} {layer : Layer} (h : layer.apply l = .ok l') :
    l'.settings = (layer.document.map Settings.ofFields).getD l.settings := by
  cases layer with
  | file files path =>
    obtain ⟨doc, hdoc, hs⟩ := withFile_eq_ok h
    rw [hdoc, hs]
    rfl
  | optionalFile files path =>
    dsimp only [apply, Loader.withOptionalFile] at h
    split at h
    · obtain ⟨doc, hdoc, hs⟩ := withFile_eq_ok h
      rw [show (optionalFile files path).document = (file files path).document from rfl, hdoc, hs]
      rfl
    · next hhas =>
      cases h
      -- a path that does not exist has no text
      have hread : files.readText path = .error .notFound := by
        simp [Files.has] at hhas
        simp [Files.readText, Files.readBytes, hhas]
      simp [document, hread, Except.toOption]
  | text content format =>
    dsimp only [apply, Loader.withText] at h
    split at h
    · next hfmt =>
      obtain ⟨s, hs, rfl⟩ := map_eq_ok.mp h
      obtain ⟨doc, hdoc, rfl⟩ := settingsOfToml_eq_ok hs
      simp [document, hfmt, hdoc]
    · next hfmt =>
      obtain ⟨s, hs, rfl⟩ := map_eq_ok.mp h
      obtain ⟨doc, hdoc, rfl⟩ := settingsOfJson_eq_ok hs
      simp [document, hfmt, hdoc]
    · cases h

/-- A document a layer loads is a decoded settings document. -/
theorem document_conforms {layer : Layer} {doc : Json} (h : layer.document = some doc) :
    Conforms settingsShape doc := by
  -- the decoders a file's extension or a text's format selects
  have hfile : ∀ text path, fileDocument text path = some doc → Conforms settingsShape doc := by
    intro text path hdoc
    unfold fileDocument at hdoc
    split at hdoc
    · exact decodeTomlText_conforms (eq_ok_of_toOption hdoc)
    · exact decodeJsonText_conforms (eq_ok_of_toOption hdoc)
    · cases hdoc
  cases layer with
  | file files path | optionalFile files path =>
    obtain ⟨text, -, hdoc⟩ := Option.bind_eq_some_iff.mp h
    exact hfile text path hdoc
  | text content format =>
    dsimp only [document] at h
    split at h
    · exact decodeTomlText_conforms (eq_ok_of_toOption h)
    · exact decodeJsonText_conforms (eq_ok_of_toOption h)
    · cases h

end Layer

/-- Loads layers in order. -/
def Loader.withLayers (l : Loader) (layers : List Layer) : Except ConfigError Loader :=
  layers.foldlM Layer.apply l

/-- The document the last layer that loads one loads. -/
def lastDocument : List Layer → Option Json
  | [] => none
  | layer :: rest => (lastDocument rest).or layer.document

theorem lastDocument_conforms {layers : List Layer} {doc : Json}
    (h : lastDocument layers = some doc) : Conforms settingsShape doc := by
  induction layers with
  | nil => cases h
  | cons layer rest ih =>
    rcases Option.or_eq_some_iff.mp h with hrest | ⟨-, hlayer⟩
    · exact ih hrest
    · exact Layer.document_conforms hlayer

/-- After a run of layers, the settings are those the last document read reads as, or the
first loader's when no layer loaded a document. -/
theorem withLayers_settings {l l' : Loader} {layers : List Layer}
    (h : l.withLayers layers = .ok l') :
    l'.settings = ((lastDocument layers).map Settings.ofFields).getD l.settings := by
  induction layers generalizing l with
  | nil =>
    cases h
    rfl
  | cons layer rest ih =>
    unfold Loader.withLayers at h
    rw [List.foldlM_cons] at h
    cases hfirst : layer.apply l with
    | error e =>
      rw [hfirst] at h
      cases h
    | ok l₁ =>
      rw [hfirst] at h
      rw [ih h, Layer.apply_settings hfirst, lastDocument]
      cases lastDocument rest <;> rfl

/-! ## Loading -/

/-- Loading under a prefix that succeeds is applying the environment's overrides under the
prefix in upper case; the check after them changes nothing. -/
theorem load_withEnvScope {l : Loader} {scope : String} {env : Environment} {s : Settings}
    (h : (l.withEnvScope scope).load env = .ok s) :
    applyOverrides l.settings env (Text.upperText scope) = .ok s := by
  simp only [Loader.load, Loader.withEnvScope] at h
  cases hover : applyOverrides l.settings env (Text.upperText scope) with
  | error e =>
    rw [hover] at h
    cases h
  | ok s₁ =>
    rw [hover] at h
    simp only [bind, Except.bind, pure, Except.pure] at h
    split at h
    · cases h
    · cases h
      rfl

/-- Each field of settings loaded from a base, a run of layers and the overrides of an
environment whose names are distinct is set by the last layer that sets it, with one
exception. A variable `PREFIX__SECTION__KEY` of the environment sets its field to the value
its text reads as. A field without one has the base's value when no layer loaded a
document; otherwise it has the value the last document gives it, or its default when that
document is silent: a document replaces the settings as a whole, so neither the base nor an
earlier document survives it. -/
theorem load_field_from_last_layer {base l : Loader} {layers : List Layer} {scope : String}
    {env : Environment} {s : Settings} (hnames : (env.vars.map Prod.fst).Nodup)
    (hl : base.withLayers layers = .ok l) (hs : (l.withEnvScope scope).load env = .ok s)
    (f : Field) :
    match env.get? (f.envName (Text.upperText scope)) with
    | some text => f.parse text = some (f.value s)
    | none => f.value s = match lastDocument layers with
      | none => f.value base.settings
      | some doc => (Field.given doc f).getD (f.value {}) := by
  have hfield := applyOverrides_field hnames (load_withEnvScope hs) f
  cases hget : env.get? (f.envName (Text.upperText scope)) with
  | some text =>
    rw [hget] at hfield
    exact hfield
  | none =>
    rw [hget] at hfield
    rw [hfield, withLayers_settings hl]
    cases hlast : lastDocument layers with
    | none => rfl
    | some doc => exact Field.value_ofFields (lastDocument_conforms hlast) f

theorem disabled_logging_layer_loads :
    let layers := [Layer.text "\x7b\"logging\": \x7b\"enabled\": false\x7d\x7d" "json"]
    let l : Loader := { settings := { logging := { enabled := false } } }
    let env : Environment := {}
    (env.vars.map Prod.fst).Nodup ∧ ({} : Loader).withLayers layers = .ok l ∧
      (l.withEnvScope "app").load env = .ok l.settings ∧
      ∀ f : Field, match env.get? (f.envName (Text.upperText "app")) with
        | some text => f.parse text = some (f.value l.settings)
        | none => f.value l.settings = match lastDocument layers with
          | none => f.value ({} : Loader).settings
          | some doc => (Field.given doc f).getD (f.value {}) := by
  intro layers l env
  have hnames : (env.vars.map Prod.fst).Nodup := List.nodup_nil
  have hl : ({} : Loader).withLayers layers = .ok l := by with_unfolding_all rfl
  have hs : (l.withEnvScope "app").load env = .ok l.settings := by with_unfolding_all rfl
  exact ⟨hnames, hl, hs, load_field_from_last_layer hnames hl hs⟩

/-- A document loaded over the development preset replaces it as a whole: one that only turns
logging off brings back the default log level and parameter type reports, though it sets
neither. -/
theorem development_preset_replaced :
    let layers := [Layer.text "\x7b\"logging\": \x7b\"enabled\": false\x7d\x7d" "json"]
    ((lastDocument layers).map fun doc =>
        (Field.given doc .level).isNone && (Field.given doc .reportParameterTypes).isNone) =
      some true ∧
    ((({} : Loader).withDevelopment.withLayers layers).toOption.bind
        fun l => (l.load {}).toOption).map
      (fun s => (s.logging.level, s.resolver.reportParameterTypes)) = some ("info", false) ∧
    (Settings.development.logging.level, Settings.development.resolver.reportParameterTypes) =
      ("debug", true) := by
  intro layers
  refine ⟨by decide +kernel, by decide +kernel, rfl⟩

end Covenant.Config
