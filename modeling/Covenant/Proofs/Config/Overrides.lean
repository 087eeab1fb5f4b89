import Covenant.Proofs.Config.Layers
import Mathlib.Data.String.Basic
import Mathlib.Data.Set.Finite.Lemmas

/-!
# Environment overrides

Loading applies the variables of the environment named `PREFIX__...`, in the sorted order of
their names. A variable named `PREFIX__SECTION__KEY` for one of the nine fields sets the field
to the value its text reads as, or fails naming itself when the text does not read
(`applyOverride_envName`); a variable of any other name changes nothing
(`applyOverride_of_unnamed`). A run of overrides therefore fails at the first variable whose
text does not read, and succeeds when there is none (`foldOverrides_eq_ok`,
`foldOverrides_eq_error`).

Sorting makes the outcome independent of the order the environment lists its variables in
(`applyOverrides_perm`) and puts first, among the variables that do not read, the one with the
smallest name (`applyOverrides_eq_error`).

Main statement: `load_overrides_frame`.
-/

namespace Covenant.Config

namespace Field

/-- A property of every field is one of each of the nine. -/
theorem forall_iff {p : Field → Prop} :
    (∀ f, p f) ↔ p .matchOrder ∧ p .reportParameterTypes ∧ p .locateFailures ∧
      p .attachRenderedSchema ∧ p .enabled ∧ p .level ∧ p .format ∧ p .includeTarget ∧
      p .fileLineInfo := by
  refine ⟨fun h => ⟨h _, h _, h _, h _, h _, h _, h _, h _, h _⟩, ?_⟩
  rintro ⟨h1, h2, h3, h4, h5, h6, h7, h8, h9⟩ f
  cases f <;> assumption

/-- What an override of a field reports when its text does not read; every text is a level. -/
def mismatch : Field → Option String
  | .matchOrder => some "expected 'declared' or 'specificity'"
  | .level => none
  | .format => some "expected 'json' or 'pretty'"
  | .reportParameterTypes | .locateFailures | .attachRenderedSchema | .enabled
  | .includeTarget | .fileLineInfo => some "expected boolean"

/-- The environment has a variable for the field under the prefix, and its text does not read
as a value of the field. -/
def Rejects (env : Environment) (scope : String) (f : Field) : Prop :=
  ∃ text, env.get? (f.envName scope) = some text ∧ f.parse text = none

end Field

/-- Settings are determined by the values of their nine fields. -/
theorem Settings.eq_of_value {s s' : Settings} (h : ∀ f : Field, f.value s = f.value s') :
    s = s' := by
  obtain ⟨h1, h2, h3, h4, h5, h6, h7, h8, h9⟩ := Field.forall_iff.mp h
  obtain ⟨⟨mo, rp⟩, ⟨lf, ar⟩, ⟨en, lv, fm, it, fl⟩⟩ := s
  obtain ⟨⟨mo', rp'⟩, ⟨lf', ar'⟩, ⟨en', lv', fm', it', fl'⟩⟩ := s'
  simp only [Field.value, Json.str.injEq, Json.bool.injEq] at h1 h2 h3 h4 h5 h6 h7 h8 h9
  -- the choice fields are stored by their names, which tell the choices apart
  have hmo : mo = mo' := by cases mo <;> cases mo' <;> simp_all [Route.MatchOrder.name]
  have hfm : fm = fm' := by cases fm <;> cases fm' <;> simp_all [LogFormat.name]
  subst hmo hfm h2 h3 h4 h5 h6 h8 h9
  rfl

/-- Overriding settings field by field determines the result: two settings that each hold, in
every field, the value its variable reads as, or the starting value where it has none, are
equal. -/
theorem Settings.eq_of_overridden {base s s' : Settings} {get : Field → Option String}
    (hs : ∀ f : Field, match get f with
      | some text => f.parse text = some (f.value s)
      | none => f.value s = f.value base)
    (hs' : ∀ f : Field, match get f with
      | some text => f.parse text = some (f.value s')
      | none => f.value s' = f.value base) : s' = s := by
  refine Settings.eq_of_value fun f => ?_
  have hf := hs f
  have hf' := hs' f
  cases hvar : get f with
  | some text =>
    rw [hvar] at hf hf'
    exact Option.some.inj (hf'.symm.trans hf)
  | none =>
    rw [hvar] at hf hf'
    exact hf'.trans hf.symm

/-! ## One override -/

section Override

variable {s : Settings} {scope text : String}

/-- An override of a field succeeds exactly when its text reads, and otherwise fails naming
itself. -/
theorem applyOverride_envName (g : Field) :
    match g.parse text with
    | some _ => ∃ s', applyOverride s scope (g.envName scope) text = .ok s'
    | none => ∃ reason, g.mismatch = some reason ∧
        applyOverride s scope (g.envName scope) text =
          .error (.envParse (g.envName scope) reason) := by
  have hkey : ((g.envName scope).drop (scope ++ "__").length).toString.splitOn "__" =
      [g.envSection, g.envField] := by
    rw [Field.envName, drop_append_toString, Field.splitOn_envKey]
  unfold applyOverride
  simp only [envName_startsWith, Bool.not_true, Bool.false_eq_true, if_false, hkey]
  -- each field's branch reads its text with the field's own parser
  cases g <;> simp only [Field.envSection, Field.envField, Field.parse, Field.mismatch]
  case matchOrder => cases Route.MatchOrder.parse? text <;> simp
  case level => simp
  case format => cases LogFormat.parse? text <;> simp
  all_goals cases parseFlag text <;> simp [Except.map]

/-- An override whose name has the prefix but names no field changes nothing. -/
theorem applyOverride_of_unnamed {name : String}
    (hstart : name.startsWith (scope ++ "__") = true)
    (hnone : ∀ f : Field, name ≠ f.envName scope) : applyOverride s scope name text = .ok s := by
  have hsplit : ∀ f : Field, (name.drop (scope ++ "__").length).toString.splitOn "__" ≠
      [f.envSection, f.envField] :=
    fun f h => hnone f (eq_envName_of_splitOn (by simp [hstart]) h)
  simp only [Field.forall_iff, Field.envSection, Field.envField] at hsplit
  unfold applyOverride
  simp only [hstart, Bool.not_true, Bool.false_eq_true, if_false]
  -- every branch but the last is the name of a field
  split <;> simp_all

end Override

/-! ## Overrides in turn -/

/-- A variable that names a field and whose text does not read as a value of it. -/
def RejectedEntry (scope : String) (entry : String × String) : Prop :=
  ∃ g : Field, entry.1 = g.envName scope ∧ g.parse entry.2 = none

section Fold

variable {scope : String}

/-- One variable with the prefix: it applies when it is not rejected. -/
theorem applyOverride_eq_ok_of_accepted {s : Settings} {entry : String × String}
    (hstart : entry.1.startsWith (scope ++ "__") = true) (hok : ¬ RejectedEntry scope entry) :
    ∃ s', applyOverride s scope entry.1 entry.2 = .ok s' := by
  by_cases hnamed : ∃ g : Field, entry.1 = g.envName scope
  · obtain ⟨g, hg⟩ := hnamed
    have happly := @applyOverride_envName s scope entry.2 g
    rw [← hg] at happly
    cases hparse : g.parse entry.2 with
    | none => exact absurd ⟨g, hg, hparse⟩ hok
    | some v =>
      rw [hparse] at happly
      exact happly
  · exact ⟨s, applyOverride_of_unnamed hstart fun f h => hnamed ⟨f, h⟩⟩

/-- Overrides that all apply succeed together. -/
theorem foldOverrides_eq_ok {s : Settings} {entries : List (String × String)}
    (hstart : ∀ e ∈ entries, e.1.startsWith (scope ++ "__") = true)
    (hok : ∀ e ∈ entries, ¬ RejectedEntry scope e) :
    ∃ s', entries.foldlM (fun s (name, value) => applyOverride s scope name value) s = .ok s' := by
  induction entries generalizing s with
  | nil => exact ⟨s, rfl⟩
  | cons e rest ih =>
    obtain ⟨s₁, h₁⟩ := applyOverride_eq_ok_of_accepted (s := s) (hstart e List.mem_cons_self)
      (hok e List.mem_cons_self)
    obtain ⟨s', h'⟩ := @ih s₁ (fun e' he' => hstart e' (List.mem_cons_of_mem e he'))
      (fun e' he' => hok e' (List.mem_cons_of_mem e he'))
    refine ⟨s', ?_⟩
    rw [List.foldlM_cons]
    simp only [h₁]
    exact h'

/-- Overrides fail at the first variable that is rejected, naming it. -/
theorem foldOverrides_eq_error {s : Settings} {before after : List (String × String)}
    {entry : String × String} {g : Field}
    (hstart : ∀ e ∈ before, e.1.startsWith (scope ++ "__") = true)
    (hok : ∀ e ∈ before, ¬ RejectedEntry scope e)
    (hname : entry.1 = g.envName scope) (hparse : g.parse entry.2 = none) :
    ∃ reason, g.mismatch = some reason ∧
      (before ++ entry :: after).foldlM (fun s (name, value) => applyOverride s scope name value)
        s = .error (.envParse entry.1 reason) := by
  obtain ⟨s₁, h₁⟩ := foldOverrides_eq_ok (s := s) hstart hok
  have happly := @applyOverride_envName s₁ scope entry.2 g
  rw [hparse, ← hname] at happly
  obtain ⟨reason, hreason, herror⟩ := happly
  refine ⟨reason, hreason, ?_⟩
  rw [List.foldlM_append, h₁]
  simp only [bind, Except.bind, List.foldlM_cons, herror]

end Fold

/-! ## Sorting -/

/-- The order overrides are applied in: by name, then by text. -/
def overrideOrder (a b : String × String) : Bool :=
  a.1 < b.1 || (a.1 == b.1 && decide (a.2 ≤ b.2))

theorem applyOverrides_eq (s : Settings) (env : Environment) (scope : String) :
    applyOverrides s env scope =
      ((env.vars.filter (·.1.startsWith (scope ++ "__"))).mergeSort overrideOrder).foldlM
        (fun s (name, value) => applyOverride s scope name value) s := rfl

theorem overrideOrder_iff {a b : String × String} :
    overrideOrder a b = true ↔ a.1 < b.1 ∨ (a.1 = b.1 ∧ a.2 ≤ b.2) := by
  simp [overrideOrder]

theorem overrideOrder_trans {a b c : String × String} (hab : overrideOrder a b = true)
    (hbc : overrideOrder b c = true) : overrideOrder a c = true := by
  rw [overrideOrder_iff] at *
  rcases hab with hab | ⟨hab, hab'⟩ <;> rcases hbc with hbc | ⟨hbc, hbc'⟩
  · exact .inl (hab.trans hbc)
  · exact .inl (hbc ▸ hab)
  · exact .inl (hab ▸ hbc)
  · exact .inr ⟨hab.trans hbc, hab'.trans hbc'⟩

theorem overrideOrder_total (a b : String × String) :
    (overrideOrder a b || overrideOrder b a) = true := by
  simp only [Bool.or_eq_true, overrideOrder_iff]
  rcases lt_trichotomy a.1 b.1 with h | h | h
  · exact .inl (.inl h)
  · rcases le_total a.2 b.2 with h' | h'
    · exact .inl (.inr ⟨h, h'⟩)
    · exact .inr (.inr ⟨h.symm, h'⟩)
  · exact .inr (.inl h)

theorem overrideOrder_antisymm {a b : String × String} (hab : overrideOrder a b = true)
    (hba : overrideOrder b a = true) : a = b := by
  rw [overrideOrder_iff] at hab hba
  rcases hab with hab | ⟨hab, hab'⟩ <;> rcases hba with hba | ⟨hba, hba'⟩
  · exact absurd (hab.trans hba) (lt_irrefl _)
  · exact absurd (hba ▸ hab) (lt_irrefl _)
  · exact absurd (hab ▸ hba) (lt_irrefl _)
  · exact Prod.ext hab (le_antisymm hab' hba')

theorem name_le_of_overrideOrder {a b : String × String} (h : overrideOrder a b = true) :
    a.1 ≤ b.1 := by
  rcases overrideOrder_iff.mp h with h | ⟨h, -⟩
  · exact h.le
  · exact h.le

theorem pairwise_mergeSort_overrideOrder (entries : List (String × String)) :
    (entries.mergeSort overrideOrder).Pairwise fun a b => overrideOrder a b = true :=
  @List.pairwise_mergeSort _ overrideOrder (fun _ _ _ => overrideOrder_trans) overrideOrder_total
    entries

/-- Sorting forgets the order of the entries: it is the same for any rearrangement. -/
theorem mergeSort_overrideOrder_perm {xs ys : List (String × String)} (h : xs.Perm ys) :
    xs.mergeSort overrideOrder = ys.mergeSort overrideOrder :=
  List.Perm.eq_of_pairwise (fun _ _ _ _ hab hba => overrideOrder_antisymm hab hba)
    (pairwise_mergeSort_overrideOrder xs) (pairwise_mergeSort_overrideOrder ys)
    ((List.mergeSort_perm xs _).trans (h.trans (List.mergeSort_perm ys _).symm))

/-- The overrides of an environment do not depend on the order it lists its variables in. -/
theorem applyOverrides_perm (s : Settings) {env env' : Environment} (scope : String)
    (h : env'.vars.Perm env.vars) : applyOverrides s env' scope = applyOverrides s env scope := by
  rw [applyOverrides_eq, applyOverrides_eq, mergeSort_overrideOrder_perm (h.filter _)]

/-! ## The overrides of an environment -/

section Environment

variable {env : Environment} {scope : String}

/-- The variable an environment with distinct names has under a name. -/
theorem get?_of_mem (hnames : (env.vars.map Prod.fst).Nodup) {entry : String × String}
    (h : entry ∈ env.vars) : env.get? entry.1 = some entry.2 := by
  obtain ⟨before, after, hvars⟩ := List.append_of_mem h
  rw [hvars, List.map_append, List.map_cons] at hnames
  have hfresh : entry.1 ∉ before.map Prod.fst := fun hmem =>
    (List.nodup_append.mp hnames).2.2 _ hmem _ List.mem_cons_self rfl
  refine List.lookup_eq_some_iff.mpr ⟨before, after, hvars, fun p hp => ?_⟩
  simpa using fun heq => hfresh (List.mem_map.mpr ⟨p, hp, heq.symm⟩)

theorem mem_of_get? {name text : String} (h : env.get? name = some text) :
    (name, text) ∈ env.vars := by
  obtain ⟨before, after, hvars, -⟩ := List.lookup_eq_some_iff.mp h
  simp [hvars]

/-- A rejected variable of an environment with distinct names is one of a field it rejects. -/
theorem rejects_of_entry (hnames : (env.vars.map Prod.fst).Nodup) {entry : String × String}
    (hmem : entry ∈ env.vars) {g : Field} (hname : entry.1 = g.envName scope)
    (hparse : g.parse entry.2 = none) : g.Rejects env scope :=
  ⟨entry.2, hname ▸ get?_of_mem hnames hmem, hparse⟩

/-- The variables overrides are applied from: those with the prefix, sorted. -/
theorem mem_chosen {entry : String × String} :
    entry ∈ (env.vars.filter (·.1.startsWith (scope ++ "__"))).mergeSort overrideOrder ↔
      entry ∈ env.vars ∧ entry.1.startsWith (scope ++ "__") = true := by
  simp [List.mem_mergeSort]

theorem nodup_chosen (hnames : (env.vars.map Prod.fst).Nodup) :
    (((env.vars.filter (·.1.startsWith (scope ++ "__"))).mergeSort overrideOrder).map
      Prod.fst).Nodup :=
  ((List.mergeSort_perm _ _).map Prod.fst).nodup_iff.mpr
    (hnames.sublist (List.filter_sublist.map _))

/-- When no field is rejected, the overrides of an environment with distinct names apply. -/
theorem applyOverrides_eq_ok (s : Settings) (hnames : (env.vars.map Prod.fst).Nodup)
    (hnone : ∀ f : Field, ¬ f.Rejects env scope) : ∃ s', applyOverrides s env scope = .ok s' := by
  rw [applyOverrides_eq]
  refine foldOverrides_eq_ok (fun e he => (mem_chosen.mp he).2) ?_
  rintro e he ⟨g, hname, hparse⟩
  exact hnone g (rejects_of_entry hnames (mem_chosen.mp he).1 hname hparse)

/-- When a field is rejected, the overrides of an environment with distinct names fail at the
rejected variable of the smallest name: sorted, it comes before every other rejected one. -/
theorem applyOverrides_eq_error (s : Settings) (hnames : (env.vars.map Prod.fst).Nodup)
    {g : Field} (hg : g.Rejects env scope)
    (hmin : ∀ f : Field, f.Rejects env scope → g.envName scope ≤ f.envName scope) :
    ∃ reason, g.mismatch = some reason ∧
      applyOverrides s env scope = .error (.envParse (g.envName scope) reason) := by
  obtain ⟨text, hget, hparse⟩ := hg
  have hmem : (g.envName scope, text) ∈
      (env.vars.filter (·.1.startsWith (scope ++ "__"))).mergeSort overrideOrder :=
    mem_chosen.mpr ⟨mem_of_get? hget, envName_startsWith g scope⟩
  obtain ⟨before, after, hsplit⟩ := List.append_of_mem hmem
  have hsorted := pairwise_mergeSort_overrideOrder
    (env.vars.filter (·.1.startsWith (scope ++ "__")))
  have hdistinct : (((env.vars.filter (·.1.startsWith (scope ++ "__"))).mergeSort
      overrideOrder).map Prod.fst).Nodup := nodup_chosen hnames
  rw [hsplit] at hsorted hdistinct
  have hbefore : ∀ e ∈ before, e ∈ env.vars ∧ e.1.startsWith (scope ++ "__") = true :=
    fun e he => mem_chosen.mp (hsplit ▸ List.mem_append_left _ he)
  rw [applyOverrides_eq, hsplit]
  refine foldOverrides_eq_error (fun e he => (hbefore e he).2) ?_ rfl hparse
  rintro e he ⟨f, hname, hfparse⟩
  -- sorted, `e` comes no later than the rejected variable of the smallest name
  have hle := name_le_of_overrideOrder
    ((List.pairwise_append.mp hsorted).2.2 e he _ List.mem_cons_self)
  have hge : g.envName scope ≤ e.1 :=
    hname ▸ hmin f (rejects_of_entry hnames (hbefore e he).1 hname hfparse)
  -- so both have the same name, which the distinct names of the environment forbid
  have hsame : e.1 = g.envName scope := le_antisymm hle hge
  rw [List.map_append, List.map_cons] at hdistinct
  exact (List.nodup_append.mp hdistinct).2.2 _ (List.mem_map.mpr ⟨e, he, rfl⟩) _
    List.mem_cons_self hsame

/-- Among rejected fields there is one of the smallest name. -/
theorem exists_min_rejects (h : ∃ f : Field, f.Rejects env scope) :
    ∃ g : Field, g.Rejects env scope ∧
      ∀ f : Field, f.Rejects env scope → g.envName scope ≤ f.envName scope := by
  have hfinite : {f : Field | f.Rejects env scope}.Finite :=
    (List.finite_toSet [.matchOrder, .reportParameterTypes, .locateFailures,
      .attachRenderedSchema, .enabled, .level, .format, .includeTarget, .fileLineInfo]).subset
      fun f _ => by cases f <;> simp
  obtain ⟨g, hg, hmin⟩ := Set.exists_min_image _ (fun f : Field => f.envName scope) hfinite h
  exact ⟨g, hg, hmin⟩

end Environment

/-! ## Loading -/

section Load

variable {l : Loader} {scope : String} {env : Environment}

/-- Loading under a prefix applies the overrides and checks what they give. -/
theorem load_eq_of_applyOverrides_ok {s : Settings}
    (h : applyOverrides l.settings env (Text.upperText scope) = .ok s) :
    (l.withEnvScope scope).load env = (validateSettings s).map fun _ => s := by
  simp only [Loader.load, Loader.withEnvScope, h, bind, Except.bind, pure, Except.pure]
  cases validateSettings s <;> rfl

/-- Loading under a prefix fails, before any check, when the overrides fail. -/
theorem load_eq_of_applyOverrides_error {e : ConfigError}
    (h : applyOverrides l.settings env (Text.upperText scope) = .error e) :
    (l.withEnvScope scope).load env = .error e := by
  simp only [Loader.load, Loader.withEnvScope, h]
  rfl

theorem load_perm {env' : Environment} (h : env'.vars.Perm env.vars) :
    (l.withEnvScope scope).load env' = (l.withEnvScope scope).load env := by
  simp only [Loader.load, Loader.withEnvScope, applyOverrides_perm _ _ h]

/-- When no field is rejected, loading applies the overrides, which set each field that has a
variable to the value its text reads as and keep every other field, and then checks them. -/
theorem load_eq_ok_of_accepted (hnames : (env.vars.map Prod.fst).Nodup)
    (hnone : ∀ f : Field, ¬ f.Rejects env (Text.upperText scope)) :
    ∃ s, applyOverrides l.settings env (Text.upperText scope) = .ok s ∧
      (l.withEnvScope scope).load env = (validateSettings s).map (fun _ => s) ∧
      ∀ f : Field, match env.get? (f.envName (Text.upperText scope)) with
        | some text => f.parse text = some (f.value s)
        | none => f.value s = f.value l.settings := by
  obtain ⟨s, hs⟩ := applyOverrides_eq_ok l.settings hnames hnone
  exact ⟨s, hs, load_eq_of_applyOverrides_ok hs, applyOverrides_field hnames hs⟩

/-- When a field is rejected, loading fails, before any check, naming the rejected variable of
the smallest name. -/
theorem load_eq_error_of_rejects (hnames : (env.vars.map Prod.fst).Nodup)
    (h : ∃ f : Field, f.Rejects env (Text.upperText scope)) :
    ∃ g : Field, g.Rejects env (Text.upperText scope) ∧
      (∀ f : Field, f.Rejects env (Text.upperText scope) →
        g.envName (Text.upperText scope) ≤ f.envName (Text.upperText scope)) ∧
      ∃ reason, g.mismatch = some reason ∧
        (l.withEnvScope scope).load env =
          .error (.envParse (g.envName (Text.upperText scope)) reason) := by
  obtain ⟨g, hg, hmin⟩ := exists_min_rejects h
  obtain ⟨reason, hreason, herror⟩ := applyOverrides_eq_error l.settings hnames hg hmin
  exact ⟨g, hg, hmin, reason, hreason, load_eq_of_applyOverrides_error herror⟩

/-- Loading reads only the variables that name fields: two environments with distinct names
that agree on those load alike. -/
theorem load_eq_of_get?_eq {env' : Environment} (hnames : (env.vars.map Prod.fst).Nodup)
    (hnames' : (env'.vars.map Prod.fst).Nodup)
    (hget : ∀ f : Field, env'.get? (f.envName (Text.upperText scope)) =
      env.get? (f.envName (Text.upperText scope))) :
    (l.withEnvScope scope).load env' = (l.withEnvScope scope).load env := by
  have hrejects : ∀ f : Field, f.Rejects env' (Text.upperText scope) ↔
      f.Rejects env (Text.upperText scope) := fun f => by simp only [Field.Rejects, hget f]
  by_cases h : ∃ f : Field, f.Rejects env (Text.upperText scope)
  · -- both fail at the rejected field of the smallest name, which is the same field
    obtain ⟨g, hg, hmin, reason, hreason, hload⟩ := load_eq_error_of_rejects (l := l) hnames h
    obtain ⟨g', hg', hmin', reason', hreason', hload'⟩ := load_eq_error_of_rejects (l := l)
      hnames' (show ∃ f : Field, f.Rejects env' (Text.upperText scope) from
        (exists_congr hrejects).mpr h)
    have hsame : g' = g := Field.envName_inj.mp
      (le_antisymm (hmin' g ((hrejects g).mpr hg)) (hmin g' ((hrejects g').mp hg')))
    subst hsame
    rw [hload, hload', Option.some.inj (hreason'.symm.trans hreason)]
  · -- both succeed with the same value in every field
    have hnone : ∀ f : Field, ¬ f.Rejects env (Text.upperText scope) := fun f hf => h ⟨f, hf⟩
    obtain ⟨s, -, hload, hfields⟩ := load_eq_ok_of_accepted (l := l) hnames hnone
    obtain ⟨s', -, hload', hfields'⟩ := load_eq_ok_of_accepted (l := l) hnames'
      fun f hf => hnone f ((hrejects f).mp hf)
    have hsame : s' = s := Settings.eq_of_overridden hfields fun f => by
      simpa only [hget f] using hfields' f
    rw [hload, hload', hsame]

end Load

/-! ## Main statement -/

/-- Environment overrides are a frame-respecting update of the settings a loader holds, under
the prefix in upper case. The order the environment lists its variables in does not matter,
and neither do variables that name no field. When every variable of a field reads, each field
with a variable is set to the value its text reads as, every other field keeps its value, and
the result is then checked. When some variable of a field does not read, loading fails, before
any check, naming the one of the smallest name. -/
theorem load_overrides_frame (l : Loader) (scope : String) (env : Environment)
    (hnames : (env.vars.map Prod.fst).Nodup) :
    let P := Text.upperText scope
    (∀ env' : Environment, env'.vars.Perm env.vars →
      (l.withEnvScope scope).load env' = (l.withEnvScope scope).load env) ∧
    (∀ env' : Environment, (env'.vars.map Prod.fst).Nodup →
      (∀ f : Field, env'.get? (f.envName P) = env.get? (f.envName P)) →
      (l.withEnvScope scope).load env' = (l.withEnvScope scope).load env) ∧
    ((∀ f : Field, ¬ f.Rejects env P) →
      ∃ s, applyOverrides l.settings env P = .ok s ∧
        (l.withEnvScope scope).load env = (validateSettings s).map (fun _ => s) ∧
        ∀ f : Field, match env.get? (f.envName P) with
          | some text => f.parse text = some (f.value s)
          | none => f.value s = f.value l.settings) ∧
    ((∃ f : Field, f.Rejects env P) →
      ∃ g : Field, g.Rejects env P ∧ (∀ f : Field, f.Rejects env P → g.envName P ≤ f.envName P) ∧
        ∃ reason, g.mismatch = some reason ∧
          (l.withEnvScope scope).load env = .error (.envParse (g.envName P) reason)) :=
  ⟨fun _ h => load_perm h, fun _ hnames' hget => load_eq_of_get?_eq hnames hnames' hget,
    load_eq_ok_of_accepted hnames, load_eq_error_of_rejects hnames⟩

theorem level_and_flag_overrides :
    let env : Environment := { vars := [("APP__LOGGING__LEVEL", "debug"),
      ("APP__LOGGING__ENABLED", "maybe"), ("APP__CACHE__SIZE", "9")] }
    let l : Loader := {}
    let P := Text.upperText "app"
    (env.vars.map Prod.fst).Nodup ∧
    (∀ env' : Environment, env'.vars.Perm env.vars →
      (l.withEnvScope "app").load env' = (l.withEnvScope "app").load env) ∧
    (∀ env' : Environment, (env'.vars.map Prod.fst).Nodup →
      (∀ f : Field, env'.get? (f.envName P) = env.get? (f.envName P)) →
      (l.withEnvScope "app").load env' = (l.withEnvScope "app").load env) ∧
    ((∀ f : Field, ¬ f.Rejects env P) →
      ∃ s, applyOverrides l.settings env P = .ok s ∧
        (l.withEnvScope "app").load env = (validateSettings s).map (fun _ => s) ∧
        ∀ f : Field, match env.get? (f.envName P) with
          | some text => f.parse text = some (f.value s)
          | none => f.value s = f.value l.settings) ∧
    ((∃ f : Field, f.Rejects env P) →
      ∃ g : Field, g.Rejects env P ∧ (∀ f : Field, f.Rejects env P → g.envName P ≤ f.envName P) ∧
        ∃ reason, g.mismatch = some reason ∧
          (l.withEnvScope "app").load env = .error (.envParse (g.envName P) reason)) := by
  intro env l P
  have hnames : (env.vars.map Prod.fst).Nodup := by simp [env]
  exact ⟨hnames, load_overrides_frame l "app" env hnames⟩

end Covenant.Config
