import PlanCompiler.Proofs.Report.Rendering
import PlanCompiler.Proofs.Report.Selection

/-!
# Default values entered beforehand

A field for which nothing was entered takes its default value when it is resolved. So it does not
matter to a report whether default values are entered beforehand, as they are for strategies that a
request selects by their ids, or left to the fields: what goes in for a placeholder, and which
paragraph a toggle adds, is the same. This needs the fields of a strategy to have ids of their own;
of two fields with one id, either would take what was entered for the other.

* `AddsDefaults`: a configuration with default values entered that it did not mention;
* `InputField.resolve_of_default`, `Strategy.render_of_takesDefaults`: one field, one strategy;
* `Report.renderEnabled_of_addsDefaults`: the configurations of a report;
* `ReportRequest.addsDefaults_configurations`: a request that selects by ids, and the same with
  configurations in which nothing is entered.
-/

namespace PlanCompiler

/-! ## One field -/

theorem Scalar.toPayload_ne_null (value : Scalar) : value.toPayload ≠ .null := by
  cases value <;> exact nofun

namespace InputField

variable {f : InputField} {supplied supplied' : Entries Payload}

/-- Nothing was entered for the field before, and its default value is now. -/
structure TakesDefault (f : InputField) (supplied supplied' : Entries Payload) : Prop where
  absent : Entries.get? supplied f.id = none
  entered : ∃ value, f.defaultValue = some value ∧
    Entries.get? supplied' f.id = some value.toPayload

/-- A default value that is entered is the value that the field had before. -/
theorem TakesDefault.given?_eq (h : f.TakesDefault supplied supplied') :
    f.given? supplied' = f.given? supplied := by
  obtain ⟨absent, value, default, entered⟩ := h
  have kept : (some value.toPayload).filter (· ≠ Payload.null) = some value.toPayload := by
    rw [Option.filter_some, if_pos (decide_eq_true value.toPayload_ne_null)]
  rw [given?, given?, entered, absent, kept, default]
  rfl

theorem resolve_of_default (h : Entries.get? supplied' f.id = Entries.get? supplied f.id ∨
    f.TakesDefault supplied supplied') : f.resolve supplied' = f.resolve supplied := by
  have given : f.given? supplied' = f.given? supplied := by
    rcases h with same | takes
    · rw [given?, given?, same]
    · exact takes.given?_eq
  rw [resolve, resolve, entered?_eq_given?, entered?_eq_given?, given]

end InputField

/-! ## One strategy -/

/-- Every field gets what it got before, or its default value for nothing. -/
def Strategy.TakesDefaults (s : Strategy) (supplied supplied' : Entries Payload) : Prop :=
  ∀ f ∈ s.inputFields, Entries.get? supplied' f.id = Entries.get? supplied f.id ∨
    f.TakesDefault supplied supplied'

theorem Strategy.render_of_takesDefaults {s : Strategy} {supplied supplied' : Entries Payload}
    (h : s.TakesDefaults supplied supplied') : s.render supplied' = s.render supplied := by
  have resolved : s.inputFields.map (·.resolve supplied') =
      s.inputFields.map (·.resolve supplied) :=
    List.map_congr_left fun f hf => InputField.resolve_of_default (h f hf)
  have all : resolveAll s.inputFields supplied' = resolveAll s.inputFields supplied := by
    rw [resolveAll, resolveAll, resolved]
  rw [render, render, all]

/-! ## Configurations -/

/-- The second configuration is the first one with the default values of fields entered that the
first one does not mention. -/
structure AddsDefaults (find : String → Option Strategy) (config config' : ClientConfig) :
    Prop where
  strategyId : config'.strategyId = config.strategyId
  isEnabled : config'.isEnabled = config.isEnabled
  inputValues : ∃ added, config'.inputValues = Entries.putAll config.inputValues added ∧
    ∀ entry ∈ added, entry.1 ∉ Entries.keys config.inputValues ∧
      ∃ s ∈ find config.strategyId, ∃ f ∈ s.inputFields,
        f.id = entry.1 ∧ f.defaultValue = some entry.2

variable {find : String → Option Strategy} {config config' : ClientConfig}

theorem AddsDefaults.refl (config : ClientConfig) : AddsDefaults find config config where
  strategyId := rfl
  isEnabled := rfl
  inputValues := ⟨[], rfl, nofun⟩

/-- Where the fields have ids of their own, a value that was added under the id of a field is the
default of this field. -/
theorem AddsDefaults.takesDefaults (h : AddsDefaults find config config') {s : Strategy}
    (found : find config.strategyId = some s) (distinct : (s.inputFields.map (·.id)).Nodup) :
    s.TakesDefaults (Report.enteredBy config) (Report.enteredBy config') := by
  intro f hf
  obtain ⟨added, same, defaults⟩ := h.inputValues
  have lookup : Entries.get? config'.inputValues f.id =
      (Entries.get? added.reverse f.id).or (Entries.get? config.inputValues f.id) := by
    rw [same, Entries.get?_putAll]
  rw [Report.enteredBy, Report.enteredBy]
  -- What was added counts before what was entered, so it is looked for there first.
  cases new : Entries.get? added.reverse f.id with
  | none =>
    rw [new, Option.none_or] at lookup
    rw [Entries.get?_mapValues, Entries.get?_mapValues, lookup]
    exact .inl rfl
  | some value =>
    rw [new, Option.some_or] at lookup
    have mem : (f.id, value) ∈ added := List.mem_reverse.1 (Entries.mem_of_get? new)
    obtain ⟨absent, s', found', f', hf', sameId, default⟩ := defaults _ mem
    obtain rfl : s = s' := Option.some.inj (found.symm.trans found')
    obtain rfl : f' = f := List.inj_on_of_nodup_map distinct hf' hf sameId
    refine .inr ⟨?_, value, default, ?_⟩
    · rw [Entries.get?_mapValues, Entries.get?_eq_none_iff.2 absent]
      rfl
    · rw [Entries.get?_mapValues, lookup]
      rfl

namespace Report

variable (distinct : ∀ id s, find id = some s → (s.inputFields.map (·.id)).Nodup)

include distinct

theorem renderConfig_of_addsDefaults (h : AddsDefaults find config config') :
    renderConfig find config' = renderConfig find config := by
  rw [renderConfig, renderConfig, h.strategyId]
  cases found : find config.strategyId with
  | none => rfl
  | some s =>
    have rendered := Strategy.render_of_takesDefaults (h.takesDefaults found (distinct _ s found))
    rw [Option.map_some, Option.map_some, rendered]

/-- Default values that are entered beforehand change nothing of what is rendered. -/
theorem renderEnabled_of_addsDefaults {configs configs' : List ClientConfig}
    (h : List.Forall₂ (AddsDefaults find) configs configs') :
    renderEnabled find configs' = renderEnabled find configs := by
  induction h with
  | nil => rfl
  | @cons config config' rest rest' adds _ ih =>
    rw [renderEnabled, renderEnabled] at ih ⊢
    rw [List.filter_cons, List.filter_cons, adds.isEnabled]
    split
    · rw [List.filterMap_cons, List.filterMap_cons, renderConfig_of_addsDefaults distinct adds, ih]
    · exact ih

end Report

/-! ## Selected ids -/

namespace ReportRequest

/-- A configuration with all default values of its strategy is one in which nothing is entered, with
default values added. -/
theorem addsDefaults_enabled (find : String → Option Strategy) (id : String) :
    AddsDefaults find (enabled [] id)
      (enabled (((find id).map Strategy.defaults).getD []) id) where
  strategyId := rfl
  isEnabled := rfl
  inputValues := by
    cases found : find id with
    | none => exact ⟨[], rfl, nofun⟩
    | some s =>
      refine ⟨_, rfl, fun entry mem => ⟨List.not_mem_nil, s, found, ?_⟩⟩
      obtain ⟨f, hf, hentry⟩ := List.mem_filterMap.1 mem
      obtain ⟨value, default, rfl⟩ := Option.map_eq_some_iff.1 hentry
      exact ⟨f, hf, rfl, default⟩

/-- What is appended depends on which ids the configurations mention. -/
theorem appended_congr (q : ReportRequest) {configs configs' : List ClientConfig}
    (same : configs.map (·.strategyId) = configs'.map (·.strategyId)) :
    q.appended configs = q.appended configs' := by
  rw [appended, appended, same]

/-- The configurations that selected ids stand for are those in which nothing is entered, with
default values added. -/
theorem addsDefaults_configurations {q : ReportRequest} {ids : List String}
    (none : q.strategyConfigurations = none) (selected : q.selectedStrategyIds = some ids)
    (find : String → Option Strategy) :
    List.Forall₂ (AddsDefaults find) ((q.giving (ids.map (enabled []))).configurations find)
      (q.configurations find) := by
  have mentioned : (ids.map (enabled [])).map (·.strategyId) =
      (q.base find).map (·.strategyId) := by
    rw [base_of_ids none selected]
    exact (map_strategyId_enabled (fun _ => []) ids).trans (map_strategyId_enabled _ ids).symm
  have appended : (q.giving (ids.map (enabled []))).appended (ids.map (enabled [])) =
      q.appended (q.base find) := appended_congr q mentioned
  have given : (q.giving (ids.map (enabled []))).base find = ids.map (enabled []) := rfl
  rw [configurations, configurations, given, appended]
  refine List.rel_append ?_ (List.forall₂_same.2 fun config _ => AddsDefaults.refl config)
  rw [base_of_ids none selected, List.forall₂_map_left_iff, List.forall₂_map_right_iff,
    List.forall₂_same]
  exact fun id _ => addsDefaults_enabled find id

end ReportRequest

end PlanCompiler
