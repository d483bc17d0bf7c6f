import PlanCompiler.Proofs.Report.Defaults
import PlanCompiler.Proofs.Service.Replay

/-!
# Selections in either form

A request says which strategies go into a report by configurations, or in the older form by their
ids. The service makes configurations of both. Ids then give the report that configurations give in
which nothing is entered, though the values that were filled in for ids went through another check;
and configurations that were made once are taken as they are when they are sent back.

* `CompilesAlike`, `Reachable.defaults_compile_alike`: default values that are filled in beforehand;
* `selection_normalized`: the configurations that a request stands for, and that they are given
  back.
-/

namespace PlanCompiler.Service

variable {v : Service} {q q' : ReportRequest}

/-! ## Default values -/

/-- The two requests lead to one report. -/
structure CompilesAlike (v : Service) (q q' : ReportRequest) : Prop where
  /-- The configurations of the first one, filled in or not, are read as they are. -/
  valid : ∀ config ∈ q.configurations v.find, ClientConfig.read config.write = .valid config
  compiled : ∀ data, (v.compile data (q.configurations v.find)).answer =
    (v.compile data (q'.configurations v.find)).answer
  /-- The report with a certain text is generated for either one or for none. -/
  generated : ∀ down text, (∃ r, (v.generate down q).answer = .ok r ∧ r.text = text) ↔
    ∃ r, (v.generate down q').answer = .ok r ∧ r.text = text

/-- A report with a certain text is generated exactly if this text is compiled, and both the
client's data and the report can be stored. -/
theorem exists_generated_iff {down : Option String} {text : String} :
    (∃ r, (v.generate down q).answer = .ok r ∧ r.text = text) ↔
      (∃ data, q.clientData.write .stored = .ok data) ∧
        v.StorageTakes down q.clientId (v.textOf q) ∧ v.textOf q = text := by
  constructor
  · rintro ⟨r, answered, rfl⟩
    obtain ⟨data, written, takes, rfl⟩ := answer_generate_eq_ok_iff.1 answered
    exact ⟨⟨data, written⟩, takes, rfl⟩
  · rintro ⟨⟨data, written⟩, takes, rfl⟩
    exact ⟨_, answer_generate_eq_ok_iff.2 ⟨data, written, takes, rfl⟩, rfl⟩

/-- The fields of a strategy that is found have ids of their own if all those that are stored do. -/
theorem nodup_of_find (distinct : ∀ s ∈ v.catalog.strategies, (s.inputFields.map (·.id)).Nodup)
    (id : String) (s : Strategy) (found : v.find id = some s) :
    (s.inputFields.map (·.id)).Nodup :=
  distinct s (List.mem_map_of_mem (f := (·.2)) (Catalog.WellFormed.mem_of_get? found))

theorem compileFor_of_addsDefaults (h : v.catalog.WellFormed)
    (distinct : ∀ s ∈ v.catalog.strategies, (s.inputFields.map (·.id)).Nodup)
    {configs configs' : List ClientConfig}
    (adds : List.Forall₂ (AddsDefaults v.find) configs configs') (data : Payload) :
    Report.compileFor data configs' (.stored v.catalog) =
      Report.compileFor data configs (.stored v.catalog) := by
  have rendered := Report.renderEnabled_of_addsDefaults (nodup_of_find distinct) adds
  rw [Report.compileFor, Report.compileFor, Report.compile, Report.compile, h.find?_stored]
  exact congrArg Report.assemble rendered

/-- In every reachable state whose strategies have fields with ids of their own, selected ids and
enabled configurations in which nothing is entered give the same report. So do any configurations
and the same ones with default values added for fields that they do not mention. -/
theorem Reachable.defaults_compile_alike (h : v.Reachable)
    (distinct : ∀ s ∈ v.catalog.strategies, (s.inputFields.map (·.id)).Nodup) :
    (∀ (q : ReportRequest) (ids : List String), q.strategyConfigurations = none →
      q.selectedStrategyIds = some ids →
      v.CompilesAlike q (q.giving (ids.map (ReportRequest.enabled [])))) ∧
    ∀ configs configs' : List ClientConfig, List.Forall₂ (AddsDefaults v.find) configs configs' →
      ∀ data, (v.compile data configs').answer = (v.compile data configs).answer := by
  constructor
  · intro q ids none selected
    have compiled := compileFor_of_addsDefaults h.wellFormed distinct
      (ReportRequest.addsDefaults_configurations none selected v.find)
    have text : v.textOf q = v.textOf (q.giving (ids.map (ReportRequest.enabled []))) :=
      compiled .null
    have valid : ∀ config ∈ q.configurations v.find, config.IsValid :=
      ReportRequest.isValid_of_given (fun configs given => by cases none ▸ given) h.wellFormed
    exact
      { valid := fun config hconfig => ClientConfig.read_write (valid config hconfig)
        compiled := fun data => congrArg Except.ok (compiled data)
        generated := fun down wanted => by
          rw [exists_generated_iff, exists_generated_iff, text]
          exact Iff.rfl }
  · intro configs configs' adds data
    exact congrArg Except.ok (compileFor_of_addsDefaults h.wellFormed distinct adds data)

/-- Defaults that look like nothing: a flag that is off, zero, and an empty text. -/
def sampleDefaults : List Payload :=
  [.record [("id", .text "t"), ("title", .text "T"),
      ("content", .text "\x7b\x7bn\x7d\x7d \x7b\x7bflag\x7d\x7d [\x7b\x7bnote\x7d\x7d]"),
      ("inputFields", .list [
        .record [("id", .text "flag"), ("label", .text "F"), ("type", .text "toggle"),
          ("defaultValue", .boolean false),
          ("conditionalText", .record [("whenFalse", .text "Off.")])],
        .record [("id", .text "n"), ("label", .text "N"), ("type", .text "number"),
          ("defaultValue", .integer 0)],
        .record [("id", .text "note"), ("label", .text "E"), ("defaultValue", .text "")]])],
    .record [("id", .text "m"), ("title", .text "M"), ("content", .text "Mine."),
      ("isCustom", .boolean true)]]

/-- The state in which a service starts with these. -/
def sampleStarted : Service :=
  (started {} sampleDefaults).toOption.getD {}

theorem sampleStarted_reachable : sampleStarted.Reachable :=
  ⟨{}, sampleDefaults, _, [], rfl, rfl, rfl⟩

/-- A request in the older form, with repeated and unknown ids. -/
def sampleSelection : Payload :=
  .record [("client_data", .record []), ("selected_strategy_ids",
      .list [.text "t", .text "c", .text "t"]),
    ("selected_custom_strategy_ids", .list [.text "d", .text "m", .text "t", .text "d"])]

/-- What is entered for one field only, and with the default of another one added. -/
theorem addsDefaults_sample : AddsDefaults sampleStarted.find ⟨"t", true, [("n", .integer 5)]⟩
    ⟨"t", true, [("n", .integer 5), ("flag", .boolean false)]⟩ where
  strategyId := rfl
  isEnabled := rfl
  inputValues := by
    refine ⟨[("flag", .boolean false)], rfl, fun entry mem => ?_⟩
    obtain rfl := List.mem_singleton.1 mem
    exact ⟨by decide, _, rfl, _, List.mem_cons_self, rfl, rfl⟩

/-- The flag that is off adds its paragraph, whether or not its default value is entered. -/
theorem Reachable.defaults_compile_alike_sample :
    ∃ q, ReportRequest.read sampleSelection = .valid q ∧
    sampleStarted.textOf q =
      "ADDITIONAL STRATEGIES\n\n0 false []\nOff.\n\n0 false []\nOff.\n\nMine." ∧
    sampleStarted.CompilesAlike q (q.giving (["t", "c", "t"].map (ReportRequest.enabled []))) ∧
    (sampleStarted.compile .null
        [⟨"t", true, [("n", .integer 5), ("flag", .boolean false)]⟩]).answer =
      (sampleStarted.compile .null [⟨"t", true, [("n", .integer 5)]⟩]).answer := by
  obtain ⟨legacy, added⟩ := Reachable.defaults_compile_alike sampleStarted_reachable (by decide)
  exact ⟨_, rfl, by decide, legacy _ _ rfl rfl, added _ _ (.cons addsDefaults_sample .nil) _⟩

/-! ## Configurations given back -/

/-- An accepted request is answered with its configurations. -/
theorem answer_buildConfigurations {p : Payload} (accepted : ReportRequest.read p = .valid q)
    (w : Service) : (Command.run w (.buildConfigurations p)).answer =
      .ok (.configs (q.configurations w.find)) := by
  rw [Command.run, accepted]
  rfl

/-- Whatever the catalog, an accepted request comes down to the configurations that its selection
stands for, with one for each custom strategy that it selects. Given back as its own, they are taken
as they are, whatever the catalog is by then; sent back in its payload as well, if the catalog that
they were made from is well-formed. -/
theorem selection_normalized {p : Payload} {q : ReportRequest}
    (accepted : ReportRequest.read p = .valid q) (v : Service) : ∃ base appended,
      (Command.run v (.buildConfigurations p)).answer = .ok (.configs (base ++ appended)) ∧
      q.StandsFor base appended ∧
      (∀ id ∈ q.customIds, ∃ config ∈ base ++ appended, config.strategyId = id) ∧
      (∀ w : Service, (q.giving (base ++ appended)).configurations w.find = base ++ appended) ∧
      (v.catalog.WellFormed → ∀ w : Service, (Command.run w (.buildConfigurations
        (ReportRequest.payloadGiving (base ++ appended) p))).answer =
          .ok (.configs (base ++ appended))) := by
  obtain ⟨r, -, fields⟩ := ReportRequest.read_eq_valid_iff.1 accepted
  have stands := ReportRequest.standsFor_configurations fields.hasSelection v.find
  have again (w : Service) : (q.giving (q.configurations v.find)).configurations w.find =
      q.configurations v.find :=
    ReportRequest.configurations_giving (fun _ => stands.exists_config) w.find
  refine ⟨_, _, answer_buildConfigurations accepted v, stands, fun _ => stands.exists_config, again,
    fun h w => ?_⟩
  have valid := ReportRequest.isValid_configurations accepted h
  have read := ReportRequest.read_payloadGiving accepted valid
  exact (answer_buildConfigurations read w).trans
    (congrArg (fun configs => Except.ok (Answer.configs configs)) (again w))

/-- The configurations are sent back in another state, in which one of the strategies is unknown. -/
theorem selection_normalized_sample : ∃ q, ReportRequest.read sampleSelection = .valid q ∧
    (q.configurations sampleStarted.find).map (·.strategyId) = ["t", "c", "t", "d", "m"] ∧
    sample.find "t" = none ∧ ∃ base appended,
      (Command.run sampleStarted (.buildConfigurations sampleSelection)).answer =
        .ok (.configs (base ++ appended)) ∧
      q.StandsFor base appended ∧
      (Command.run sample (.buildConfigurations
        (ReportRequest.payloadGiving (base ++ appended) sampleSelection))).answer =
          .ok (.configs (base ++ appended)) := by
  refine ⟨_, rfl, by decide, by decide, ?_⟩
  obtain ⟨base, appended, built, stands, -, -, resent⟩ :=
    selection_normalized (p := sampleSelection) rfl sampleStarted
  exact ⟨base, appended, built, stands, resent sampleStarted_reachable.wellFormed sample⟩

end PlanCompiler.Service
