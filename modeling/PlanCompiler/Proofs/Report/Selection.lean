import PlanCompiler.Proofs.Report.Request
import PlanCompiler.Proofs.Schema.Writing

/-!
# What a selection stands for

The configurations of a request are those that it gives, or one for each id that it selects, and
then one for each custom strategy that these leave out. Once a request gives all of them itself,
nothing is left to append, whatever strategies there are by then. That is so as well if they are
written into the payload that the request was read from, under whichever spelling it had its own.

* `ReportRequest.StandsFor`: the configurations that a selection stands for;
* `ReportRequest.standsFor_configurations`: that a request has those;
* `ReportRequest.giving`, `ReportRequest.configurations_giving`: a request that gives its own
  configurations;
* `ReportRequest.payloadGiving`, `ReportRequest.read_payloadGiving`: the same for its payload.
-/

namespace PlanCompiler

open Schema

namespace ReportRequest

variable {q : ReportRequest}

/-- The custom strategies that a request selects. -/
def customIds (q : ReportRequest) : List String :=
  q.selectedCustomStrategyIds.getD []

/-! ## The configurations of a request -/

/-- What a request stands for: the configurations of its selection, and those that are appended to
them. -/
structure StandsFor (q : ReportRequest) (base appended : List ClientConfig) : Prop where
  /-- Configurations that are given are taken as they are, even if there are none. -/
  given : ∀ configs, q.strategyConfigurations = some configs → base = configs
  /-- Otherwise each of the selected ids stands for an enabled configuration, repeated ones too. -/
  selected : q.strategyConfigurations = none → ∃ ids, q.selectedStrategyIds = some ids ∧
    base.map (·.strategyId) = ids ∧ ∀ config ∈ base, config.isEnabled = true
  /-- Nothing is entered for a strategy that is appended. -/
  plain : ∀ config ∈ appended, config.isEnabled = true ∧ config.inputValues = []
  /-- The custom strategies that the selection leaves out are appended, ... -/
  mem_iff : ∀ id, id ∈ appended.map (·.strategyId) ↔
    id ∈ q.customIds ∧ id ∉ base.map (·.strategyId)
  /-- ... once each, ... -/
  distinct : (appended.map (·.strategyId)).Nodup
  /-- ... in the order in which they were first selected. -/
  ordered : (appended.map (·.strategyId)).Pairwise fun a b =>
    q.customIds.idxOf a < q.customIds.idxOf b

/-- Every custom strategy that is selected has a configuration. -/
theorem StandsFor.exists_config {base appended : List ClientConfig} (h : q.StandsFor base appended)
    {id : String} (hid : id ∈ q.customIds) :
    ∃ config ∈ base ++ appended, config.strategyId = id := by
  have mem : id ∈ (base ++ appended).map (·.strategyId) := by
    rw [List.map_append, List.mem_append]
    by_cases configured : id ∈ base.map (·.strategyId)
    · exact .inl configured
    · exact .inr ((h.mem_iff id).2 ⟨hid, configured⟩)
  exact List.mem_map.1 mem

theorem map_strategyId_enabled (values : String → Entries Scalar) (ids : List String) :
    (ids.map fun id => enabled (values id) id).map (·.strategyId) = ids := by
  rw [List.map_map]
  exact List.map_id _

/-- Each of the selected ids stands for a configuration with default values. -/
theorem base_of_ids {ids : List String} (none : q.strategyConfigurations = none)
    (selected : q.selectedStrategyIds = some ids) (find : String → Option Strategy) :
    q.base find = ids.map fun id => enabled (((find id).map Strategy.defaults).getD []) id := by
  rw [base, none, selected]
  rfl

/-- The ids that are appended are what is left of the custom ones without repetitions. -/
theorem map_strategyId_appended (q : ReportRequest) (configs : List ClientConfig) :
    (q.appended configs).map (·.strategyId) =
      q.customIds.eraseDups.filter fun id => !(configs.map (·.strategyId)).contains id :=
  map_strategyId_enabled (fun _ => []) _

theorem standsFor_configurations (accepted : q.hasSelection = true)
    (find : String → Option Strategy) :
    q.StandsFor (q.base find) (q.appended (q.base find)) where
  given configs given := by rw [base, given]
  selected none := by
    rw [hasSelection, none] at accepted
    obtain ⟨ids, selected⟩ := Option.isSome_iff_exists.1 accepted
    rw [base_of_ids none selected]
    refine ⟨ids, selected, map_strategyId_enabled _ ids, fun config hconfig => ?_⟩
    obtain ⟨id, -, rfl⟩ := List.mem_map.1 hconfig
    rfl
  plain config hconfig := by
    obtain ⟨id, -, rfl⟩ := List.mem_map.1 hconfig
    exact ⟨rfl, rfl⟩
  mem_iff id := by
    rw [map_strategyId_appended, List.mem_filter, List.mem_eraseDups]
    simp
  distinct := by
    rw [map_strategyId_appended]
    exact (Entries.nodup_eraseDups _).filter _
  ordered := by
    rw [map_strategyId_appended]
    exact (Entries.pairwise_idxOf_eraseDups _).filter _

/-! ## Given back -/

/-- The request with configurations given in place of its own. -/
def giving (q : ReportRequest) (configs : List ClientConfig) : ReportRequest :=
  { q with strategyConfigurations := some configs }

/-- Nothing is appended to configurations of all custom strategies. -/
theorem appended_eq_nil {configs : List ClientConfig}
    (all : ∀ id ∈ q.customIds, ∃ config ∈ configs, config.strategyId = id) :
    q.appended configs = [] := by
  have none : (q.appended configs).map (·.strategyId) = [] := by
    rw [map_strategyId_appended, List.filter_eq_nil_iff]
    intro id hid
    have configured : id ∈ configs.map (·.strategyId) :=
      List.mem_map.2 (all id (List.mem_eraseDups.1 hid))
    simpa using configured
  exact List.map_eq_nil_iff.1 none

theorem configurations_giving {configs : List ClientConfig}
    (all : ∀ id ∈ q.customIds, ∃ config ∈ configs, config.strategyId = id)
    (find : String → Option Strategy) : (q.giving configs).configurations find = configs := by
  have nothing : (q.giving configs).appended configs = [] := appended_eq_nil all
  have given : (q.giving configs).base find = configs := rfl
  rw [configurations, given, nothing, List.append_nil]

/-- The payload of a request with configurations written into it. -/
def payloadGiving (configs : List ClientConfig) : Payload → Payload
  | .record r => .record (Entries.put r Key.strategyConfigurations.wire
      (.list (configs.map ClientConfig.write)))
  | p => p

theorem read_payloadGiving {p : Payload} (accepted : read p = .valid q)
    {configs : List ClientConfig} (valid : ∀ config ∈ configs, config.IsValid) :
    read (payloadGiving configs p) = .valid (q.giving configs) := by
  obtain ⟨r, rfl, fields⟩ := read_eq_valid_iff.1 accepted
  obtain ⟨name, data, found, hdata⟩ := mandatory_eq_valid_iff.1 fields.clientData
  have written : readList ClientConfig.read (.list (configs.map ClientConfig.write)) =
      .valid configs :=
    readList_map fun config hconfig => ClientConfig.read_write (valid config hconfig)
  refine read_eq_valid_iff.2 ⟨_, rfl, ?_⟩
  exact
    { clientData := mandatory_eq_valid_iff.2
        ⟨name, data, (find?_put_of_apart (by decide)).trans found, hdata⟩
      clientId := (nullable_put_of_apart (by decide) _).trans fields.clientId
      strategyConfigurations := nullable_eq_valid_iff.2 (.inr ⟨_, _, find?_put_wire _ _ _,
        readNullable_eq_valid_iff.2 (.inr ⟨Payload.noConfusion, configs, written, rfl⟩)⟩)
      selectedStrategyIds := (nullable_put_of_apart (by decide) _).trans fields.selectedStrategyIds
      selectedCustomStrategyIds :=
        (nullable_put_of_apart (by decide) _).trans fields.selectedCustomStrategyIds
      hasSelection := rfl }

end ReportRequest

end PlanCompiler
