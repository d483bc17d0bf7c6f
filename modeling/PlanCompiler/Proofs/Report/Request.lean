import PlanCompiler.Proofs.Catalog.Change
import PlanCompiler.Proofs.Client.Config
import PlanCompiler.Report.Request

/-!
# The configurations of an accepted request

The configurations of a request were sent with it, or are made from the ids that it selects. Those
that are made enter the default values of a strategy's fields, whose ids are identifiers. Either way
they are read as they are once they are written.

* `ReportRequest.read_eq_valid_iff`: when a request is accepted;
* `Strategy.wholeKeys_defaults`: the values that are filled in;
* `ReportRequest.isValid_configurations`: all configurations of a request.
-/

namespace PlanCompiler

open Schema

/-- The default values of the fields are entered under identifiers. -/
theorem Strategy.wholeKeys_defaults {s : Strategy} (h : s.toStrategyBody.IsValid) :
    WholeKeys (Entries.keys s.defaults) := by
  refine ⟨fun key hkey => ?_, Entries.nodup_keys_putAll (t := []) List.nodup_nil _⟩
  obtain ⟨entry, hentry, rfl⟩ := List.mem_map.1 hkey
  have filled := (Entries.mem_putAll hentry).resolve_left List.not_mem_nil
  obtain ⟨f, hf, hvalue⟩ := List.mem_filterMap.1 filled
  obtain ⟨value, -, rfl⟩ := Option.map_eq_some_iff.1 hvalue
  exact Text.isWhole_of_isIdentifier (h.inputFields f hf).identifier

namespace ReportRequest

/-- The fields of a record are those of the request. -/
structure ReadFrom (r : Entries Payload) (q : ReportRequest) : Prop where
  clientData : mandatory r Key.clientData ClientData.read = .valid q.clientData
  clientId : nullable r Key.clientId readText = .valid q.clientId
  strategyConfigurations : nullable r Key.strategyConfigurations (readList ClientConfig.read) =
    .valid q.strategyConfigurations
  selectedStrategyIds : nullable r Key.selectedStrategyIds (readList readText) =
    .valid q.selectedStrategyIds
  selectedCustomStrategyIds : nullable r Key.selectedCustomStrategyIds (readList readText) =
    .valid q.selectedCustomStrategyIds
  hasSelection : q.hasSelection = true

theorem read_eq_valid_iff {p : Payload} {q : ReportRequest} :
    read p = .valid q ↔ ∃ r, p = .record r ∧ ReadFrom r q := by
  simp only [read, Checked.andThen_eq_valid_iff, readRecord_eq_valid_iff,
    Checked.ensure_eq_valid_iff, Checked.functor_map_eq, Checked.applicative_seq_eq,
    Checked.seq_eq_valid_iff, Checked.map_eq_valid_iff, ↓existsAndEq, and_true, and_assoc]
  constructor
  · rintro ⟨r, rfl, ⟨_, _, _, _, _, h1, h2, h3, h4, h5, rfl⟩, rule⟩
    exact ⟨r, rfl, h1, h2, h3, h4, h5, rule⟩
  · rintro ⟨r, rfl, h1, h2, h3, h4, h5, rule⟩
    exact ⟨r, rfl, ⟨_, _, _, _, _, h1, h2, h3, h4, h5, rfl⟩, rule⟩

/-- The configurations that were sent were accepted one by one. -/
theorem ReadFrom.isValid {r : Entries Payload} {q : ReportRequest} (h : ReadFrom r q) :
    ∀ configs ∈ q.strategyConfigurations, ∀ config ∈ configs, config.IsValid := by
  intro configs hconfigs
  have sent := h.strategyConfigurations
  rw [Option.mem_def.1 hconfigs] at sent
  rcases nullable_eq_valid_iff.1 sent with ⟨-, absent⟩ | ⟨name, p, -, hread⟩
  · cases absent
  · rcases readNullable_eq_valid_iff.1 hread with ⟨-, absent⟩ | ⟨-, read, hlist, same⟩
    · cases absent
    · cases same
      exact forall_mem_of_readList (fun _ _ => ClientConfig.isValid_of_read) hlist

theorem isValid_enabled {values : Entries Scalar} (h : WholeKeys (Entries.keys values))
    (id : String) : (enabled values id).IsValid := h

/-- Where the configurations that were sent would be read, all of those of the request would be. -/
theorem isValid_of_given {q : ReportRequest}
    (given : ∀ configs ∈ q.strategyConfigurations, ∀ config ∈ configs, config.IsValid)
    {c : Catalog} (h : c.WellFormed) : ∀ config ∈ q.configurations c.get?, config.IsValid := by
  have none : WholeKeys (Entries.keys ([] : Entries Scalar)) := ⟨nofun, List.nodup_nil⟩
  intro config hconfig
  rcases List.mem_append.1 hconfig with selected | appended
  · rw [base] at selected
    split at selected
    · rename_i configs sent
      exact given configs sent config selected
    · obtain ⟨id, -, rfl⟩ := List.mem_map.1 selected
      cases found : c.get? id with
      | none => exact isValid_enabled none id
      | some s => exact isValid_enabled (Strategy.wholeKeys_defaults (h.isValid_of_get? found)) id
  · obtain ⟨id, -, rfl⟩ := List.mem_map.1 appended
    exact isValid_enabled none id

/-- Every configuration of an accepted request is one that would be read, wherever it comes from. -/
theorem isValid_configurations {p : Payload} {q : ReportRequest} (accepted : read p = .valid q)
    {c : Catalog} (h : c.WellFormed) : ∀ config ∈ q.configurations c.get?, config.IsValid := by
  obtain ⟨r, -, fields⟩ := read_eq_valid_iff.1 accepted
  exact isValid_of_given fields.isValid h

end ReportRequest

end PlanCompiler
