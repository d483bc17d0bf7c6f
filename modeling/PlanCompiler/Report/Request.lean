import PlanCompiler.Client.Data

/-!
# Report requests

A request to compile a plan: the client's data, and the selection of strategies, either as a list
of configurations or, in the older form, as a list of ids. Both forms come down to a list of
configurations, to which are added the custom strategies that were selected beside them.

* `ReportRequest.read`, `ReportRequest.write`: a request;
* `base`: the given configurations, or one enabled configuration with default values per id;
* `configurations`: the base, then the custom strategies that it does not mention.
-/

namespace PlanCompiler

open Schema

/-- A request to compile and store a report. -/
structure ReportRequest where
  clientData : ClientData
  clientId : Option String := none
  strategyConfigurations : Option (List ClientConfig) := none
  selectedStrategyIds : Option (List String) := none
  selectedCustomStrategyIds : Option (List String) := none
  deriving Repr

namespace ReportRequest

/-- One of the two forms of a selection is there. -/
def hasSelection (q : ReportRequest) : Bool :=
  q.strategyConfigurations.isSome || q.selectedStrategyIds.isSome

/-- Read a request. That it has a selection is checked last. -/
def read (p : Payload) : Checked ReportRequest :=
  (readRecord p).andThen fun r =>
    let fields := ReportRequest.mk <$> mandatory r Key.clientData ClientData.read
      <*> nullable r Key.clientId readText
      <*> nullable r Key.strategyConfigurations (readList ClientConfig.read)
      <*> nullable r Key.selectedStrategyIds (readList readText)
      <*> nullable r Key.selectedCustomStrategyIds (readList readText)
    fields.ensure hasSelection (.brokenRule .selectionRequired) p

/-- Write the selection of a request. -/
def writeSelection (q : ReportRequest) : Entries Payload :=
  [(Key.clientId.wire, .ofOption .text q.clientId),
    (Key.strategyConfigurations.wire,
      .ofOption (fun cs => .list (cs.map ClientConfig.write)) q.strategyConfigurations),
    (Key.selectedStrategyIds.wire, .ofOption .ofTexts q.selectedStrategyIds),
    (Key.selectedCustomStrategyIds.wire, .ofOption .ofTexts q.selectedCustomStrategyIds)]

/-- Write a request. -/
def write (mode : WriteMode) (q : ReportRequest) : Except WriteFault Payload :=
  (q.clientData.write mode).map fun data =>
    .record ((Key.clientData.wire, data) :: q.writeSelection)

end ReportRequest

/-- What a request is answered with: the text of the report and the id it is stored under. -/
structure CompiledReport where
  report : String
  reportId : String
  deriving DecidableEq, Repr

namespace CompiledReport

/-- Read a compiled report. -/
def read (p : Payload) : Checked CompiledReport :=
  (readRecord p).andThen fun r =>
    CompiledReport.mk <$> mandatory r Key.report readText <*> mandatory r Key.reportId readText

/-- Write a compiled report. -/
def write (c : CompiledReport) : Payload :=
  .record [(Key.report.wire, .text c.report), (Key.reportId.wire, .text c.reportId)]

end CompiledReport

/-! ## The selection -/

/-- The default values of a strategy's fields. -/
def Strategy.defaults (s : Strategy) : Entries Scalar :=
  Entries.putAll [] (s.inputFields.filterMap fun f => f.defaultValue.map fun v => (f.id, v))

namespace ReportRequest

/-- An enabled configuration. -/
def enabled (inputValues : Entries Scalar) (strategyId : String) : ClientConfig :=
  { strategyId, isEnabled := true, inputValues }

/-- The configurations that the selection stands for. -/
def base (q : ReportRequest) (find : String → Option Strategy) : List ClientConfig :=
  match q.strategyConfigurations with
  | some configs => configs
  | none => (q.selectedStrategyIds.getD []).map fun id =>
      enabled (((find id).map Strategy.defaults).getD []) id

/-- The selected custom strategies that the configurations do not mention, each once. -/
def appended (q : ReportRequest) (configs : List ClientConfig) : List ClientConfig :=
  ((q.selectedCustomStrategyIds.getD []).eraseDups.filter fun id =>
    !(configs.map (·.strategyId)).contains id).map (enabled [])

/-- The configurations of a request. -/
def configurations (q : ReportRequest) (find : String → Option Strategy) : List ClientConfig :=
  q.base find ++ q.appended (q.base find)

end ReportRequest

end PlanCompiler
