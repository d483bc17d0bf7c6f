import PlanCompiler.Proofs.Api.Reachable
import PlanCompiler.Proofs.Api.Routing
import PlanCompiler.Proofs.Service.Replay

/-!
# The list that a generated report leaves to its client

A request for a report that names a client leaves its configurations to that client, and whoever
reads the list of this client afterwards is shown them, without those of unknown strategies. The two
requests agree on who is meant as long as the client does not go by the name that stands for the
default client: a list is read under that name for the default client, but generated for a client
who is really called so.

* `generated_of_success`: what a request leaves behind that a report is generated for;
* `answer_getConfigs`: whose list is shown;
* `requested_list_shown`: one request after the other.
-/

namespace PlanCompiler.Api

open Schema

variable {s : State} {v : Service} {post get : Request} {q : ReportRequest} {client : String}

/-- Reports are generated under this path. -/
def reportPath : String :=
  "/api/reports/generate"

/-- With the reply that a report was generated, its configurations have been left to the client. -/
theorem generated_of_success {reply : Reply} (replied : (generated post v q).1 = some reply)
    (success : reply.status < 300) : (generated post v q).2.catalog = v.catalogWith q := by
  rw [generated] at replied ⊢
  dsimp only at replied ⊢
  split at replied
  · rename_i r answered
    obtain ⟨data, written, -⟩ := Service.answer_generate_eq_ok_iff.1 answered
    rw [Service.catalog_generate, written]
  · obtain rfl := Option.some.inj replied
    exact absurd success (by decide)

/-- An accepted request for a report is answered with the catalog that has its configurations. -/
theorem catalog_of_requested (asked : post.Sends reportPath ReportRequest.read q)
    (accepted : (handle s post).1.status = 200) :
    (handle s post).2.service.catalog = s.service.catalogWith q := by
  have found : dispatch .post reportPath = .found .generateReport "" := by decide
  obtain ⟨responded, reply, replied, success⟩ :=
    asked.respond_of_success found rfl (by rw [accepted]; decide)
  show (respond s post).2.catalog = _
  rw [responded]
  exact generated_of_success replied success

/-- The list is shown of whoever the name stands for. -/
theorem answer_getConfigs {value : String} (catalog : get.conditions.hasCatalog = true)
    (meant : (if value = currentClient then s.defaultClient else some value) = some client) :
    answer s get .getConfigs value =
      replied s.service (.json 200 (configList (s.service.catalog.configsOf client))) := by
  rw [answer, meant, withCatalog, if_pos catalog]
  rfl

/-- Reading the list under a name shows the list of whoever the name stands for. -/
theorem shows_configs {value : String} (reads : get.Reads (configsPath value))
    (segment : IsSegment value)
    (meant : (if value = currentClient then s.defaultClient else some value) = some client) :
    (handle s get).1.Shows 200 (configList (s.service.catalog.configsOf client)) := by
  refine shows_handle ?_
  rw [reads.respond (dispatch_configsPath segment), answer_getConfigs reads.hasCatalog meant]
  rfl

/-- After an accepted request for a report the client's list shows the configurations of the request
that are about known strategies. Only under the name that stands for the default client it still
shows what the default client had stored, unless that one goes by this very name. -/
theorem requested_list_shown (asked : post.Sends reportPath ReportRequest.read q)
    (named : q.clientId = some client) (segment : IsSegment client)
    (accepted : (handle s post).1.status = 200) (reads : get.Reads (configsPath client)) :
    ((client = currentClient → s.defaultClient = some client) →
      (handle (handle s post).2 get).1.Shows 200
        (configList (s.service.catalog.known (q.configurations s.service.find)))) ∧
    ∀ other, client = currentClient → s.defaultClient = some other → other ≠ client →
      (handle (handle s post).2 get).1.Shows 200
        (configList (s.service.catalog.configsOf other)) := by
  have catalog := catalog_of_requested asked accepted
  constructor
  · intro own
    have meant : (if client = currentClient then (handle s post).2.defaultClient else some client) =
        some client := by
      split
      · exact own ‹_›
      · rfl
    have shown := shows_configs reads segment meant
    rwa [catalog, Service.configsOf_catalogWith named segment.filled] at shown
  · intro other reserved default apart
    have meant : (if client = currentClient then (handle s post).2.defaultClient else some client) =
        some other := (if_pos reserved).trans default
    have shown := shows_configs reads segment meant
    have kept : (s.service.catalogWith q).configsOf other = s.service.catalog.configsOf other := by
      have ne : q.clientId ≠ some other := by
        rw [named]
        exact fun same => apart (Option.some.inj same).symm
      rw [Catalog.configsOf, Catalog.configsOf, Service.get?_clients_catalogWith ne]
    rwa [catalog, kept] at shown

/-- A report is asked for with the configurations of one strategy that is there and of one that is
not. -/
def sampleReportRequest (client : String) : Request :=
  { method := .post, path := reportPath
    body := .payload (.record [("clientData", .record []), ("clientId", .text client),
      ("strategyConfigurations", .list [Service.sampleConfig "a", Service.sampleConfig "b"])]) }

/-- The list of a client is asked for. -/
def sampleListRequest (client : String) : Request :=
  { method := .get, path := configsPath client }

/-- One configuration is left of those of the request. -/
theorem requested_list_shown_sample :
    (handle sampleState (sampleReportRequest "c")).1.status = 200 ∧
    (handle (handle sampleState (sampleReportRequest "c")).2 (sampleListRequest "c")).1.Shows 200
      (configList [⟨"a", true, []⟩]) := by
  have accepted : (handle sampleState (sampleReportRequest "c")).1.status = 200 := by decide
  have sends : (sampleReportRequest "c").Sends reportPath ReportRequest.read _ :=
    ⟨rfl, rfl, _, rfl, rfl⟩
  have reads : (sampleListRequest "c").Reads (configsPath "c") := ⟨rfl, rfl, rfl⟩
  have shown := requested_list_shown sends rfl ⟨by decide, by decide⟩ accepted reads
  exact ⟨accepted, shown.1 (by decide)⟩

/-- A list that was generated for a client called like the default client is stored, but not
shown. -/
theorem requested_list_not_shown :
    Reachable sampleState ∧
    (handle sampleState (sampleReportRequest currentClient)).1.status = 200 ∧
    Entries.get? (handle sampleState (sampleReportRequest currentClient)).2.service.catalog.clients
      currentClient = some [⟨"a", true, []⟩] ∧
    (handle (handle sampleState (sampleReportRequest currentClient)).2
      (sampleListRequest currentClient)).1.content = .json (configList []) :=
  ⟨(Reachable.started Service.sample_reachable).handleAll _, by decide, by decide, rfl⟩

end PlanCompiler.Api
