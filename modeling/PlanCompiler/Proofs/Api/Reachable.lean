import PlanCompiler.Proofs.Api.Reply

/-!
# Requests that change nothing

The states of the service behind its API are those that requests lead to from any state that it may
start in (`Reachable`), and in each of them the catalog is well-formed. A request that reads, or
that is refused with a status of the client's fault, leaves strategies, configurations and reports
as they were, because what it was refused for is known before anything is changed.

* `exists_refusal_of_handle`: a refusal is the reply of a handler;
* `Reachable.wellFormed`: what holds in every reachable state;
* `Reachable.harmless_request_changes_nothing`: requests that read or are refused.
-/

namespace PlanCompiler.Api

variable {v : Service} {q : Request} {s : State}

/-! ## Refusals -/

/-- A refusal that is sent was the reply of the handler: what goes wrong later is no fault of the
request. -/
theorem exists_refusal_of_handle (h : (handle s q).1.IsRefusal) :
    ∃ reply, (respond s q).1 = some reply ∧ reply.IsRefusal := by
  have foreseen : (handle s q).1.status ≠ 500 := Nat.ne_of_lt h.2
  obtain ⟨reply, replied, same⟩ := exists_reply_of_handle foreseen
  rw [Reply.IsRefusal, same] at h
  exact ⟨reply, replied, h⟩

theorem Effect.quiet_of_refusal {handled : Handled} {reply : Reply} (h : Effect v handled)
    (replied : handled.1 = some reply) (refusal : reply.IsRefusal) : Quiet v handled.2 := by
  cases h with
  | quiet same => exact same
  | changed change accepted =>
    cases replied
    exact absurd refusal accepted

/-! ## Reachable states -/

/-- The states of the service behind its API: it starts like any other service, answers requests,
and may lose the table of its reports. -/
inductive Reachable : State → Prop
  | started {s : State} (h : s.service.Reachable) : Reachable s
  | handled {s : State} (before : Reachable s) (q : Request) : Reachable (handle s q).2
  | tableLost {s : State} (before : Reachable s) : Reachable s.withoutTable

theorem Reachable.handleAll (h : Reachable s) (requests : List Request) :
    Reachable (handleAll s requests).2 := by
  induction requests generalizing s with
  | nil => exact h
  | cons q rest ih => exact ih (h.handled q)

/-- The catalog of a reachable state is well-formed. -/
theorem Reachable.wellFormed (h : Reachable s) : s.service.catalog.WellFormed := by
  induction h with
  | started h => exact h.wellFormed
  | handled _ q ih => exact (effect_respond ih q).change.wellFormed ih
  | tableLost _ ih => exact ih

/-! ## Requests that read or are refused -/

theorem Reachable.quiet_handle (h : Reachable s)
    (harmless : q.method = .get ∨ (handle s q).1.IsRefusal) :
    Quiet s.service (handle s q).2.service := by
  rcases harmless with get | refused
  · exact quiet_respond s get
  · obtain ⟨reply, replied, refusal⟩ := exists_refusal_of_handle refused
    exact (effect_respond h.wellFormed q).quiet_of_refusal replied refusal

/-- In every reachable state, a request that reads or is refused leaves the strategies in their
order, the configurations of every client and the reports as they were. -/
theorem Reachable.harmless_request_changes_nothing (h : Reachable s)
    (harmless : q.method = .get ∨ (handle s q).1.IsRefusal) :
    (handle s q).2.service.catalog.entries = s.service.catalog.entries ∧
      (handle s q).2.service.catalog.clients = s.service.catalog.clients ∧
      (handle s q).2.service.archive = s.service.archive := by
  have quiet := h.quiet_handle harmless
  exact ⟨quiet.entries, quiet.clients, quiet.archive⟩

/-- The state after a list was saved for a client. -/
def sampleState : State :=
  (handleAll { service := Service.sample }
    [{ method := .post, path := "/api/client-strategy-configs/c"
       body := .payload (.list [Service.sampleConfig "a"]) }]).2

/-- A strategy that no user wrote is to be deleted like one that a user wrote. -/
def sampleDeletion : Request :=
  { method := .delete, path := "/api/custom-strategies/a" }

/-- The strategies of a category are asked for. -/
def sampleReading : Request :=
  { method := .get, path := "/api/strategies/category/tax" }

/-- The deletion finds nothing, and the strategies that are asked for are found in rebuilt
indices. -/
theorem Reachable.harmless_request_changes_nothing_sample :
    (handle sampleState sampleDeletion).1.status = 404 ∧
    (handle sampleState sampleDeletion).2.service.catalog.clients =
      sampleState.service.catalog.clients ∧
    sampleState.service.catalog.freshness = .dirty ∧
    (handle sampleState sampleReading).2.service.catalog.freshness = .fresh ∧
    (handle sampleState sampleReading).2.service.catalog.entries =
      sampleState.service.catalog.entries := by
  have reachable : Reachable sampleState := (Reachable.started Service.sample_reachable).handleAll _
  refine ⟨by decide, ?_, by decide, by decide, ?_⟩
  · exact (reachable.harmless_request_changes_nothing (.inr (by decide))).2.1
  · exact (reachable.harmless_request_changes_nothing (.inl rfl)).1

end PlanCompiler.Api
