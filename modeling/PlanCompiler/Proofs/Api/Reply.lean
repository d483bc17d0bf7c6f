import PlanCompiler.Proofs.Api.Handling

/-!
# The reply that is sent

What a handler replies is encoded before it is sent. A reply in JSON is sent as it is, without the
numbers that JSON cannot carry, or not at all if a text in it holds a lone surrogate (`Shows`). So
every reply that does not tell of a failure is that of a handler.

* `shows_handle`, `exists_reply_of_handle`: from the handler's reply to the one that is sent and
  back;
* `Request.Sends`, `Request.Reads`: requests with a value in their body and requests without one;
* `Request.Sends.respond_of_success`: what was done for a request that succeeded.
-/

namespace PlanCompiler.Api

open Schema

variable {s : State} {q : Request} {reply sent : Reply}

/-- A value is shown with the given status, or a failure is told of because the value holds a lone
surrogate. -/
structure Reply.Shows (r : Reply) (status : Nat) (value : Payload) : Prop where
  shown : value.isWhole = true → r.status = status ∧ r.content = .json value.finiteOrNull
  failed : value.isWhole = false → r.status = 500

theorem status_of_encodable {r sent : Reply} (h : r.encodable? = some sent) :
    sent.status = r.status := by
  rw [Reply.encodable?] at h
  split at h
  · split at h
    · cases h
      rfl
    · cases h
  · split at h
    · cases h
      rfl
    · cases h

theorem reply_handle (s : State) (q : Request) :
    (handle s q).1 = (((respond s q).1.bind (·.encodable?)).map fun reply =>
      { reply with requestId := some (identify s q).1 }).getD Reply.internalError := rfl

theorem handle_of_encodable (replied : (respond s q).1 = some reply)
    (encoded : reply.encodable? = some sent) :
    (handle s q).1 = { sent with requestId := some (identify s q).1 } := by
  rw [reply_handle, replied, Option.bind_some, encoded]
  rfl

theorem handle_of_not_encodable (unsent : (respond s q).1.bind (·.encodable?) = none) :
    (handle s q).1 = .internalError := by
  rw [reply_handle, unsent]
  rfl

/-- A reply in JSON shows its value. -/
theorem shows_handle {status : Nat} {value : Payload}
    (replied : (respond s q).1 = some (.json status value)) :
    (handle s q).1.Shows status value where
  shown whole := by
    have encoded : (Reply.json status value).encodable? = some (.json status value.finiteOrNull) :=
      if_pos whole
    rw [handle_of_encodable replied encoded]
    exact ⟨rfl, rfl⟩
  failed broken := by
    have unencoded : (Reply.json status value).encodable? = none :=
      if_neg (Bool.not_eq_true _ ▸ broken)
    rw [handle_of_not_encodable (by rw [replied, Option.bind_some, unencoded])]
    rfl

/-- What is sent is the encoded reply of a handler or tells of a failure. -/
theorem handle_cases (s : State) (q : Request) :
    (handle s q).1 = .internalError ∨ ∃ reply sent, (respond s q).1 = some reply ∧
      reply.encodable? = some sent ∧
      (handle s q).1 = { sent with requestId := some (identify s q).1 } := by
  cases encoded : (respond s q).1.bind (·.encodable?) with
  | none => exact .inl (handle_of_not_encodable encoded)
  | some sent =>
    obtain ⟨reply, replied, kept⟩ := Option.bind_eq_some_iff.1 encoded
    exact .inr ⟨reply, sent, replied, kept, handle_of_encodable replied kept⟩

/-- A reply that does not tell of a failure is that of a handler. -/
theorem exists_reply_of_handle (foreseen : (handle s q).1.status ≠ 500) :
    ∃ reply, (respond s q).1 = some reply ∧ (handle s q).1.status = reply.status := by
  rcases handle_cases s q with failed | ⟨reply, sent, replied, kept, same⟩
  · rw [failed] at foreseen
    exact absurd rfl foreseen
  · refine ⟨reply, replied, ?_⟩
    rw [same]
    show sent.status = reply.status
    exact status_of_encodable kept

/-! ## What a request carries -/

/-- A value is sent to a path. -/
structure Request.Sends {α : Type} (q : Request) (path : String) (read : Payload → Checked α)
    (a : α) : Prop where
  method : q.method = .post
  path : q.path = path
  body : ∃ p, readBody q = .ok (some p) ∧ read p = .valid a

/-- A path is read while the catalog is there. -/
structure Request.Reads (q : Request) (path : String) : Prop where
  method : q.method = .get
  path : q.path = path
  hasCatalog : q.conditions.hasCatalog = true

variable {α : Type} {read : Payload → Checked α} {a : α} {path value : String} {target : Target}

theorem Request.Reads.respond (h : q.Reads path)
    (found : dispatch .get path = .found target value) :
    respond s q = answer s q target value := by
  rw [Api.respond, h.method, h.path, found]

/-- What is asked for with a value is done, or there is no catalog. -/
theorem Request.Sends.withBody (h : q.Sends path read a) {next : α → Handled} {v : Service} :
    withBody q v read next = withCatalog q v (next a) := by
  obtain ⟨p, body, valid⟩ := h.body
  rw [Api.withBody, body, withCatalog]
  cases q.conditions.hasCatalog with
  | true =>
    dsimp only [Bool.not_true, Bool.false_eq_true, if_false]
    rw [valid]
    rfl
  | false => rfl

/-- Without a catalog there is no success. -/
theorem withCatalog_of_success {v : Service} {next : Handled}
    (replied : (withCatalog q v next).1 = some reply) (success : reply.status < 300) :
    withCatalog q v next = next := by
  rw [withCatalog] at replied ⊢
  split at replied
  · exact if_pos ‹_›
  · obtain rfl := Option.some.inj replied
    exact absurd success (by decide)

/-- With a reply of success, what was asked for with a value was done. -/
theorem Request.Sends.respond_of_success (h : q.Sends path read a)
    (found : dispatch .post path = .found target value) {next : α → Handled}
    (handler : answer s q target value = Api.withBody q s.service read next)
    (success : (handle s q).1.status < 300) :
    respond s q = next a ∧ ∃ reply, (next a).1 = some reply ∧ reply.status < 300 := by
  have responded : respond s q = withCatalog q s.service (next a) := by
    rw [respond, h.method, h.path, found]
    exact handler.trans h.withBody
  have foreseen : (handle s q).1.status ≠ 500 := by omega
  obtain ⟨reply, replied, status⟩ := exists_reply_of_handle foreseen
  rw [status] at success
  rw [responded] at replied ⊢
  have done := withCatalog_of_success replied success
  rw [done] at replied ⊢
  exact ⟨rfl, reply, replied, success⟩

end PlanCompiler.Api
