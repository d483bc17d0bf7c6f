import PlanCompiler.Proofs.Api.Reachable
import PlanCompiler.Proofs.Api.Routing

/-!
# Finding a strategy that was added

A strategy that is added under an id of its own is found under that id if the path leads to it.
Otherwise the path leads to other strategies, to the groups of the browsing view or nowhere, and no
reply from there looks like a strategy, since its payload does not begin with an id.

* `added_of_success`: what is added, and what is replied;
* `firstKey_of_not_addressable`: the replies under the ids that do not lead to a strategy;
* `added_found_iff_addressable`: one request after the other.
-/

namespace PlanCompiler.Api

open Schema

variable {s : State} {v : Service} {post get q : Request} {d : Draft} {id : String}

/-- Strategies are added under this path. -/
def additionPath : String :=
  "/api/strategies"

/-! ## Adding -/

/-- With the reply that a strategy was added, it is in the catalog under the id of the draft. -/
theorem added_of_success {reply : Reply} (valid : d.toStrategyBody.IsValid)
    (explicit : Service.explicitId d = some id)
    (replied : (concluded (v.add d) fun added => .json 201 added.write).1 = some reply)
    (success : reply.status < 300) :
    concluded (v.add d) (fun added => .json 201 added.write) =
      (some (.json 201 (d.toStrategy id).write),
        v.withCatalog (v.catalog.insert (d.toStrategy id))) := by
  rw [Service.add, explicit] at replied ⊢
  dsimp only at replied ⊢
  split at replied
  · obtain rfl := Option.some.inj replied
    exact absurd success (Nat.not_lt.2 (by decide : 300 ≤ 409))
  · rename_i free
    rw [if_neg free, Service.addUnder_eq v id valid]
    rfl

theorem get?_insert (c : Catalog) (d : Draft) (id : String) :
    (c.insert (d.toStrategy id)).get? id = some (d.toStrategy id) := by
  show Entries.get? (Entries.put _ _ _) id = _
  rw [Entries.get?_put]
  exact if_pos rfl

/-- What an accepted draft with an id of its own leads to. -/
theorem respond_of_added (asked : post.Sends additionPath Draft.read d)
    (explicit : Service.explicitId d = some id) (created : (handle s post).1.status = 201) :
    respond s post = (some (.json 201 (d.toStrategy id).write),
      s.service.withCatalog (s.service.catalog.insert (d.toStrategy id))) := by
  have found : dispatch .post additionPath = .found .addStrategy "" := by decide
  obtain ⟨p, -, read⟩ := asked.body
  obtain ⟨responded, reply, replied, success⟩ :=
    asked.respond_of_success found rfl (by rw [created]; decide)
  rw [responded]
  exact added_of_success (Draft.isValid_of_read read) explicit replied success

/-! ## What a reply looks like -/

/-- The first key of the record that a reply carries, if it carries one. -/
def Reply.firstKey (r : Reply) : Option String :=
  match r.content with
  | .json (.record ((key, _) :: _)) => some key
  | _ => none

@[simp] theorem firstKey_record (status : Nat) (key : String) (value : Payload)
    (rest : List (String × Payload)) :
    (Reply.json status (.record ((key, value) :: rest))).firstKey = some key := rfl

@[simp] theorem firstKey_list (status : Nat) (items : List Payload) :
    (Reply.json status (.list items)).firstKey = none := rfl

@[simp] theorem firstKey_detail (status : Nat) (text : String) :
    (Reply.detail status text).firstKey = some "detail" := rfl

/-- Encoding keeps the keys. -/
theorem firstKey_of_encodable {r sent : Reply} (h : r.encodable? = some sent) :
    sent.firstKey = r.firstKey := by
  obtain ⟨status, content, disposition, requestId⟩ := r
  rw [Reply.encodable?] at h
  cases content with
  | text mediaType value =>
    dsimp only at h
    split at h
    · cases h
      rfl
    · cases h
  | json value =>
    dsimp only at h
    split at h
    · obtain rfl := Option.some.inj h
      cases value with
      | record fields => cases fields <;> rfl
      | double value =>
        rw [Payload.finiteOrNull]
        split <;> rfl
      | _ => rfl
    · cases h

/-- A reply with a record is that of a handler. -/
theorem exists_reply_of_firstKey {key : String} (h : (handle s q).1.firstKey = some key) :
    ∃ reply, (respond s q).1 = some reply ∧ reply.firstKey = some key := by
  rcases handle_cases s q with failed | ⟨reply, sent, replied, kept, same⟩
  · rw [failed] at h
    cases h
  · rw [same] at h
    exact ⟨reply, replied, (firstKey_of_encodable kept).symm.trans h⟩

/-- What is replied does not look like a strategy. -/
def ShowsNoStrategy (handled : Handled) : Prop :=
  ∀ reply, handled.1 = some reply → reply.firstKey ≠ some "id"

namespace ShowsNoStrategy

theorem replied {reply : Reply} (ne : reply.firstKey ≠ some "id") (v : Service) :
    ShowsNoStrategy (replied v reply) :=
  fun _ same => Option.some.inj same ▸ ne

theorem withCatalog {next : Handled} (h : ShowsNoStrategy next) :
    ShowsNoStrategy (withCatalog q v next) := by
  rw [Api.withCatalog]
  split
  · exact h
  · exact .replied (by simp) v

theorem untyped {value : Payload} (ne : (Reply.json 200 value).firstKey ≠ some "id") :
    ShowsNoStrategy (untyped v value) := by
  rw [Api.untyped]
  split
  · exact .replied ne v
  · intro reply unforeseen
    cases unforeseen

/-- Strategies that are looked up in an index are shown as a list. -/
theorem concluded_readIndex (table : Index → Entries (List Strategy)) (key : String) :
    ShowsNoStrategy (concluded (v.readIndex table key) fun found =>
      .json 200 (strategyList found)) :=
  .replied (by simp [strategyList]) _

end ShowsNoStrategy

/-- Where an id leads that does not lead to a strategy, nothing looks like one. -/
theorem showsNoStrategy_answer {target : Target} {value : String}
    (shadows : target ∈ [.organized, .exportStrategies, .byCategory, .bySection, .bySubsection]) :
    ShowsNoStrategy (answer s q target value) := by
  simp only [List.mem_cons, List.not_mem_nil, or_false] at shadows
  rcases shadows with rfl | rfl | rfl | rfl | rfl
  · exact .withCatalog (.untyped (by simp))
  · exact .withCatalog (.untyped (by simp))
  · exact .withCatalog (.concluded_readIndex _ _)
  · exact .withCatalog (.concluded_readIndex _ _)
  · exact .withCatalog (.concluded_readIndex _ _)

/-- Under an id that does not lead to a strategy none is shown. -/
theorem firstKey_of_not_addressable (reads : get.Reads (strategyPath id)) (filled : id ≠ "")
    (h : ¬ IsAddressable id) : (handle s get).1.firstKey ≠ some "id" := by
  have responded : ShowsNoStrategy (respond s get) := by
    rw [respond, reads.method, reads.path]
    split
    · exact .replied (by simp) _
    · exact .replied (by simp) _
    · exact .replied (by decide) _
    · rename_i found
      exact showsNoStrategy_answer (target_of_not_addressable filled h found)
  intro alike
  obtain ⟨reply, replied, key⟩ := exists_reply_of_firstKey alike
  exact responded reply replied key

/-! ## One request after the other -/

/-- Under an id that leads to it a strategy is shown. -/
theorem shows_strategy {stored : Strategy} (reads : get.Reads (strategyPath id))
    (addressable : IsAddressable id) (there : s.service.catalog.get? id = some stored) :
    (handle s get).1.Shows 200 stored.write := by
  refine shows_handle ?_
  rw [reads.respond (dispatch_strategyPath addressable), answer, withCatalog,
    if_pos reads.hasCatalog, there]
  rfl

/-- A strategy that was added under an id of its own is replied as it was added, and it is found
under its id exactly if the id is one segment of a path and none of the names that stand for
something else. -/
theorem added_found_iff_addressable (asked : post.Sends additionPath Draft.read d)
    (explicit : Service.explicitId d = some id) (created : (handle s post).1.status = 201)
    (reads : get.Reads (strategyPath id)) :
    (handle s post).1.content = .json (d.toStrategy id).write.finiteOrNull ∧
    ((handle (handle s post).2 get).1.status = 200 ∧
      (handle (handle s post).2 get).1.content = .json (d.toStrategy id).write.finiteOrNull ↔
        IsAddressable id) := by
  have handled := respond_of_added asked explicit created
  have sent : (handle s post).1.Shows 201 (d.toStrategy id).write :=
    shows_handle (congrArg Prod.fst handled)
  have whole : (d.toStrategy id).write.isWhole = true := by
    by_contra broken
    rw [sent.failed (Bool.not_eq_true _ ▸ broken)] at created
    exact absurd created (by decide)
  refine ⟨(sent.shown whole).2, fun found => ?_, fun addressable => ?_⟩
  · by_contra shadowed
    have alike : (handle (handle s post).2 get).1.firstKey = some "id" := by
      rw [Reply.firstKey, found.2]
      rfl
    have filled := Service.ne_empty_of_explicitId explicit
    exact firstKey_of_not_addressable reads filled shadowed alike
  · have there : (handle s post).2.service.catalog.get? id = some (d.toStrategy id) := by
      show (respond s post).2.catalog.get? id = _
      rw [handled]
      exact get?_insert _ d id
    exact (shows_strategy reads addressable there).shown whole

/-- A strategy is to be added under the given id. -/
def sampleAddition (id : String) : Request :=
  { method := .post, path := additionPath
    body := .payload (.record [("id", .text id), ("title", .text "T"), ("content", .text "C")]) }

/-- A strategy is asked for. -/
def sampleStrategyRequest (id : String) : Request :=
  { method := .get, path := strategyPath id }

/-- A strategy is found under an id with a blank, and another one is not found under an id with a
slash. -/
theorem added_found_iff_addressable_sample :
    (handle (handle sampleState (sampleAddition "my id")).2
      (sampleStrategyRequest "my id")).1.content =
        (handle sampleState (sampleAddition "my id")).1.content ∧
    ¬ ((handle (handle sampleState (sampleAddition "a/b")).2
      (sampleStrategyRequest "a/b")).1.status = 200 ∧
      (handle (handle sampleState (sampleAddition "a/b")).2
        (sampleStrategyRequest "a/b")).1.content =
          (handle sampleState (sampleAddition "a/b")).1.content) := by
  have sends (id : String) : (sampleAddition id).Sends additionPath Draft.read _ :=
    ⟨rfl, rfl, _, rfl, rfl⟩
  have reads (id : String) : (sampleStrategyRequest id).Reads (strategyPath id) := ⟨rfl, rfl, rfl⟩
  have created : (handle sampleState (sampleAddition "my id")).1.status = 201 ∧
    (handle sampleState (sampleAddition "a/b")).1.status = 201 := by decide
  have blank := added_found_iff_addressable (sends "my id") rfl created.1 (reads "my id")
  have slash := added_found_iff_addressable (sends "a/b") rfl created.2 (reads "a/b")
  refine ⟨?_, ?_⟩
  · rw [blank.1]
    exact (blank.2.2 ⟨⟨by decide, by decide⟩, by decide⟩).2
  · rw [slash.1, slash.2]
    exact fun addressable => absurd addressable.whole (by decide)

/-- The path of a strategy that is called like the browsing view leads to the browsing view. -/
theorem shadowed_by_browsing :
    Reachable sampleState ∧ (handle sampleState (sampleAddition "organized")).1.status = 201 ∧
    (handle (handle sampleState (sampleAddition "organized")).2
      (sampleStrategyRequest "organized")).1.content ≠
        (handle sampleState (sampleAddition "organized")).1.content := by
  refine ⟨(Reachable.started Service.sample_reachable).handleAll _, by decide, fun same => ?_⟩
  have added : (handle sampleState (sampleAddition "organized")).1.firstKey = some "id" := by decide
  have alike : (handle (handle sampleState (sampleAddition "organized")).2
      (sampleStrategyRequest "organized")).1.firstKey = some "id" := by
    rw [Reply.firstKey, same]
    exact added
  have shadowed : ¬ IsAddressable "organized" := fun addressable => addressable.free (by decide)
  exact firstKey_of_not_addressable ⟨rfl, rfl, rfl⟩ (by decide) shadowed alike

end PlanCompiler.Api
