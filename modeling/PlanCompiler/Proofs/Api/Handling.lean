import PlanCompiler.Api.Handler
import PlanCompiler.Proofs.Service.Reachable

/-!
# What a request does to the service

A request that only reads leaves everything but the indices as it was (`Quiet`), and every other one
either does the same or makes one change of the catalog and is not refused (`Effect`). Each way of
putting a handler together is gone through once, then each target.

* `withBody_cases`, `withCatalog_cases`, `forClient_cases`: what a handler has to show;
* `effect_concluded`: the reply to an operation that makes one whole change or none;
* `quiet_respond`, `effect_respond`: every request.
-/

namespace PlanCompiler

open Schema

namespace Api

/-- What a request that changes nothing leaves behind: the indices may have been rebuilt, numbers
and points in time may have been drawn. -/
structure Quiet (v w : Service) : Prop where
  catalog : w.catalog = v.catalog ∨ w.catalog = v.catalog.refreshed
  archive : w.archive = v.archive
  listLimit : w.listLimit = v.listLimit

/-- The status says that the request was at fault. -/
def Reply.IsRefusal (r : Reply) : Prop :=
  400 ≤ r.status ∧ r.status < 500

instance (r : Reply) : Decidable r.IsRefusal :=
  inferInstanceAs (Decidable (_ ∧ _))

/-- What a request may do: nothing, or one change of the catalog that it is not refused. -/
inductive Effect (v : Service) : Handled → Prop
  | quiet {reply? : Option Reply} {w : Service} (same : Quiet v w) : Effect v (reply?, w)
  | changed {reply : Reply} {w : Service} (change : Catalog.Change v.catalog w.catalog)
    (accepted : ¬ reply.IsRefusal) : Effect v (some reply, w)

variable {v w : Service} {q : Request}

theorem Quiet.refl (v : Service) : Quiet v v :=
  ⟨.inl rfl, rfl, rfl⟩

theorem Quiet.entries (h : Quiet v w) : w.catalog.entries = v.catalog.entries := by
  rcases h.catalog with same | same <;> rw [same]
  exact Catalog.entries_refreshed _

theorem Quiet.clients (h : Quiet v w) : w.catalog.clients = v.catalog.clients := by
  rcases h.catalog with same | same <;> rw [same]
  exact Catalog.clients_refreshed _

theorem Quiet.change (h : Quiet v w) : Catalog.Change v.catalog w.catalog := by
  rcases h.catalog with same | same <;> rw [same]
  · exact .keep
  · exact .refresh

theorem Effect.change {handled : Handled} (h : Effect v handled) :
    Catalog.Change v.catalog handled.2.catalog := by
  cases h with
  | quiet same => exact same.change
  | changed change _ => exact change

/-! ## How handlers are put together -/

theorem snd_rejected (v : Service) (issues : List Issue) : (rejected v issues).2 = v := by
  rw [rejected]
  split <;> rfl

theorem snd_untyped (v : Service) (value : Payload) : (untyped v value).2 = v := by
  rw [untyped]
  split <;> rfl

theorem snd_reportOr (v : Service) (id : String) (render : StoredReport → Except Refusal Reply) :
    (reportOr v id render).2 = v := by
  rw [reportOr]
  split <;> rfl

theorem snd_reportList (v : Service) : (reportList v).2 = v := by
  rw [reportList]
  split <;> rfl

section Cases

variable {P : Handled → Prop} (same : ∀ reply?, P (reply?, v))

include same

theorem of_snd_eq {handled : Handled} (h : handled.2 = v) : P handled := by
  obtain ⟨reply?, w⟩ := handled
  subst h
  exact same reply?

theorem withCatalog_cases {next : Handled} (h : P next) : P (withCatalog q v next) := by
  rw [withCatalog]
  split
  · exact h
  · exact same _

theorem withReports_cases {next : Handled} (h : P next) : P (withReports q v next) := by
  rw [withReports]
  split
  · exact same _
  · exact h

theorem forClient_cases {client? : Option String} {next : String → Handled}
    (h : ∀ client, P (next client)) : P (forClient v client? next) := by
  cases client? with
  | some client => exact h client
  | none => exact same _

/-- A body that is not accepted leads to no change. -/
theorem withBody_cases {α : Type} {read : Payload → Checked α} {next : α → Handled}
    (h : ∀ p a, read p = .valid a → P (next a)) : P (withBody q v read next) := by
  rw [withBody]
  split
  · exact same _
  · split
    · exact same _
    · split
      · exact of_snd_eq same (snd_rejected v _)
      · split
        · exact h _ _ ‹_›
        · exact of_snd_eq same (snd_rejected v _)

end Cases

/-- An answer with a status of success is no refusal. -/
theorem accepted_json {status : Nat} (h : status < 400) (value : Payload) :
    ¬ (Reply.json status value).IsRefusal :=
  fun refusal => Nat.not_lt.2 refusal.1 h

theorem Effect.refl (reply? : Option Reply) : Effect v (reply?, v) :=
  .quiet (Quiet.refl v)

/-- An operation that makes something in one piece or nothing is refused only if it makes
nothing. -/
theorem effect_concluded {α : Type} {missing : α → Prop} {makes : α → Catalog → Prop}
    {o : Outcome α} {render : α → Reply} (whole : Outcome.Whole v missing makes o)
    (change : ∀ a c, makes a c → Catalog.Change v.catalog c)
    (accepted : ∀ a, ¬ missing a → ¬ (render a).IsRefusal) : Effect v (concluded o render) := by
  cases whole with
  | made answered there made service =>
    rw [concluded, answered, service]
    exact .changed (change _ _ made) (accepted _ there)
  | @kept serial _ _ service =>
    have same (reply? : Option Reply) : Effect v (reply?, { v with serial }) :=
      .quiet ⟨.inl rfl, rfl, rfl⟩
    rw [concluded, service]
    split
    · exact same _
    · exact of_snd_eq same (snd_rejected _ _)
    · exact same _
    · exact same _

theorem effect_generated (request : ReportRequest) : Effect v (generated q v request) := by
  rw [generated]
  dsimp only
  split
  · exact .changed (Service.change_generate _ request) (accepted_json (by decide) _)
  · exact .changed (Service.change_generate _ request) (by decide)

/-! ## What is asked for -/

/-- The target is only to be read. -/
def Target.reads : Target → Bool
  | .importStrategies | .addStrategy | .updateStrategy | .deleteStrategy | .addCustom
  | .updateCustom | .deleteCustom | .saveConfigs | .generateReport => false
  | _ => true

variable {s : State} {target : Target} {value : String}

/-- What is read by key rebuilds the indices at most. -/
theorem quiet_readIndex (table : Index → Entries (List Strategy)) (key : String)
    (render : List Strategy → Reply) : Quiet v (concluded (v.readIndex table key) render).2 :=
  ⟨.inr rfl, rfl, rfl⟩

theorem quiet_answer (reads : target.reads = true) :
    Quiet s.service (answer s q target value).2 := by
  have same (reply? : Option Reply) : Quiet s.service (reply?, s.service).2 := Quiet.refl _
  have unchanged {handled : Handled} (h : handled.2 = s.service) : Quiet s.service handled.2 :=
    h ▸ Quiet.refl _
  cases target with
  | manual | health => exact same _
  | ready | listStrategies | getStrategy | listCustom =>
    exact withCatalog_cases (P := fun h => Quiet _ h.2) same (same _)
  | organized | exportStrategies =>
    exact withCatalog_cases (P := fun h => Quiet _ h.2) same (unchanged (snd_untyped _ _))
  | byCategory | bySection | bySubsection =>
    exact withCatalog_cases (P := fun h => Quiet _ h.2) same (quiet_readIndex _ _ _)
  | getConfigs =>
    exact withCatalog_cases (P := fun h => Quiet _ h.2) same
      (forClient_cases (P := fun h => Quiet _ h.2) same fun _ => same _)
  | listReports =>
    exact withReports_cases (P := fun h => Quiet _ h.2) same (unchanged (snd_reportList _))
  | getReport | exportReport =>
    exact withReports_cases (P := fun h => Quiet _ h.2) same (unchanged (snd_reportOr _ _ _))
  | _ => cases reads

/-- A strategy that is there is shown. -/
theorem accepted_strategyOr (missing : String) {s? : Option Strategy} (there : s? ≠ none) :
    ¬ (strategyOr missing s?).IsRefusal := by
  cases s? with
  | none => exact absurd rfl there
  | some s => exact accepted_json (by decide) _

theorem accepted_deletedOr (missing done : String) {deleted : Bool} (there : deleted ≠ false) :
    ¬ (deletedOr missing done deleted).IsRefusal := by
  cases deleted with
  | false => exact absurd rfl there
  | true => exact accepted_json (by decide) _

theorem effect_answer (h : s.service.catalog.WellFormed) :
    Effect s.service (answer s q target value) := by
  have same (reply? : Option Reply) : Effect s.service (reply?, s.service) := Effect.refl _
  cases reads : target.reads with
  | true => exact .quiet (quiet_answer reads)
  | false =>
    cases target with
    | importStrategies =>
      refine withBody_cases same fun p drafts hread => ?_
      have valid := Draft.forall_mem_of_readBatch (fun _ _ => Draft.isValid_of_read) hread
      exact effect_concluded (Service.whole_importDrafts valid) (fun _ _ h => h.change valid)
        fun _ _ => accepted_json (by decide) _
    | addStrategy =>
      refine withBody_cases same fun p draft hread => ?_
      have valid := Draft.isValid_of_read hread
      exact effect_concluded (Service.whole_add valid) (fun _ _ h => h.change valid)
        fun _ _ => accepted_json (by decide) _
    | updateStrategy =>
      refine withBody_cases same fun p revision hread => ?_
      exact effect_concluded (Service.whole_update value revision)
        (fun _ _ ⟨_, _, revises⟩ => revises.change h hread) fun _ => accepted_strategyOr _
    | deleteStrategy =>
      refine withCatalog_cases same ?_
      exact effect_concluded (Service.whole_delete value) (fun _ _ ⟨_, removes⟩ => removes.change)
        fun _ => accepted_deletedOr _ _
    | addCustom =>
      refine withBody_cases same fun p c _ => ?_
      exact effect_concluded (Service.whole_addCustom c.title _ _) (fun _ _ h => h.change)
        fun _ _ => accepted_json (by decide) _
    | updateCustom =>
      refine withBody_cases same fun p c _ => ?_
      refine effect_concluded (Service.whole_updateCustom value _) (fun _ _ made => ?_)
        fun _ => accepted_strategyOr _
      obtain ⟨_, _, -, read, revises⟩ := made
      exact revises.change h (Schema.Model.named_eq_ok_iff.1 read)
    | deleteCustom =>
      refine withCatalog_cases same ?_
      exact effect_concluded (Service.whole_removeCustom value)
        (fun _ _ ⟨_, removes⟩ => removes.change) fun _ => accepted_deletedOr _ _
    | saveConfigs =>
      refine withBody_cases same fun p configs _ => forClient_cases same fun client => ?_
      exact effect_concluded (Service.whole_saveConfigs client configs)
        (fun _ _ ⟨_, stored⟩ => stored ▸ .store _ _) fun _ _ => accepted_json (by decide) _
    | generateReport => exact withBody_cases same fun _ request _ => effect_generated request
    | _ => cases reads

/-! ## Every request -/

/-- What a path leads to stands in the table of routes, and the path fits it. -/
theorem exists_route_of_found {method : Method} {path : String}
    (h : dispatch method path = .found target value) :
    ∃ route ∈ routes, route.method = method ∧ route.target = target ∧
      ∃ segments, segments? path.toList = some segments ∧
        fit? route.path segments = some value := by
  rw [dispatch] at h
  split at h
  · rename_i route parameter found
    obtain ⟨rfl, rfl⟩ := Dispatch.found.inj h
    have own : decide (route.method = method) = true := by
      simpa only using List.find?_some found
    have fits := List.mem_of_find?_eq_some found
    rw [fitting] at fits
    split at fits
    · cases fits
    · rename_i segments split
      obtain ⟨other, mem, hfit⟩ := List.mem_filterMap.1 fits
      obtain ⟨_, fit, same⟩ := Option.map_eq_some_iff.1 hfit
      obtain ⟨rfl, rfl⟩ := Prod.mk.inj same
      exact ⟨other, mem, of_decide_eq_true own, rfl, segments, split, fit⟩
  · split at h
    · cases h
    · split at h <;> cases h

theorem reads_of_get : ∀ route ∈ routes, route.method = .get → route.target.reads = true := by
  decide

theorem quiet_respond (s : State) (get : q.method = .get) :
    Quiet s.service (respond s q).2 := by
  rw [respond]
  split
  · exact Quiet.refl _
  · exact Quiet.refl _
  · exact Quiet.refl _
  · rename_i found
    obtain ⟨route, mem, method, rfl, -⟩ := exists_route_of_found found
    exact quiet_answer (reads_of_get route mem (method.trans get))

theorem effect_respond {s : State} (h : s.service.catalog.WellFormed) (q : Request) :
    Effect s.service (respond s q) := by
  rw [respond]
  split
  · exact Effect.refl _
  · exact Effect.refl _
  · exact Effect.refl _
  · exact effect_answer h

end Api

end PlanCompiler
