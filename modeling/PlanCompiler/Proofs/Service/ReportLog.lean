import PlanCompiler.Proofs.Report.Archive
import PlanCompiler.Proofs.Service.Reachable

/-!
# The log of reports

Whatever is done with the catalog, the archive holds just the reports that were stored, in the order
in which they were stored, each as it was answered at that time. A listing shows that log from its
end. An attempt that the storage refuses adds nothing, and stops the storage from answering until
the work that it belonged to is given up.

* `Command.attempt?`: what a command is answered that stores a report;
* `Turn`: a command, or the end of interrupted work; `Service.collected`: the log of a run;
* `Collects`, `collects_run`: what one command does to the archive;
* `ShowsLog`: what is found and listed;
* `Reachable.reports_form_log`: the archive after any run.
-/

namespace PlanCompiler

open Schema

/-- What a command is answered when it attempts to store a report, if it does. -/
def Command.attempt? (v : Service) : Command → Option (Except Refusal StoredReport)
  | .generate down request =>
    match ReportRequest.read request with
    | .valid q => some (v.generate down q).answer
    | .invalid _ => none
  | .saveReport clientId clientData configurations text =>
    some (v.saveReport none clientId clientData configurations text).answer
  | _ => none

/-- What happens while reports are collected: a command is run, or the work that a failure has
interrupted is given up. -/
inductive Turn
  | run (command : Command)
  | giveUp

namespace Turn

/-- The state after a turn. -/
def next (v : Service) : Turn → Service
  | .run command => (command.run v).service
  | .giveUp => { v with archive := v.archive.reopened }

/-- What is answered in a turn that attempts to store a report. -/
def attempt? (v : Service) : Turn → Option (Except Refusal StoredReport)
  | .run command => command.attempt? v
  | .giveUp => none

end Turn

namespace Service

/-- The state after a run. -/
def afterTurns (v : Service) (turns : List Turn) : Service :=
  turns.foldl Turn.next v

/-- What the attempts of a run to store a report were answered, in their order. -/
def attempts (v : Service) : List Turn → List (Except Refusal StoredReport)
  | [] => []
  | turn :: rest => (turn.attempt? v).toList ++ (turn.next v).attempts rest

/-- The reports that were stored in a run, as they were answered. -/
def collected (v : Service) (turns : List Turn) : List StoredReport :=
  (v.attempts turns).filterMap (·.toOption)

/-- The service for new work, whatever interrupted the work before. -/
def renewed (v : Service) : Service :=
  { v with archive := v.archive.reopened }

/-! ## One step -/

/-- What attempts to store reports do to the archive, with whatever else happens meanwhile. -/
structure Collects (v : Service) (attempts : List (Except Refusal StoredReport)) (w : Service) :
    Prop where
  /-- The reports that were stored go to the end. -/
  reports : w.archive.reports = v.archive.reports ++ attempts.filterMap (·.toOption)
  distinct : v.archive.HasDistinctIds → w.archive.HasDistinctIds
  /-- Only the storage interrupts, when it refuses a report. -/
  opened : v.archive.interruption = none → (∀ fault, .error (.storage fault) ∉ attempts) →
    w.archive.interruption = none
  listLimit : w.listLimit = v.listLimit

variable {v w : Service}

theorem collects_of_same (archive : w.archive = v.archive) (listLimit : w.listLimit = v.listLimit) :
    v.Collects [] w where
  reports := by rw [archive]; exact (List.append_nil _).symm
  distinct := by rw [archive]; exact id
  opened := by rw [archive]; exact fun opened _ => opened
  listLimit := listLimit

theorem collects_of_refused {fault : StorageFault} (reports : w.archive.reports = v.archive.reports)
    (listLimit : w.listLimit = v.listLimit) : v.Collects [.error (.storage fault)] w where
  reports := by rw [reports]; exact (List.append_nil _).symm
  distinct := by rw [Archive.HasDistinctIds, Archive.HasDistinctIds, reports]; exact id
  opened _ taken := absurd List.mem_cons_self (taken fault)
  listLimit := listLimit

/-- What is asked of the catalog before does not matter to the archive. -/
theorem Collects.of_withCatalog {c : Catalog} {attempts : List (Except Refusal StoredReport)}
    (h : (v.withCatalog c).Collects attempts w) : v.Collects attempts w :=
  ⟨h.reports, h.distinct, h.opened, h.listLimit⟩

theorem collects_saveReport (v : Service) (down : Option String)
    (clientId clientData configurations text : Payload) :
    v.Collects [(v.saveReport down clientId clientData configurations text).answer]
      (v.saveReport down clientId clientData configurations text).service := by
  rw [saveReport]
  split
  · exact collects_of_refused rfl rfl
  · exact collects_of_refused rfl rfl
  · dsimp only
    split
    · rename_i saved
      obtain ⟨rfl, free⟩ := Archive.save_appends saved
      exact ⟨rfl, fun distinct => Archive.hasDistinctIds_append distinct free,
        fun opened _ => opened, rfl⟩
    · exact collects_of_refused rfl rfl

/-- A report is stored with the data and the configurations that it is given. -/
theorem parts_of_saveReport {down : Option String}
    {clientId clientData configurations text : Payload} {r : StoredReport}
    (h : (v.saveReport down clientId clientData configurations text).answer = .ok r) :
    r.clientData = clientData ∧ r.configurations = configurations := by
  rw [saveReport] at h
  split at h
  · cases h
  · cases h
  · dsimp only at h
    split at h
    · rename_i saved
      cases h
      exact Archive.parts_of_save saved
    · cases h

theorem collects_generate (v : Service) (down : Option String) (q : ReportRequest) :
    v.Collects [(v.generate down q).answer] (v.generate down q).service := by
  cases written : q.clientData.write .stored with
  | error fault =>
    rw [generate_of_unwritable written]
    exact ⟨(List.append_nil _).symm, id, fun opened _ => opened, rfl⟩
  | ok data =>
    rw [(generate_of_written written).1, (generate_of_written written).2]
    exact .of_withCatalog (collects_saveReport (v.withCatalog (v.catalogWith q)) _ _ _ _ _)

end Service

namespace Command

open Service (Collects collects_of_same)

/-- Only a command that is to store a report attempts to. -/
theorem attempt?_of_quiet {command : Command} (v : Service)
    (quiet : (command.isEdit || command.isRead || command.isSetting) = true) :
    command.attempt? v = none := by
  cases command with
  | generate _ _ | saveReport _ _ _ _ => cases quiet
  | _ => rfl

/-- What a command does to the archive. -/
theorem collects_run (v : Service) (command : Command) :
    v.Collects (command.attempt? v).toList (command.run v).service := by
  cases step_run v command with
  | edit edit whole =>
    rw [attempt?_of_quiet v (by simp [edit])]
    cases whole with
    | made _ _ _ service | kept _ _ service => exact service ▸ collects_of_same rfl rfl
  | read reads service =>
    rw [attempt?_of_quiet v (by simp [reads]), service]
    exact collects_of_same rfl rfl
  | generate read service =>
    rw [attempt?, read, service]
    exact Service.collects_generate v _ _
  | declined read service =>
    rw [attempt?, read, service]
    exact collects_of_same rfl rfl
  | saveReport service =>
    rw [service]
    exact Service.collects_saveReport v none _ _ _ _
  | set _ _ sets service =>
    rw [attempt?_of_quiet v (by simp [sets]), service]
    exact collects_of_same rfl rfl

end Command

/-! ## Runs -/

namespace Service

variable {u v w start : Service} {turns : List Turn}

/-- Attempts after other attempts. -/
theorem Collects.append {before later : List (Except Refusal StoredReport)}
    (first : u.Collects before v) (second : v.Collects later w) :
    u.Collects (before ++ later) w where
  reports := by
    rw [second.reports, first.reports, List.filterMap_append, List.append_assoc]
  distinct := second.distinct ∘ first.distinct
  opened opened taken :=
    second.opened
      (first.opened opened fun fault refused => taken fault (List.mem_append_left _ refused))
      fun fault refused => taken fault (List.mem_append_right _ refused)
  listLimit := second.listLimit.trans first.listLimit

theorem collects_next (v : Service) (turn : Turn) :
    v.Collects (turn.attempt? v).toList (turn.next v) := by
  cases turn with
  | run command => exact Command.collects_run v command
  | giveUp => exact ⟨(List.append_nil _).symm, id, fun _ _ => rfl, rfl⟩

theorem collects_afterTurns (v : Service) (turns : List Turn) :
    v.Collects (v.attempts turns) (v.afterTurns turns) := by
  induction turns generalizing v with
  | nil => exact collects_of_same rfl rfl
  | cons turn rest ih => exact (collects_next v turn).append (ih (turn.next v))

theorem attempts_append (v : Service) (earlier later : List Turn) :
    v.attempts (earlier ++ later) =
      v.attempts earlier ++ (v.afterTurns earlier).attempts later := by
  induction earlier generalizing v with
  | nil => rfl
  | cons turn rest ih =>
    rw [List.cons_append, attempts, attempts, ih, List.append_assoc]
    rfl

/-- What is stored stays in the log, whatever happens later. -/
theorem collected_prefix_append (v : Service) (earlier later : List Turn) :
    v.collected earlier <+: v.collected (earlier ++ later) := by
  rw [collected, collected, attempts_append, List.filterMap_append]
  exact List.prefix_append _ _

/-! ## What the archive shows -/

/-- The archive of the service shows a log: each report under its id, nothing under any other id,
and the newest reports first, as many as are asked for. -/
structure ShowsLog (v : Service) (log : List StoredReport) : Prop where
  found : ∀ r ∈ log, v.archive.select (.text r.id) = .ok (some r)
  unknown : ∀ id, (∀ r ∈ log, r.id ≠ id) → v.archive.select (.text id) = .ok none
  listed : ∀ n : Nat, 1 ≤ n → (n : Int) < ListLimit.bound →
    v.listReports (.integer n) = .ok (log.reverse.take n)
  /-- A limit that is zero or not there stands for that of the service. -/
  listedByDefault : ∀ limit ∈ [Payload.null, .integer 0], ∀ n : Nat, v.listLimit = .integer n →
    1 ≤ n → (n : Int) < ListLimit.bound → v.listReports limit = .ok (log.reverse.take n)

/-- A positive limit is a limit unless it takes more than 64 bits. -/
theorem read_integer {n : Nat} (inRange : (n : Int) < ListLimit.bound) :
    ListLimit.read (.integer n) = .ok (some n) := by
  have above : ¬ ((n : Int) < -ListLimit.bound ∨ ListLimit.bound ≤ n) := by
    have bound : ListLimit.bound = 0x8000000000000000 := rfl
    omega
  have positive : ¬ (n : Int) < 0 := by omega
  rw [ListLimit.read, ListLimit.integer]
  dsimp only
  rw [if_neg above, if_neg positive, Int.toNat_natCast]

theorem isFilled_integer {n : Nat} (positive : 1 ≤ n) : (Payload.integer n).isFilled = true := by
  have ne : (n : Int) ≠ 0 := by omega
  simpa [Payload.isFilled] using ne

/-- An open archive with distinct ids, filled while the clock went forward, shows its reports. -/
theorem showsLog_of_ticking (distinct : v.archive.HasDistinctIds)
    (opened : v.archive.interruption = none) (ticking : Archive.Ticking v.archive.reports) :
    v.ShowsLog v.archive.reports := by
  have listed {limit : Payload} {n : Nat} (inRange : (n : Int) < ListLimit.bound)
      (stands : (if limit.isFilled then limit else v.listLimit) = .integer n) :
      v.listReports limit = .ok (v.archive.reports.reverse.take n) := by
    rw [listReports, stands, read_integer inRange, Archive.checkOpen, opened]
    exact congrArg Except.ok (Archive.list_of_ticking ticking n)
  exact
    { found := fun r there => Archive.select_of_mem distinct opened there
      unknown := fun id unknown => Archive.select_of_unknown opened unknown
      listed := fun n positive inRange =>
        listed inRange (if_pos (isFilled_integer positive))
      listedByDefault := fun limit absent n own _ inRange => by
        refine listed inRange ?_
        rw [own]
        simp only [List.mem_cons, List.not_mem_nil, or_false] at absent
        rcases absent with rfl | rfl <;> rfl }

/-- A service that started without reports holds after any run the reports that were stored in it,
in their order and as they were answered; what was stored before some moment of the run is still
there after it. New work is shown just these reports, and so is the same work if the storage has
refused none. That the ids of reports are distinct need not be assumed, since the storage refuses a
report under an id that is taken. -/
theorem Reachable.reports_form_log (_ : start.Reachable) (blank : start.archive.reports = [])
    (turns : List Turn) (ticking : Archive.Ticking (start.collected turns)) :
    (start.afterTurns turns).renewed.ShowsLog (start.collected turns) ∧
    (start.archive.interruption = none → (∀ fault, .error (.storage fault) ∉ start.attempts turns) →
      (start.afterTurns turns).ShowsLog (start.collected turns)) ∧
    (start.afterTurns turns).listLimit = start.listLimit ∧
    ∀ earlier later, turns = earlier ++ later →
      start.collected earlier <+: start.collected turns := by
  have collects := collects_afterTurns start turns
  have reports : (start.afterTurns turns).archive.reports = start.collected turns := by
    rw [collects.reports, blank]
    rfl
  have distinct : (start.afterTurns turns).archive.HasDistinctIds := by
    refine collects.distinct ?_
    rw [Archive.HasDistinctIds, blank]
    exact List.nodup_nil
  rw [← reports] at ticking ⊢
  refine ⟨showsLog_of_ticking distinct rfl ticking, fun opened taken => ?_, collects.listLimit, ?_⟩
  · exact showsLog_of_ticking distinct (collects.opened opened taken) ticking
  · rintro earlier later rfl
    rw [reports]
    exact collected_prefix_append start earlier later

/-- A report is saved, another one is generated and its strategy changed, a third one is refused for
want of a text, and then one is saved in new work, after everything was dropped from the catalog. -/
def sampleTurns : List Turn :=
  [.run (.saveReport (.text "c") (.record []) (.list []) (.text "T")),
    .run (.generate none (.record [("clientData", .record []), ("clientId", .text "c"),
      ("strategyConfigurations", .list [.record [("strategyId", .text "a"),
        ("isEnabled", .boolean true), ("inputValues", .record [("x", .integer 1)])]])])),
    .run (.update "a" (.record [("content", .text "U")])),
    .run (.saveReport .null (.record []) (.list []) .null), .giveUp, .run .reset,
    .run (.saveReport .null (.record []) .null (.text "V"))]

/-- Three reports are kept as they were, and the newest two of them are listed. -/
theorem Reachable.reports_form_log_sample :
    (sample.collected sampleTurns).map (·.text) = ["T", "ADDITIONAL STRATEGIES\n\n1", "V"] ∧
    (sample.afterTurns sampleTurns).renewed.ShowsLog (sample.collected sampleTurns) ∧
    ((sample.afterTurns sampleTurns).renewed.listReports (.integer 2)).map (List.map (·.text)) =
      .ok ["V", "ADDITIONAL STRATEGIES\n\n1"] := by
  have ticking : Archive.Ticking (sample.collected sampleTurns) := by
    have micros : ((sample.collected sampleTurns).map (·.createdAt.micros)).Pairwise (· < ·) := by
      decide
    exact List.pairwise_map.1 micros
  have shown := (Reachable.reports_form_log sample_reachable rfl sampleTurns ticking).1
  have newest := shown.listed 2 (by decide) (by decide)
  refine ⟨by decide, shown, (congrArg (Except.map (List.map (·.text))) newest).trans ?_⟩
  decide

/-- A report is saved. -/
def sampleSave : List Turn :=
  [.run (.saveReport .null (.record []) (.list []) (.text "T"))]

/-- A report is saved, and another one is refused for want of a text. -/
def sampleRefused : List Turn :=
  sampleSave ++ [.run (.saveReport .null (.record []) (.list []) .null)]

/-- A limit that takes more than 64 bits is refused, however few reports there are, and the work
that a refused report has interrupted does not find those that were saved before. -/
theorem log_withheld :
    Archive.Ticking (sample.collected sampleSave) ∧
    (¬ ∀ n : Nat, 1 ≤ n → (sample.afterTurns sampleSave).listReports (.integer n) =
      .ok ((sample.collected sampleSave).reverse.take n)) ∧
    Archive.Ticking (sample.collected sampleRefused) ∧
    ¬ ∀ r ∈ sample.collected sampleRefused,
      (sample.afterTurns sampleRefused).archive.select (.text r.id) = .ok (some r) := by
  refine ⟨List.pairwise_singleton _ _, fun listed => ?_, List.pairwise_singleton _ _,
    fun found => ?_⟩
  · have refused : (sample.afterTurns sampleSave).listReports (.integer 0x8000000000000000) =
        .error (.limit .outOfRange) := rfl
    have answered := listed 0x8000000000000000 (by decide)
    rw [show ((0x8000000000000000 : Nat) : Int) = 0x8000000000000000 from rfl, refused] at answered
    cases answered
  · have answered := found _ List.mem_cons_self
    cases answered

end Service

end PlanCompiler
