import PlanCompiler.Proofs.Service.Evolution
import PlanCompiler.Proofs.Settings.Files
import PlanCompiler.Proofs.Settings.Reading
import PlanCompiler.Settings.Logging

/-!
# Starting the service

The service starts if its settings suit the environment and the database answers. Its catalog holds
the built-in strategies or nothing then, so that all that is known of reachable states is known of
the service from the start. The log is set up unless the name of its level is taken or its file
cannot be written; a service that was started in production logs nothing but JSON.

* `Complaint.Holds`, `mem_complaints_iff`: what the complaints say;
* `IsFit`, `complaints_eq_nil_iff`, `isFit_of_load`: settings without complaints;
* `lines_complaintText`, `complaintText_inj`: one line for every complaint;
* `startedCatalog_eq_ok_iff`, `startedCatalog_eq_error_iff`: when the service starts;
* `strategies_startedCatalog`, `reachable_startedCatalog`: the catalog with which it starts;
* `logThreshold_eq_ok_iff`, `logSetup_eq_ok_iff`, `exists_logSetup_iff`: when the log is set up;
* `logSinks_json`: how it is laid out in production.
-/

namespace PlanCompiler

namespace Settings

variable {s : Settings}

/-! ## Complaints -/

/-- What a complaint says of the settings. -/
def Complaint.Holds (s : Settings) : Complaint → Prop
  | .noDatabaseUrl => s.databaseUrl = ""
  | .noDefaultClient => s.defaultClient = ""
  | .localDatabase => s.environment = .prod ∧ "sqlite".toList <+: s.databaseUrl.toList
  | .notJson => s.environment = .prod ∧ s.logFormat = .text

theorem isSqlite_iff : s.isSqlite = true ↔ "sqlite".toList <+: s.databaseUrl.toList :=
  List.isPrefixOf_iff_prefix

theorem not_json_iff {format : LogFormat} : format ≠ .json ↔ format = .text := by
  cases format <;> decide

/-- Complaints are made about what is wrong, and about all of it. -/
theorem mem_complaints_iff {complaint : Complaint} :
    complaint ∈ s.complaints ↔ complaint.Holds s := by
  simp only [complaints, List.mem_append]
  cases complaint <;>
    simp [Complaint.Holds, List.mem_ite_nil_right, isSqlite_iff, not_json_iff]

/-- Nothing is complained about twice, and complaints come in one order. -/
theorem complaints_sublist (s : Settings) :
    s.complaints.Sublist [.noDatabaseUrl, .noDefaultClient, .localDatabase, .notJson] := by
  have one (b : Bool) (complaint : Complaint) :
      (if b then [complaint] else []).Sublist [complaint] := by
    cases b
    · exact List.nil_sublist _
    · exact List.Sublist.refl _
  exact (((one _ _).append (one _ _)).append (one _ _)).append (one _ _)

/-- Settings that suit their environment. -/
structure IsFit (s : Settings) : Prop where
  databaseUrl : s.databaseUrl ≠ ""
  defaultClient : s.defaultClient ≠ ""
  /-- In production reports are kept by a server. -/
  server : s.environment = .prod → ¬ "sqlite".toList <+: s.databaseUrl.toList
  json : s.environment = .prod → s.logFormat = .json

theorem complaints_eq_nil_iff : s.complaints = [] ↔ s.IsFit := by
  rw [List.eq_nil_iff_forall_not_mem]
  constructor
  · intro none
    have not (complaint : Complaint) : ¬ complaint.Holds s :=
      mt mem_complaints_iff.2 (none complaint)
    exact
      { databaseUrl := not .noDatabaseUrl
        defaultClient := not .noDefaultClient
        server := fun production isLocal => not .localDatabase ⟨production, isLocal⟩
        json := fun production => by
          by_contra other
          exact not .notJson ⟨production, not_json_iff.1 other⟩ }
  · intro fit complaint made
    have holds := mem_complaints_iff.1 made
    cases complaint with
    | noDatabaseUrl => exact fit.databaseUrl holds
    | noDefaultClient => exact fit.defaultClient holds
    | localDatabase => exact fit.server holds.1 holds.2
    | notJson => exact not_json_iff.2 holds.2 (fit.json holds.1)

/-- Of settings that were read, outside production, only the default client can be wrong. -/
theorem isFit_of_load {tree : FileTree} {environment arguments : Entries Payload}
    (h : load tree environment arguments = .ok s) (elsewhere : s.environment ≠ .prod) :
    s.IsFit ↔ s.defaultClient ≠ "" where
  mp fit := fit.defaultClient
  mpr named :=
    { databaseUrl := (isValid_of_load h).databaseUrl
      defaultClient := named
      server := fun production => absurd production elsewhere
      json := fun production => absurd production elsewhere }

/-! ## The text of complaints -/

theorem lineFeed_not_mem_message (complaint : Complaint) :
    '\n' ∉ complaint.message.toList := by
  cases complaint <;> decide

theorem message_inj {a b : Complaint} (h : a.message = b.message) : a = b := by
  revert h
  cases a <;> cases b <;> decide

/-- The line for a complaint. -/
def complaintLine (complaint : Complaint) : String :=
  "  - " ++ complaint.message

theorem toList_complaintText (complaints : List Complaint) :
    (complaintText complaints).toList = "Configuration validation failed:".toList ++
      '\n' :: Text.joined ['\n'] ((complaints.map complaintLine).map String.toList) := by
  have headline : "Configuration validation failed:\n" =
      "Configuration validation failed:" ++ "\n" := rfl
  unfold complaintText
  rw [headline, String.toList_append, String.toList_append, Text.toList_intercalate,
    List.append_assoc]
  rfl

/-- Under the headline there is one line for every complaint. -/
theorem lines_complaintText {complaints : List Complaint} (h : complaints ≠ []) :
    Text.parts '\n' (complaintText complaints).toList =
      "Configuration validation failed:".toList ::
        (complaints.map complaintLine).map String.toList := by
  have lines : ∀ line ∈ (complaints.map complaintLine).map String.toList, '\n' ∉ line := by
    intro line mem
    simp only [List.map_map, List.mem_map] at mem
    obtain ⟨complaint, -, rfl⟩ := mem
    simpa [complaintLine] using lineFeed_not_mem_message complaint
  rw [toList_complaintText, Text.parts_append, Text.parts_of_not_mem (by decide),
    Text.parts_joined (by simpa using h) lines]
  rfl

theorem complaintText_inj {a b : List Complaint} (ha : a ≠ []) (hb : b ≠ [])
    (h : complaintText a = complaintText b) : a = b := by
  have same := lines_complaintText ha
  rw [h, lines_complaintText hb, List.cons.injEq] at same
  rw [List.map_map, List.map_map] at same
  refine (List.map_injective_iff.2 (fun c d hcd => message_inj ?_) same.2).symm
  simpa [complaintLine] using String.toList_inj.1 hcd

/-! ## Starting -/

variable {down : Option String} {c : Catalog}

/-- The catalog that is there first. -/
def firstCatalog (s : Settings) : Catalog :=
  if s.seedsBuiltIn then (Service.seed {}).service.catalog else {}

theorem isEmpty_complaints : s.complaints.isEmpty = true ↔ s.IsFit :=
  List.isEmpty_iff.trans complaints_eq_nil_iff

theorem startedCatalog_of_isFit (fit : s.IsFit) : s.startedCatalog down =
    match down with
    | some reason => .error (.databaseDown reason)
    | none => .ok s.firstCatalog :=
  if_pos (isEmpty_complaints.2 fit)

theorem startedCatalog_of_not_isFit (unfit : ¬ s.IsFit) :
    s.startedCatalog down = .error (.unfit s.complaints) :=
  if_neg (mt isEmpty_complaints.1 unfit)

theorem startedCatalog_eq_ok_iff :
    s.startedCatalog down = .ok c ↔ s.IsFit ∧ down = none ∧ s.firstCatalog = c := by
  by_cases fit : s.IsFit
  · cases down <;> simp [startedCatalog_of_isFit fit, fit]
  · simp [startedCatalog_of_not_isFit fit, fit]

/-- Whether the database answers is asked of fit settings only. -/
theorem startedCatalog_eq_error_iff {fault : StartFault} : s.startedCatalog down = .error fault ↔
    (¬ s.IsFit ∧ .unfit s.complaints = fault) ∨
      (s.IsFit ∧ ∃ reason, down = some reason ∧ .databaseDown reason = fault) := by
  by_cases fit : s.IsFit
  · cases down <;> simp [startedCatalog_of_isFit fit, fit]
  · simp [startedCatalog_of_not_isFit fit, fit]

theorem entries_seeded : (Service.seed {}).service.catalog.entries =
    BuiltIn.all.map fun builtIn => (builtIn.id, builtIn) := by
  have unseeded : Service.unseeded {} = BuiltIn.all :=
    List.filter_eq_self.2 fun _ _ => rfl
  have free : (Catalog.ids {} ++ (Service.unseeded {}).map (·.id)).Nodup := by
    simpa [Catalog.ids, Entries.keys, unseeded] using Service.nodup_ids_builtIn
  have placed := Catalog.entries_insertAll free
  rw [List.nil_append] at placed
  exact unseeded ▸ placed

theorem isCustom_builtIn : ∀ builtIn ∈ BuiltIn.all, builtIn.isCustom = false := by
  decide

/-- The catalog holds the built-in strategies or nothing at first, and no client has stored
anything. -/
theorem strategies_startedCatalog (h : s.startedCatalog down = .ok c) :
    c.strategies = (if s.seedsBuiltIn then BuiltIn.all else []) ∧ c.customStrategies = [] ∧
      c.clients = [] := by
  obtain ⟨-, -, rfl⟩ := startedCatalog_eq_ok_iff.1 h
  unfold firstCatalog
  cases s.seedsBuiltIn with
  | false => exact ⟨rfl, rfl, rfl⟩
  | true =>
    have seeded : (Service.seed {}).service.catalog.strategies = BuiltIn.all := by
      rw [Catalog.strategies, entries_seeded, Entries.values, List.map_map]
      exact List.map_id _
    refine ⟨seeded, ?_, Catalog.clients_insertAll _ _⟩
    rw [Catalog.customStrategies, if_pos rfl, seeded, List.filter_eq_nil_iff]
    exact fun builtIn mem => Bool.eq_false_iff.1 (isCustom_builtIn builtIn mem)

/-- A service that was started is in a reachable state, whatever else there is in it. -/
theorem reachable_startedCatalog (v : Service) (h : s.startedCatalog down = .ok c) :
    (v.withCatalog c).Reachable := by
  obtain ⟨-, -, rfl⟩ := startedCatalog_eq_ok_iff.1 h
  refine ⟨v.withCatalog {}, [], _, if s.seedsBuiltIn then [.seed] else [], rfl, rfl, ?_⟩
  unfold firstCatalog
  cases s.seedsBuiltIn <;> rfl

/-! ## The log -/

variable {tree : FileTree} {threshold : Nat} {sinks : List (LogSink × LogFormat)}

theorem lookup_eq_some_iff {β : Type} {table : List (List Char × β)}
    (distinct : (table.map Prod.fst).Nodup) {name : List Char} {b : β} :
    table.lookup name = some b ↔ (name, b) ∈ table := by
  induction table with
  | nil => simp
  | cons entry rest ih =>
    obtain ⟨free, distinct⟩ := List.nodup_cons.1 distinct
    rw [List.lookup_cons]
    by_cases same : name = entry.1
    · subst same
      have other : (entry.1, b) ∉ rest := fun mem => free (List.mem_map.2 ⟨_, mem, rfl⟩)
      rw [beq_self_eq_true, List.mem_cons, or_iff_left other, Option.some.injEq, Prod.ext_iff]
      simp [eq_comm]
    · rw [beq_false_of_ne same]
      simpa [Prod.ext_iff, same] using ih distinct

theorem lookup_eq_none_iff {β : Type} {table : List (List Char × β)}
    (distinct : (table.map Prod.fst).Nodup) {name : List Char} :
    table.lookup name = none ↔ ∀ b, (name, b) ∉ table := by
  simp only [Option.eq_none_iff_forall_ne_some, ne_eq, lookup_eq_some_iff distinct]

theorem nodup_levels : (levels.map Prod.fst).Nodup := by decide

theorem nodup_reservedNames : (reservedNames.map Prod.fst).Nodup := by decide

/-- The name of the level, whatever its case. -/
def levelName (s : Settings) : List Char :=
  Text.upper s.logLevel.toList

/-- The level of the log is the one that is named, or `INFO` where none is. -/
theorem logThreshold_eq_ok_iff : s.logThreshold = .ok threshold ↔
    (∀ reserved, (s.levelName, reserved) ∉ reservedNames) ∧
      ((s.levelName, threshold) ∈ levels ∨
        (∀ level, (s.levelName, level) ∉ levels) ∧ threshold = 20) := by
  rw [← lookup_eq_none_iff nodup_reservedNames, ← lookup_eq_some_iff nodup_levels,
    ← lookup_eq_none_iff nodup_levels]
  simp only [logThreshold, levelName]
  generalize Text.upper s.logLevel.toList = name
  cases reservedNames.lookup name with
  | some reserved => simp
  | none => cases levels.lookup name <;> simp [eq_comm]

/-- The log can be set up if its level has a threshold and its file, if there is one, can be
written. -/
theorem logSetup_eq_ok_iff : s.logSetup tree = .ok (threshold, sinks) ↔
    s.logThreshold = .ok threshold ∧ s.logSinks = sinks ∧
      ∀ path, s.logFile? = some path →
        '\x00' ∉ path.toList ∧ tree.openFault? path = none := by
  simp only [logSetup, Except.bind_eq_ok_iff, Except.guard_eq_ok_iff]
  cases s.logFile? with
  | none => simp [Except.pure_eq_ok_iff, Prod.ext_iff]
  | some path =>
    cases fault : tree.openFault? path with
    | none => simp [fault, Except.pure_eq_ok_iff, Prod.ext_iff, and_comm]
    | some cause => simp [fault]

/-- A log file at a path from the root needs the directories on the way to it. -/
theorem exists_logSetup_iff {path : String} (file : s.logFile? = some path)
    (rooted : pathStart path ≠ "") :
    (∃ setup, s.logSetup tree = .ok setup) ↔
      (∃ threshold, s.logThreshold = .ok threshold) ∧ '\x00' ∉ path.toList ∧
        pathSize (directPath path) ≤ pathLimit ∧ tree.Leads [] (directNames path) ∧
        tree.kindAt? (directNames path) ≠ some .directory := by
  rw [← FileTree.openFault?_eq_none_iff rooted]
  constructor
  · rintro ⟨⟨threshold, sinks⟩, done⟩
    obtain ⟨level, -, writable⟩ := logSetup_eq_ok_iff.1 done
    exact ⟨⟨threshold, level⟩, writable path file⟩
  · rintro ⟨⟨threshold, level⟩, writable⟩
    refine ⟨(threshold, s.logSinks), logSetup_eq_ok_iff.2 ⟨level, rfl, fun other same => ?_⟩⟩
    obtain rfl := Option.some.inj (file.symm.trans same)
    exact writable

/-- Whatever a service logs that was started in production is JSON. -/
theorem logSinks_json (h : s.startedCatalog down = .ok c) (production : s.environment = .prod) :
    ∀ sink ∈ s.logSinks, sink.2 = .json := by
  obtain ⟨fit, -, -⟩ := startedCatalog_eq_ok_iff.1 h
  intro sink mem
  rcases List.mem_cons.1 mem with rfl | file
  · exact fit.json production
  · split at file
    · rw [List.mem_singleton.1 file]
    · cases file

end Settings

end PlanCompiler
