import PlanCompiler.Proofs.Service.Calls

/-!
# Calls of several clients

The calls of several clients share the catalog, the indices that are rebuilt late, the table of
lists and the archive, and still no client can tell how the calls of the others came in between.
Each call is new work for the storage, so what interrupts one of them does not reach the next one.

* `Service.afterCalls`, `Service.replies`: a run of calls;
* `catalog_afterCalls`, `reports_afterCalls`, `get?_clients_afterCalls`: what it leaves behind, told
  from its start;
* `Interleaves`: two runs that keep the order of the calls of each client;
* `Reachable.calls_independent`: what is the same for both.
-/

namespace PlanCompiler

open Schema

/-- A command called by a client. -/
structure Call where
  client : String
  command : Command

namespace Service

/-- The state after calls; each of them is new work. -/
def afterCalls (v : Service) (calls : List Call) : Service :=
  calls.foldl (fun v call => (call.command.run v.renewed).service) v

/-- The calls with their answers. -/
def replies (v : Service) : List Call → List (Call × Except Refusal Answer)
  | [] => []
  | call :: rest =>
    (call, (call.command.run v.renewed).answer) :: (call.command.run v.renewed).service.replies rest

variable {v w : Service} {client : String} {command : Command} {calls xs ys : List Call}

theorem afterCalls_cons (v : Service) (call : Call) (rest : List Call) :
    v.afterCalls (call :: rest) = (call.command.run v.renewed).service.afterCalls rest := rfl

/-- A call leaves the strategies alone, and draws at most one id. -/
theorem keeps_call {call : Call} (own : call.command.BelongsTo call.client) (v : Service) :
    v.Keeps (call.command.run v.renewed).service ∧ v.Draws (call.command.run v.renewed).service :=
  have one := Command.keeps_run own v.renewed
  ⟨(keeps_renewed v).trans one.1, one.2⟩

theorem keeps_afterCalls (own : ∀ call ∈ calls, call.command.BelongsTo call.client) (v : Service) :
    v.Keeps (v.afterCalls calls) := by
  induction calls generalizing v with
  | nil => exact .refl v
  | cons call rest ih =>
    have first := (keeps_call (own call List.mem_cons_self) v).1
    exact first.trans (ih (fun later there => own later (List.mem_cons_of_mem _ there)) _)

theorem hasFreshIds_afterCalls (own : ∀ call ∈ calls, call.command.BelongsTo call.client)
    {n : Nat} (fresh : v.HasFreshIds (n + calls.length)) : (v.afterCalls calls).HasFreshIds n := by
  induction calls generalizing v with
  | nil => exact fresh
  | cons call rest ih =>
    refine ih (fun later there => own later (List.mem_cons_of_mem _ there)) ?_
    exact HasFreshIds.of_draws fresh (keeps_call (own call List.mem_cons_self) v).2

/-! ## What a run leaves behind -/

/-- After a run the indices are refreshed if one of them was read, and the lists are those that were
saved. -/
theorem catalog_afterCalls (own : ∀ call ∈ calls, call.command.BelongsTo call.client)
    (v : Service) : (v.afterCalls calls).catalog =
      v.catalog.served (calls.any (·.command.readsIndex))
        (replay (calls.filterMap (·.command.clientEvent? v)) v.catalog.clients) := by
  induction calls generalizing v with
  | nil => rfl
  | cons call rest ih =>
    have ownFirst := own call List.mem_cons_self
    have ownRest : ∀ later ∈ rest, later.command.BelongsTo later.client :=
      fun later there => own later (List.mem_cons_of_mem _ there)
    have events : rest.filterMap (·.command.clientEvent? (call.command.run v.renewed).service) =
        rest.filterMap (·.command.clientEvent? v) := by
      refine List.filterMap_congr fun later there => ?_
      exact clientEvent?_congr (keeps_call ownFirst v).1.entries (ownRest later there)
    have first : (call.command.run v.renewed).service.catalog =
        v.catalog.served call.command.readsIndex
          (replay (call.command.clientEvent? v).toList v.catalog.clients) := by
      rw [Command.catalog_run_of_belongs ownFirst, Command.clients_run,
        clientEvent?_congr (v := v) (w := v.renewed) rfl ownFirst]
      rfl
    have lists : replay ((call :: rest).filterMap (·.command.clientEvent? v)) v.catalog.clients =
        replay (rest.filterMap (·.command.clientEvent? v))
          (replay (call.command.clientEvent? v).toList v.catalog.clients) := by
      rw [replay, replay, replay, ← List.foldl_append, List.filterMap_cons]
      cases call.command.clientEvent? v <;> rfl
    rw [afterCalls_cons, ih ownRest, events, lists, List.any_cons, first, Catalog.served_served]
    rfl

/-- The archive gains the reports that the calls store when each of them is the only one. -/
theorem reports_afterCalls (wellFormed : v.catalog.WellFormed)
    (own : ∀ call ∈ calls, call.command.BelongsTo call.client)
    (fresh : v.HasFreshIds calls.length) :
    (v.afterCalls calls).archive.reports.map StoredReport.anonymous =
      v.archive.reports.map StoredReport.anonymous ++
        (calls.filterMap fun call => v.attemptAlone? call.command).filterMap (·.toOption) := by
  induction calls generalizing v with
  | nil => exact (List.append_nil _).symm
  | cons call rest ih =>
    have ownFirst := own call List.mem_cons_self
    have ownRest : ∀ later ∈ rest, later.command.BelongsTo later.client :=
      fun later there => own later (List.mem_cons_of_mem _ there)
    let w := (call.command.run v.renewed).service
    have renewed : v.renewed.catalog.WellFormed := wellFormed
    have stored : w.archive.reports = v.archive.reports ++
        (call.command.attempt? v.renewed).toList.filterMap (·.toOption) :=
      (Command.collects_run _ call.command).reports
    have later : w.HasFreshIds rest.length := fresh.of_draws (keeps_call ownFirst v).2
    have attempts : (rest.filterMap fun call => w.attemptAlone? call.command) =
        rest.filterMap fun call => v.attemptAlone? call.command := by
      refine List.filterMap_congr fun next there => ?_
      have pos : 1 ≤ rest.length := List.length_pos_of_mem there
      exact attemptAlone?_congr (ownRest next there) (keeps_call ownFirst v).1
        (fresh.mono (Nat.succ_le_succ (Nat.zero_le _))) (later.mono pos)
    rw [afterCalls_cons, ih ((Command.change_run renewed call.command).wellFormed renewed) ownRest
      later, attempts, stored, List.map_append, List.append_assoc, List.filterMap_cons,
      attemptAlone?]
    cases call.command.attempt? v.renewed with
    | none => rfl
    | some answer => cases answer <;> rfl

/-- The list that a call stores for the client who calls. -/
def stored? (v : Service) (call : Call) : Option (List ClientConfig) :=
  (call.command.clientEvent? v).bind (ClientEvent.storedFor? call.client)

/-- A client has the list that its own calls stored last. -/
theorem get?_clients_afterCalls (own : ∀ call ∈ calls, call.command.BelongsTo call.client)
    (v : Service) (client : String) :
    Entries.get? (v.afterCalls calls).catalog.clients client =
      (((calls.filter (·.client = client)).filterMap v.stored?).getLast?).or
        (Entries.get? v.catalog.clients client) := by
  have saves : ∀ e ∈ calls.filterMap (·.command.clientEvent? v), e.client?.isSome := by
    intro e he
    obtain ⟨call, there, event⟩ := List.mem_filterMap.1 he
    obtain ⟨_, _, rfl⟩ := client_of_clientEvent (own call there) event
    rfl
  have ownEvents : (calls.filterMap (·.command.clientEvent? v)).filterMap
      (ClientEvent.storedFor? client) = (calls.filter (·.client = client)).filterMap v.stored? := by
    rw [List.filterMap_filterMap, List.filterMap_filter]
    refine List.filterMap_congr fun call there => ?_
    rw [stored?]
    cases event : call.command.clientEvent? v with
    | none => simp
    | some e =>
      obtain ⟨_, _, rfl⟩ := client_of_clientEvent (own call there) event
      by_cases same : call.client = client <;> simp [same, ClientEvent.storedFor?]
  rw [catalog_afterCalls own]
  exact (get?_replay_of_saves saves).trans (by rw [ownEvents])

/-- No client has two lists. -/
theorem Reachable.nodup_clients (h : v.Reachable) : (Entries.keys v.catalog.clients).Nodup := by
  refine Reachable.induction (P := fun v => (Entries.keys v.catalog.clients).Nodup)
    (fun v blank => ?_) (fun v command ih => ?_) h
  · rw [blank]
    exact List.nodup_nil
  · rw [Command.clients_run]
    exact nodup_keys_replay _ ih

theorem exists_before_of_mem_replies {reply : Call × Except Refusal Answer}
    (there : reply ∈ v.replies calls) : ∃ before later, calls = before ++ reply.1 :: later ∧
      reply.2 = (reply.1.command.run (v.afterCalls before).renewed).answer := by
  induction calls generalizing v with
  | nil => cases there
  | cons call rest ih =>
    rcases List.mem_cons.1 there with rfl | there
    · exact ⟨[], rest, rfl, rfl⟩
    · obtain ⟨before, later, rfl, answered⟩ := ih there
      exact ⟨call :: before, later, rfl, answered⟩

/-! ## Two runs of the same calls -/

/-- The two runs are made of the same calls, and each client calls in the same order. -/
def Interleaves (xs ys : List Call) : Prop :=
  ∀ client, xs.filter (·.client = client) = ys.filter (·.client = client)

theorem Interleaves.perm (h : Interleaves xs ys) : xs.Perm ys := by
  have labelled {zs : List Call} (sub : zs ⊆ xs ++ ys) :
      (((xs ++ ys).map (·.client)).eraseDups.flatMap fun client =>
        zs.filter (·.client = client)).Perm zs := by
    refine Entries.perm_flatMap_filter Call.client (Entries.nodup_eraseDups _) fun call there => ?_
    exact List.mem_eraseDups.2 (List.mem_map_of_mem (sub there))
  have ofX := labelled (List.subset_append_left xs ys)
  have ofY := labelled (List.subset_append_right xs ys)
  simp only [h _] at ofX
  exact ofX.symm.trans ofY

/-- The states differ only in what is drawn, and in the order in which clients came first. -/
structure AgreesUpToOrder (v w : Service) : Prop where
  entries : v.catalog.entries = w.catalog.entries
  index : v.catalog.index = w.catalog.index
  freshness : v.catalog.freshness = w.catalog.freshness
  clients : v.catalog.clients.Perm w.catalog.clients
  hasTable : v.archive.hasTable = w.archive.hasTable
  listLimit : v.listLimit = w.listLimit

/-- The calls of the second run are those of the first one, so they belong to their clients, too. -/
theorem Interleaves.belongs (interleaved : Interleaves xs ys)
    (own : ∀ call ∈ xs, call.command.BelongsTo call.client) :
    ∀ call ∈ ys, call.command.BelongsTo call.client :=
  fun call there => own call (interleaved.perm.mem_iff.2 there)

theorem agrees_afterCalls (h : v.Reachable)
    (own : ∀ call ∈ xs, call.command.BelongsTo call.client) (interleaved : Interleaves xs ys) :
    AgreesUpToOrder (v.afterCalls xs) (v.afterCalls ys) := by
  have own' := interleaved.belongs own
  have catalog := catalog_afterCalls own v
  have catalog' := catalog_afterCalls own' v
  have keeps := keeps_afterCalls own v
  have keeps' := keeps_afterCalls own' v
  have reads : xs.any (·.command.readsIndex) = ys.any (·.command.readsIndex) :=
    interleaved.perm.any_eq
  have distinct {zs : List Call} (own : ∀ call ∈ zs, call.command.BelongsTo call.client) :
      (Entries.keys (v.afterCalls zs).catalog.clients).Nodup := by
    rw [catalog_afterCalls own]
    exact nodup_keys_replay _ h.nodup_clients
  exact
    { entries := keeps.entries.trans keeps'.entries.symm
      index := by
        rw [catalog, catalog', reads]
        rfl
      freshness := by
        rw [catalog, catalog', reads]
        rfl
      clients := by
        refine Entries.perm_of_get?_eq (distinct own) (distinct own') fun client => ?_
        rw [get?_clients_afterCalls own, get?_clients_afterCalls own', interleaved client]
      hasTable := keeps.hasTable.trans keeps'.hasTable.symm
      listLimit := keeps.listLimit.trans keeps'.listLimit.symm }

/-- Calls of several clients that change no strategy do not get in each other's way. However the
calls of different clients come in between each other, a report that is generated has the text and
the configurations that the strategies at the start give, each client has in the end the list that
its own calls stored last, and two runs that keep the order of the calls of each client leave the
same state, but for what is drawn, the order of the reports and that of the clients. As long as the
ids that are drawn are new, every generation is answered as when it is the only call, refusals
included, and the same reports are stored. -/
theorem Reachable.calls_independent (h : v.Reachable)
    (own : ∀ call ∈ xs, call.command.BelongsTo call.client) (interleaved : Interleaves xs ys) :
    (∀ reply ∈ v.replies xs, ∀ down request r, reply.1.command = .generate down request →
      reply.2 = .ok (.report r) → ∃ q, ReportRequest.read request = .valid q ∧
        r.text = v.textOf q ∧
        r.configurations = .list ((q.configurations v.find).map ClientConfig.write)) ∧
    (∀ client, (v.afterCalls xs).catalog.configsOf client =
      (((xs.filter (·.client = client)).filterMap v.stored?).getLast?).getD
        (v.catalog.configsOf client)) ∧
    AgreesUpToOrder (v.afterCalls xs) (v.afterCalls ys) ∧
    (v.HasFreshIds xs.length →
      (∀ reply ∈ v.replies xs, ∀ down request, reply.1.command = .generate down request →
        reply.2.map Answer.anonymous =
          (reply.1.command.run v.renewed).answer.map Answer.anonymous) ∧
      ((v.afterCalls xs).archive.reports.map StoredReport.anonymous).Perm
        ((v.afterCalls ys).archive.reports.map StoredReport.anonymous)) := by
  have perm := interleaved.perm
  have ownBefore {before later : List Call} (split : xs = before ++ later) :
      ∀ call ∈ before, call.command.BelongsTo call.client :=
    fun call there => own call (split ▸ List.mem_append_left _ there)
  refine ⟨?_, ?_, ?_, fun fresh => ⟨?_, ?_⟩⟩
  · intro reply there down request r generates answered
    obtain ⟨before, later, split, alone⟩ := exists_before_of_mem_replies there
    rw [generates, answered] at alone
    have entries : (v.afterCalls before).renewed.catalog.entries = v.catalog.entries :=
      (keeps_afterCalls (ownBefore split) v).entries
    exact report_of_generate entries alone.symm
  · intro client
    rw [Catalog.configsOf, get?_clients_afterCalls own, Option.getD_or]
    rfl
  · exact agrees_afterCalls h own interleaved
  · intro reply there down request generates
    obtain ⟨before, later, split, alone⟩ := exists_before_of_mem_replies there
    have room : 1 + before.length ≤ xs.length := by
      rw [split, List.length_append, List.length_cons]
      omega
    have pos : 1 ≤ xs.length := by omega
    rw [alone, generates]
    exact answer_run_generate_congr (keeps_afterCalls (ownBefore split) v) (fresh.mono pos)
      (hasFreshIds_afterCalls (ownBefore split) (fresh.mono room))
  · have fresh' : v.HasFreshIds ys.length := perm.length_eq ▸ fresh
    rw [reports_afterCalls h.wellFormed own fresh,
      reports_afterCalls h.wellFormed (interleaved.belongs own) fresh']
    exact ((perm.filterMap _).filterMap _).append_left _

/-- A client generates a report and drops its list; another one saves a list and reads an index. -/
def sampleCalls : List Call :=
  [⟨"c", .generate none (.record [("clientData", .record []), ("clientId", .text "c"),
      ("strategyConfigurations", .list [.record [("strategyId", .text "a"),
        ("isEnabled", .boolean true), ("inputValues", .record [("x", .integer 1)])]])])⟩,
    ⟨"d", .saveConfigs "d" [sampleConfig "a"]⟩, ⟨"d", .bySection "s"⟩, ⟨"c", .saveConfigs "c" []⟩]

/-- The same calls, those of the other client first. -/
def sampleReordered : List Call :=
  sampleCalls.filter (·.client = "d") ++ sampleCalls.filter (·.client = "c")

/-- Both runs leave the same lists, those of the two clients in the order in which they came. -/
theorem Reachable.calls_independent_sample :
    Entries.keys (sample.afterCalls sampleCalls).catalog.clients = ["client", "c", "d"] ∧
    Entries.keys (sample.afterCalls sampleReordered).catalog.clients = ["client", "d", "c"] ∧
    AgreesUpToOrder (sample.afterCalls sampleCalls) (sample.afterCalls sampleReordered) ∧
    sample.HasFreshIds sampleCalls.length ∧
    ((sample.afterCalls sampleCalls).archive.reports.map StoredReport.anonymous).Perm
      ((sample.afterCalls sampleReordered).archive.reports.map StoredReport.anonymous) := by
  have own : ∀ call ∈ sampleCalls, call.command.BelongsTo call.client := by
    intro call there
    simp only [sampleCalls, List.mem_cons, List.not_mem_nil, or_false] at there
    rcases there with rfl | rfl | rfl | rfl
    · refine .generate _ _ fun q accepted name given => .inr ?_
      cases accepted
      exact (Option.some.inj given).symm
    · exact .save _
    · exact .read rfl
    · exact .save _
  have interleaved : Interleaves sampleCalls sampleReordered := by
    intro client
    by_cases first : "c" = client
    · subst first
      rfl
    · by_cases second : "d" = client
      · subst second
        rfl
      · simp [sampleReordered, sampleCalls, first, second]
  have fresh : sample.HasFreshIds sampleCalls.length := by decide
  have independent := Reachable.calls_independent sample_reachable own interleaved
  exact ⟨by decide, by decide, independent.2.2.1, fresh, (independent.2.2.2 fresh).2⟩

end Service

end PlanCompiler
