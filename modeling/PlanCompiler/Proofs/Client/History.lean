import Mathlib.Data.List.DropRight
import PlanCompiler.Catalog.Basic
import PlanCompiler.Proofs.Entries

/-!
# Histories of clients' lists

What clients have stored is the outcome of everything that happened since the catalog was empty.
Only three kinds of event count: a list is saved, a strategy is deleted, everything is dropped.

* `ClientEvent`, `ClientEvent.apply`: one event, and what it does to the clients' lists;
* `IsLastSave`: the last save of a client since everything was dropped, and what came after it;
* `FollowsHistory`: the lists are what a history says they are;
* `followsHistory_of_replay`: applying the events of a history leads to such lists.
-/

namespace PlanCompiler

/-- Something that changes what clients have stored. -/
inductive ClientEvent
  /-- A client saves a list while the strategies with the given ids are there. -/
  | saved (client : String) (configs : List ClientConfig) (there : List String)
  | deleted (id : String)
  | cleared
  deriving DecidableEq, Repr

namespace ClientEvent

/-- What an event does to the clients' lists. -/
def apply (clients : Entries (List ClientConfig)) : ClientEvent → Entries (List ClientConfig)
  | .saved client configs there =>
    Entries.put clients client (configs.filter fun config => config.strategyId ∈ there)
  | .deleted id => Entries.mapValues (Catalog.withoutStrategy id) clients
  | .cleared => []

/-- What was stored for a client before does not matter after the event. -/
def Replaces (client : String) : ClientEvent → Prop
  | .saved other _ _ => other = client
  | .deleted _ => False
  | .cleared => True

/-- The client who saves a list. -/
def client? : ClientEvent → Option String
  | .saved client _ _ => some client
  | _ => none

/-- The list that an event stores for a client. -/
def storedFor? (client : String) : ClientEvent → Option (List ClientConfig)
  | .saved other configs there =>
    if other = client then some (configs.filter fun config => config.strategyId ∈ there) else none
  | _ => none

variable {clients : Entries (List ClientConfig)} {e : ClientEvent} {client : String}

/-- What is stored after an event was stored before or is saved by the event. -/
theorem forall_apply {P : ClientConfig → Prop}
    (stored : ∀ entry ∈ clients, ∀ config ∈ entry.2, P config)
    (saved : ∀ client configs there, e = .saved client configs there →
      ∀ config ∈ configs, P config) :
    ∀ entry ∈ e.apply clients, ∀ config ∈ entry.2, P config := by
  intro entry hentry config hconfig
  cases e with
  | saved client configs there =>
    rcases Entries.mem_put hentry with old | rfl
    · exact stored entry old config hconfig
    · exact saved client configs there rfl config (List.mem_of_mem_filter hconfig)
  | deleted id =>
    obtain ⟨source, hsource, rfl⟩ := List.mem_map.1 hentry
    exact stored source hsource config (List.mem_of_mem_filter hconfig)
  | cleared => cases hentry

/-- An event that does not replace a list can only drop the configurations of one strategy. -/
theorem get?_apply (kept : ¬ e.Replaces client) :
    Entries.get? (e.apply clients) client = (Entries.get? clients client).map fun configs =>
      configs.filter fun config => decide (ClientEvent.deleted config.strategyId ≠ e) := by
  cases e with
  | saved other configs there =>
    have ne : other ≠ client := kept
    rw [apply, Entries.get?_put, if_neg ne]
    simp
  | deleted id =>
    rw [apply, Entries.get?_mapValues]
    refine congrArg (Option.map · _) (funext fun configs => ?_)
    simp [Catalog.withoutStrategy]
  | cleared => exact absurd trivial kept

end ClientEvent

/-- The lists after the events of a history, the oldest first. -/
def replay (history : List ClientEvent) (clients : Entries (List ClientConfig)) :
    Entries (List ClientConfig) :=
  history.foldl ClientEvent.apply clients

/-- In a history, a client has last saved `configs`, while the strategies with the ids `there` were
there, and the events `later` have happened since. -/
def IsLastSave (history : List ClientEvent) (client : String) (configs : List ClientConfig)
    (there : List String) (later : List ClientEvent) : Prop :=
  (∃ earlier, history = earlier ++ .saved client configs there :: later) ∧
    ∀ e ∈ later, ¬ e.Replaces client

/-- What clients have stored in the catalog is what a history leads to. -/
structure FollowsHistory (history : List ClientEvent) (c : Catalog) : Prop where
  /-- What a client has saved last, without the configurations of strategies that were not there
  then or have been deleted since. -/
  saved : ∀ client configs there later, IsLastSave history client configs there later →
    c.configsOf client = configs.filter fun config =>
      decide (config.strategyId ∈ there ∧ ClientEvent.deleted config.strategyId ∉ later)
  /-- Nothing, if the client has saved nothing since everything was dropped. -/
  unsaved : ∀ client, (¬ ∃ configs there later, IsLastSave history client configs there later) →
    c.configsOf client = []
  /-- The clients in the order in which they first saved a list since everything was dropped. -/
  keys : Entries.keys c.clients =
    ((history.rtakeWhile fun e => e ≠ .cleared).filterMap ClientEvent.client?).eraseDups

variable {history later : List ClientEvent} {clients : Entries (List ClientConfig)}
  {client : String}

/-- Until its list is replaced, a client loses the configurations of deleted strategies only. -/
theorem get?_replay (kept : ∀ e ∈ later, ¬ e.Replaces client) :
    Entries.get? (replay later clients) client = (Entries.get? clients client).map fun configs =>
      configs.filter fun config => decide (ClientEvent.deleted config.strategyId ∉ later) := by
  induction later generalizing clients with
  | nil => simp [replay]
  | cons e rest ih =>
    have step : replay (e :: rest) clients = replay rest (e.apply clients) := rfl
    rw [step, ih fun e he => kept e (List.mem_cons_of_mem _ he),
      ClientEvent.get?_apply (kept e List.mem_cons_self), Option.map_map]
    refine congrArg (Option.map · _) (funext fun configs => ?_)
    rw [Function.comp, List.filter_filter]
    refine List.filter_congr fun config _ => ?_
    simp [Bool.and_comm]

theorem get?_replay_of_isLastSave {configs : List ClientConfig} {there : List String}
    (h : IsLastSave history client configs there later) :
    Entries.get? (replay history clients) client = some (configs.filter fun config =>
      decide (config.strategyId ∈ there ∧ ClientEvent.deleted config.strategyId ∉ later)) := by
  obtain ⟨⟨earlier, rfl⟩, kept⟩ := h
  have split : replay (earlier ++ .saved client configs there :: later) clients =
      replay later ((ClientEvent.saved client configs there).apply (replay earlier clients)) :=
    List.foldl_append
  rw [split, get?_replay kept, ClientEvent.apply, Entries.get?_put, if_pos rfl, Option.map_some,
    List.filter_filter]
  refine congrArg some (List.filter_congr fun config _ => ?_)
  simp [Bool.and_comm]

/-- A client without a last save has no list, unless there was one at the start that has not been
replaced. -/
theorem get?_replay_of_unsaved
    (unsaved : ¬ ∃ configs there later, IsLastSave history client configs there later)
    (start : Entries.get? clients client = none ∨ ∃ e ∈ history, e.Replaces client) :
    Entries.get? (replay history clients) client = none := by
  -- A list may be there at the start, and an event that replaces it may still be to come.
  induction history generalizing clients with
  | nil => exact start.resolve_right (by simp)
  | cons e rest ih =>
    have restUnsaved : ¬ ∃ configs there later, IsLastSave rest client configs there later := by
      rintro ⟨configs, there, later, ⟨earlier, rfl⟩, kept⟩
      exact unsaved ⟨configs, there, later, ⟨e :: earlier, rfl⟩, kept⟩
    refine ih restUnsaved ?_
    by_cases replaced : ∃ e' ∈ rest, e'.Replaces client
    · exact .inr replaced
    · left
      push Not at replaced
      by_cases own : e.Replaces client
      · cases e with
        | saved other configs there =>
          obtain rfl : other = client := own
          exact absurd ⟨configs, there, rest, ⟨[], rfl⟩, replaced⟩ unsaved
        | deleted id => exact own.elim
        | cleared => rfl
      · rw [ClientEvent.get?_apply own, start.resolve_right, Option.map_none]
        rintro ⟨e', he', gone⟩
        rcases List.mem_cons.1 he' with rfl | later
        · exact own gone
        · exact replaced e' later gone

/-- No client comes into the table twice. -/
theorem nodup_keys_replay (history : List ClientEvent) (distinct : (Entries.keys clients).Nodup) :
    (Entries.keys (replay history clients)).Nodup := by
  induction history generalizing clients with
  | nil => exact distinct
  | cons e rest ih =>
    refine ih ?_
    cases e with
    | saved client configs there => exact Entries.nodup_keys_put distinct client _
    | deleted id =>
      rw [ClientEvent.apply, Entries.keys_mapValues]
      exact distinct
    | cleared => exact List.nodup_nil

/-- While lists are only saved, a client has stored the last one of its own. -/
theorem get?_replay_of_saves (saves : ∀ e ∈ history, (e.client?).isSome) :
    Entries.get? (replay history clients) client =
      ((history.filterMap (ClientEvent.storedFor? client)).getLast?).or
        (Entries.get? clients client) := by
  -- The last save counts, so the induction is from the right.
  induction history using List.reverseRecOn with
  | nil => rfl
  | append_singleton history e ih =>
    have step : replay (history ++ [e]) clients = e.apply (replay history clients) :=
      List.foldl_append
    have before := ih fun e' he' => saves e' (List.mem_append_left _ he')
    rw [step, List.filterMap_append]
    cases e with
    | saved other configs there =>
      rw [ClientEvent.apply, Entries.get?_put, before]
      by_cases own : other = client
      · simp [ClientEvent.storedFor?, own]
      · simp [ClientEvent.storedFor?, own]
    | deleted id | cleared => cases saves _ (List.mem_append_right _ List.mem_cons_self)

/-- A client comes into the table with the first save. -/
theorem keys_replay (history : List ClientEvent) : Entries.keys (replay history []) =
    ((history.rtakeWhile fun e => e ≠ .cleared).filterMap ClientEvent.client?).eraseDups := by
  -- Whether earlier saves count is decided by the last event, so the induction is from the right.
  induction history using List.reverseRecOn with
  | nil => rfl
  | append_singleton history e ih =>
    have step : replay (history ++ [e]) [] = e.apply (replay history []) := List.foldl_append
    rw [step]
    cases e with
    | cleared =>
      rw [List.rtakeWhile_concat_neg _ _ _ (by simp)]
      rfl
    | deleted id =>
      rw [List.rtakeWhile_concat_pos _ _ _ (by simp), List.filterMap_append, ClientEvent.apply,
        Entries.keys_mapValues, ih]
      exact congrArg List.eraseDups (List.append_nil _).symm
    | saved client configs there =>
      rw [List.rtakeWhile_concat_pos _ _ _ (by simp), List.filterMap_append, ClientEvent.apply]
      exact Entries.keys_put_of_eraseDups ih client _

/-- The lists that a history leads to from none at all are what it says they are. -/
theorem followsHistory_of_replay {c : Catalog} (h : c.clients = replay history []) :
    FollowsHistory history c where
  saved client configs there later last := by
    rw [Catalog.configsOf, h, get?_replay_of_isLastSave last, Option.getD_some]
  unsaved client unsaved := by
    rw [Catalog.configsOf, h, get?_replay_of_unsaved unsaved (.inl rfl), Option.getD_none]
  keys := by rw [h, keys_replay]

end PlanCompiler
