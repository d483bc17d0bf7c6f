import PlanCompiler.Proofs.Service.Step

/-!
# Reachable states

The states that a service comes into, and what holds of all of them.

* `Service.Reachable`, with `Reachable.induction`: what every command keeps holds of such a state;
* `Reachable.wellFormed`: the catalog of a reachable state is well-formed;
* `Reachable.configs_refer_to_strategies`: no stored configuration is left behind by its strategy.
-/

namespace PlanCompiler

open Schema

namespace Service

/-- The states that a service comes into: its catalog was empty, then it was given initial
strategies, and then commands were run on it. -/
def Reachable (v : Service) : Prop :=
  ∃ (first : Service) (initial : List Payload) (start : Service) (commands : List Command),
    first.catalog = {} ∧ started first initial = .ok start ∧ v = start.after commands

variable {P : Service → Prop}

/-- What is kept by every addition holds of a service that was given initial strategies. -/
theorem started_induction (step : ∀ v draft, P v → P (Command.run v (.add draft)).service)
    {initial : List Payload} {v start : Service} (hv : P v) (h : started v initial = .ok start) :
    P start := by
  induction initial generalizing v with
  | nil =>
    cases h
    exact hv
  | cons p rest ih =>
    rw [started] at h
    have next := step v p hv
    revert h next
    generalize Command.run v (.add p) = o
    intro h next
    cases answer : o.answer with
    | ok a =>
      rw [answer] at h
      exact ih next h
    | error refusal =>
      rw [answer] at h
      cases h

theorem after_induction (step : ∀ v command, P v → P (Command.run v command).service)
    (commands : List Command) {v : Service} (hv : P v) : P (v.after commands) := by
  induction commands generalizing v with
  | nil => exact hv
  | cons command rest ih => exact ih (step v command hv)

/-- What holds while the catalog is empty and is kept by every command holds of every reachable
state. -/
theorem Reachable.induction (empty : ∀ v, v.catalog = {} → P v)
    (step : ∀ v command, P v → P (Command.run v command).service) {v : Service}
    (h : v.Reachable) : P v := by
  obtain ⟨first, initial, start, commands, blank, hstart, rfl⟩ := h
  have started := started_induction (fun v draft => step v (.add draft)) (empty first blank) hstart
  exact after_induction step commands started

/-- Whatever is run on a reachable state, the state that it leaves behind is reachable. -/
theorem Reachable.after {v : Service} (h : v.Reachable) (commands : List Command) :
    (v.after commands).Reachable := by
  obtain ⟨first, initial, start, before, blank, hstart, rfl⟩ := h
  exact ⟨first, initial, start, before ++ commands, blank, hstart, List.foldl_append.symm⟩

/-- The catalog of a reachable state is well-formed. -/
theorem Reachable.wellFormed {v : Service} (h : v.Reachable) : v.catalog.WellFormed := by
  refine Reachable.induction (P := fun v => v.catalog.WellFormed) (fun v blank => ?_)
    (fun v command ih => ?_) h
  · rw [blank]
    exact .empty
  · exact (Command.change_run ih command).wellFormed ih

/-! ## A run -/

/-- A built-in strategy with category and section, and one that a user wrote. -/
def sampleDrafts : List Payload :=
  [.record [("id", .text "a"), ("title", .text "A"), ("content", .text "\x7b\x7bx\x7d\x7d"),
      ("category", .text "tax"), ("section", .text "s"),
      ("inputFields", .list [.record [("id", .text "x"), ("label", .text "X")]])],
    .record [("id", .text "b"), ("title", .text "B"), ("content", .text ""),
      ("category", .text "tax"), ("isCustom", .boolean true)]]

/-- The configuration of a strategy. -/
def sampleConfig (id : String) : Payload :=
  .record [("strategyId", .text id), ("isEnabled", .boolean true)]

/-- Changes and refused commands, with an index read in between. -/
def sampleRun : List Command :=
  [.saveConfigs "client" [sampleConfig "a", sampleConfig "b", sampleConfig "c"], .byCategory "tax",
    .update "a" (.record [("section", .null), ("subsection", .text "t")]), .delete "a", .delete "b",
    .add (.record [("id", .text "a"), ("title", .text "A"), ("content", .text "")])]

/-- The state after the run. -/
def sample : Service :=
  ((started {} sampleDrafts).toOption.getD {}).after sampleRun

theorem sample_reachable : sample.Reachable :=
  ⟨{}, sampleDrafts, _, sampleRun, rfl, rfl, rfl⟩

/-- A built-in strategy gets a field to select from, and a strategy that a user wrote is imported
again. -/
def sampleChanges : List Command :=
  [.update "a" (.record [("inputFields", .list [.record [("id", .text "y_1"), ("label", .text ""),
      ("type", .text "select"), ("options", .list [.text "o"])]])]),
    .addCustom "T" (.text "") .null, .reimport]

/-! ## Stored configurations -/

/-- In every reachable state, what a client has stored is about strategies that are there. -/
theorem Reachable.configs_refer_to_strategies {v : Service} (h : v.Reachable) :
    ∀ entry ∈ v.catalog.clients, ∀ config ∈ entry.2, config.strategyId ∈ v.catalog.ids := by
  intro entry hentry config hconfig
  have there := h.wellFormed.referenced entry hentry config hconfig
  exact (Entries.contains_iff_mem_keys _ _).1 there

/-- After the run the list of the client is down to one configuration. -/
theorem Reachable.configs_refer_to_strategies_sample :
    sample.catalog.clients = [("client", [⟨"a", true, []⟩])] ∧
    ∀ entry ∈ sample.catalog.clients, ∀ config ∈ entry.2, config.strategyId ∈ sample.catalog.ids :=
  ⟨by decide, Reachable.configs_refer_to_strategies sample_reachable⟩

end Service

end PlanCompiler
