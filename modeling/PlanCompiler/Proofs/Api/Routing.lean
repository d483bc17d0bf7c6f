import PlanCompiler.Proofs.Api.Handling
import PlanCompiler.Proofs.Text.Run

/-!
# Which route a path leads to

A path is cut into segments at its slashes, and what stands behind a slash is cut apart from what
stands before it. A route is found if it fits the segments and no route before it does. So what
comes after `/api/strategies/` is taken for an id exactly if it is one segment and none of the names
that the routes before have taken (`IsAddressable`).

* `segments?_append`: how paths are cut;
* `dispatch_eq_found`: the first route that fits;
* `dispatch_configsPath`, `dispatch_strategyPath`, `target_of_not_addressable`: two families of
  paths.
-/

namespace PlanCompiler

/-! ## Cutting paths -/

namespace Api

/-- The segments of what stands behind a slash. -/
def cut (value : String) : List String :=
  (Text.parts '/' value.toList).map String.ofList

variable {path value : String} {segments : List String}

/-- What stands behind a slash adds its segments to those before. -/
theorem segments?_append {start : String} {base : List Char} (ends : start.toList = base ++ ['/'])
    (h : segments? base = some segments) (value : String) :
    segments? (start ++ value).toList = some (segments ++ cut value) := by
  rw [String.toList_append, ends, List.append_assoc, List.singleton_append, segments?,
    Text.parts_append]
  rw [segments?] at h
  split at h
  · rename_i parts begun
    rw [begun, List.cons_append]
    dsimp only
    rw [List.map_append, ← Option.some.inj h, cut]
  · cases h

/-- One segment of a path. -/
structure IsSegment (value : String) : Prop where
  filled : value ≠ ""
  whole : '/' ∉ value.toList

theorem cut_of_isSegment (h : IsSegment value) : cut value = [value] := by
  rw [cut, Text.parts_of_not_mem h.whole, List.map_singleton, String.ofList_toList]

/-- With a slash in it a text is cut into two segments or more. -/
theorem exists_cut_eq_of_mem (h : '/' ∈ value.toList) :
    ∃ first second rest, cut value = first :: second :: rest := by
  obtain ⟨before, after, split⟩ := List.append_of_mem h
  obtain ⟨first, firsts, cut₁⟩ := Text.exists_parts_eq_cons '/' before
  obtain ⟨second, seconds, cut₂⟩ := Text.exists_parts_eq_cons '/' after
  rw [cut, split, Text.parts_append, cut₁, cut₂]
  cases firsts with
  | nil => exact ⟨_, _, _, rfl⟩
  | cons next firsts => exact ⟨_, _, _, rfl⟩

/-! ## The first route that fits -/

variable {method : Method} {target : Target}

theorem find?_of_takeWhile {α : Type} [DecidableEq α] {p : α → Bool} {a : α} {xs : List α}
    (mem : a ∈ xs) (holds : p a = true) (first : ∀ x ∈ xs.takeWhile (· ≠ a), p x = false) :
    xs.find? p = some a := by
  induction xs with
  | nil => cases mem
  | cons x rest ih =>
    by_cases same : x = a
    · rw [same, List.find?_cons_of_pos holds]
    · rw [List.takeWhile_cons_of_pos (by simpa using same)] at first
      rw [List.find?_cons_of_neg (by simp [first x List.mem_cons_self])]
      exact ih ((List.mem_cons.1 mem).resolve_left (Ne.symm same)) fun y later =>
        first y (List.mem_cons_of_mem _ later)

/-- A route is found if it fits and none before it does. -/
theorem dispatch_eq_found (split : segments? path.toList = some segments) {route : Route}
    (stands : route ∈ routes) (own : route.method = method)
    (fits : fit? route.path segments = some value)
    (first : ∀ r ∈ routes.takeWhile (· ≠ route), r.method = method →
      fit? r.path segments = none) :
    dispatch method path = .found route.target value := by
  have found : (fitting path.toList).find? (fun entry => entry.1.method = method) =
      some (route, value) := by
    rw [fitting, split]
    dsimp only
    rw [List.find?_filterMap, find?_of_takeWhile stands, Option.bind_some, fits]
    · rfl
    · simp [fits, own]
    · intro r before
      by_cases same : r.method = method
      · simp [first r before same]
      · cases fit? r.path segments <;> simp [same]
  rw [dispatch, found]

/-! ## Paths with an id -/

/-- The path of a client's list. -/
def configsPath (client : String) : String :=
  "/api/client-strategy-configs/" ++ client

/-- The path of a strategy. -/
def strategyPath (id : String) : String :=
  "/api/strategies/" ++ id

theorem segments?_configsPath (client : String) :
    segments? (configsPath client).toList =
      some (["api", "client-strategy-configs"] ++ cut client) := by
  have ends : "/api/client-strategy-configs/".toList =
      "/api/client-strategy-configs".toList ++ ['/'] := by decide
  exact segments?_append ends (by decide) client

theorem segments?_strategyPath (id : String) :
    segments? (strategyPath id).toList = some (["api", "strategies"] ++ cut id) := by
  have ends : "/api/strategies/".toList = "/api/strategies".toList ++ ['/'] := by decide
  exact segments?_append ends (by decide) id

/-- Whatever a client is called, its list is found if the name is one segment. -/
theorem dispatch_configsPath {client : String} (h : IsSegment client) :
    dispatch .get (configsPath client) = .found .getConfigs client := by
  have split := segments?_configsPath client
  rw [cut_of_isSegment h] at split
  have stands : ⟨.get, under ["api", "client-strategy-configs"] [.parameter], .getConfigs⟩ ∈
      routes := by decide
  refine dispatch_eq_found split stands rfl ?_ ?_
  · simp [under, fit?, h.filled]
  · simp [routes, under, fit?]

/-- The names below that of the strategies that stand for something else than a strategy. A line
feed at the end of them is overlooked. -/
def takenNames : List String :=
  ["organized", "organized\n", "export", "export\n"]

/-- The id leads to the strategy that has it. -/
structure IsAddressable (id : String) : Prop extends IsSegment id where
  free : id ∉ takenNames

theorem dispatch_strategyPath {id : String} (h : IsAddressable id) :
    dispatch .get (strategyPath id) = .found .getStrategy id := by
  have split := segments?_strategyPath id
  rw [cut_of_isSegment h.toIsSegment] at split
  have stands : ⟨.get, under ["api", "strategies"] [.parameter], .getStrategy⟩ ∈ routes := by
    decide
  refine dispatch_eq_found split stands rfl ?_ ?_
  · simp [under, fit?, h.filled]
  · have free := h.free
    simp [routes, under, fit?, takenNames] at free ⊢
    tauto

/-- What is found below the strategies under a path of more than one segment. -/
theorem target_of_fits_two {first second : String} {rest : List String} :
    ∀ r ∈ routes, r.method = .get →
      fit? r.path ("api" :: "strategies" :: first :: second :: rest) = some value →
      r.target ∈ [.byCategory, .bySection, .bySubsection] := by
  simp [routes, under, fit?]

/-- What an id leads to that does not lead to the strategy that has it. -/
theorem target_of_not_addressable {id : String} (filled : id ≠ "") (h : ¬ IsAddressable id)
    (found : dispatch .get (strategyPath id) = .found target value) :
    target ∈ [.organized, .exportStrategies, .byCategory, .bySection, .bySubsection] := by
  by_cases whole : '/' ∈ id.toList
  · obtain ⟨first, second, rest, several⟩ := exists_cut_eq_of_mem whole
    have split := segments?_strategyPath id
    rw [several] at split
    obtain ⟨route, mem, get, rfl, segments, parted, fits⟩ := exists_route_of_found found
    obtain rfl := Option.some.inj (split.symm.trans parted)
    have below := target_of_fits_two route mem get fits
    exact List.mem_cons_of_mem _ (List.mem_cons_of_mem _ below)
  · have taken : id ∈ takenNames := by
      by_contra free
      exact h ⟨⟨filled, whole⟩, free⟩
    have led : ∀ name ∈ takenNames, dispatch .get (strategyPath name) = .found .organized "" ∨
        dispatch .get (strategyPath name) = .found .exportStrategies "" := by decide
    rcases led id taken with here | here <;>
    · obtain ⟨rfl, -⟩ := Dispatch.found.inj (here.symm.trans found)
      decide

end Api

end PlanCompiler
