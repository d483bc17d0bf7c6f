import Mathlib.Logic.Function.Basic
import PlanCompiler.Proofs.Entries
import PlanCompiler.Report.Compilation

/-!
# What a report depends on

Of a configuration only its `Contribution` goes into a report: section, content, fields and what was
entered for these fields. Two reports are equal as soon as every section gets the same contributions
and the sections without a fixed place come up in the same order. Which client the report is for,
where a strategy was found, how it is called and filed, what was entered beside its fields, and how
configurations of different sections are interleaved does not matter.

* `resolveAll_congr`, `Strategy.render_congr`: one strategy;
* `ordered_congr`, `assemble_congr`: the sections;
* `compileFor_eq_of_contributions`: two reports.
-/

namespace PlanCompiler

/-! ## One strategy -/

theorem InputField.resolve_congr {f : InputField} {supplied supplied' : Entries Payload}
    (same : Entries.get? supplied f.id = Entries.get? supplied' f.id) :
    f.resolve supplied = f.resolve supplied' := by
  have entered : f.entered? supplied = f.entered? supplied' := by
    rw [entered?, entered?, same]
  rw [resolve, resolve, entered]

/-- Only what was entered for the fields counts. -/
theorem resolveAll_congr {fields : List InputField} {supplied supplied' : Entries Payload}
    (same : ∀ f ∈ fields, Entries.get? supplied f.id = Entries.get? supplied' f.id) :
    resolveAll fields supplied = resolveAll fields supplied' := by
  have resolved : fields.map (·.resolve supplied) = fields.map (·.resolve supplied') :=
    List.map_congr_left fun f hf => InputField.resolve_congr (same f hf)
  rw [resolveAll, resolveAll, resolved]

/-- What a configuration and its strategy give to a report. -/
structure Contribution where
  sectionKey : String
  content : String
  inputFields : List InputField
  /-- What was entered for each of the fields. A flag is never a number. -/
  entered : List (Option Scalar)
  deriving DecidableEq

/-- What a strategy gives to a report under a configuration. -/
def Strategy.contribution (s : Strategy) (config : ClientConfig) : Contribution where
  sectionKey := Section.keyOf s.sectionKey
  content := s.content
  inputFields := s.inputFields
  entered := s.inputFields.map fun f => Entries.get? config.inputValues f.id

theorem Strategy.render_congr {s s' : Strategy} {config config' : ClientConfig}
    (same : s.contribution config = s'.contribution config') :
    s.render (Report.enteredBy config) = s'.render (Report.enteredBy config') := by
  obtain ⟨-, content, fields, entered⟩ := Contribution.mk.inj same
  rw [← fields] at entered
  have lookups : ∀ f ∈ s.inputFields, Entries.get? (Report.enteredBy config) f.id =
      Entries.get? (Report.enteredBy config') f.id := by
    intro f hf
    have here := List.map_inj_left.1 entered f hf
    rw [Report.enteredBy, Report.enteredBy, Entries.get?_mapValues, Entries.get?_mapValues, here]
  rw [render, render, ← fields, ← content, resolveAll_congr lookups]

/-! ## The sections -/

namespace Section

/-- The order of the sections depends on which keys there are, and for unknown ones on the order in
which they come up. -/
theorem ordered_congr {keys keys' : List String} (same : ∀ key, key ∈ keys ↔ key ∈ keys')
    (unknown : keys.eraseDups.filter isUnknown = keys'.eraseDups.filter isUnknown) :
    ordered keys = ordered keys' := by
  have contains : keys.contains = keys'.contains := by
    funext key
    rw [Bool.eq_iff_iff, List.contains_iff_mem, List.contains_iff_mem]
    exact same key
  rw [ordered, ordered, contains, unknown]

end Section

namespace Report

/-- The contents that a section gets. -/
def contentsOf (rendered : List RenderedStrategy) (key : String) : List String :=
  (rendered.filter fun item => item.sectionKey = key).map (·.content)

theorem mem_sectionKeys_iff (rendered : List RenderedStrategy) (key : String) :
    key ∈ rendered.map (·.sectionKey) ↔ contentsOf rendered key ≠ [] := by
  rw [contentsOf, Ne, List.map_eq_nil_iff, List.filter_eq_nil_iff, List.mem_map]
  constructor
  · rintro ⟨item, hitem, rfl⟩ none
    exact none item hitem (decide_eq_true rfl)
  · intro some
    by_contra absent
    exact some fun item hitem here => absent ⟨item, hitem, of_decide_eq_true here⟩

/-- Of the items of a section only their contents are written. -/
theorem block_eq (rendered : List RenderedStrategy) (key : String) :
    block rendered key = (Section.heading key).toList ++ '\n' ::
      (contentsOf rendered key).flatMap (fun content => '\n' :: content.toList ++ ['\n']) ++
        ['\n'] := by
  rw [block, sectionBody, contentsOf, List.flatMap_map]

/-- Sections are put together from their contents. -/
theorem assemble_congr {rendered rendered' : List RenderedStrategy}
    (same : ∀ key, contentsOf rendered key = contentsOf rendered' key)
    (unknown : (rendered.map (·.sectionKey)).eraseDups.filter Section.isUnknown =
      (rendered'.map (·.sectionKey)).eraseDups.filter Section.isUnknown) :
    assemble rendered = assemble rendered' := by
  have sections : sectionsOf rendered = sectionsOf rendered' := by
    refine Section.ordered_congr (fun key => ?_) unknown
    rw [mem_sectionKeys_iff, mem_sectionKeys_iff, same]
  have blocks : block rendered = block rendered' := by
    funext key
    rw [block_eq, block_eq, same]
  rw [assemble, assemble, sections, blocks]

/-! ## Two reports -/

/-- The enabled configurations of known strategies, each with its strategy. -/
def selected (find : String → Option Strategy) (configs : List ClientConfig) :
    List (Strategy × ClientConfig) :=
  (configs.filter (·.isEnabled)).filterMap fun config =>
    (find config.strategyId).map fun s => (s, config)

/-- The contributions to a report, in the order of the configurations. -/
def contributions (source : StrategySource) (configs : List ClientConfig) : List Contribution :=
  (selected source.find? configs).map fun (s, config) => s.contribution config

/-- The sections without a fixed place, in the order in which contributions to them come up. -/
def unknownSections (contributions : List Contribution) : List String :=
  (contributions.map (·.sectionKey)).eraseDups.filter Section.isUnknown

/-- What is rendered of a selected strategy. -/
def rendered (pair : Strategy × ClientConfig) : RenderedStrategy where
  strategyId := pair.1.id
  sectionKey := Section.keyOf pair.1.sectionKey
  content := pair.1.render (enteredBy pair.2)

theorem renderEnabled_eq (find : String → Option Strategy) (configs : List ClientConfig) :
    renderEnabled find configs = (selected find configs).map rendered := by
  rw [renderEnabled, selected, List.map_filterMap]
  refine List.filterMap_congr fun config _ => ?_
  rw [renderConfig, Option.map_map]
  rfl

/-- A section's contents are made from its contributions alone. -/
theorem contentsOf_eq_of_contributions {pairs pairs' : List (Strategy × ClientConfig)}
    {key : String}
    (same : (pairs.map fun (s, config) => s.contribution config).filter (·.sectionKey = key) =
      (pairs'.map fun (s, config) => s.contribution config).filter (·.sectionKey = key)) :
    contentsOf (pairs.map rendered) key = contentsOf (pairs'.map rendered) key := by
  have factors : Function.FactorsThrough
      (fun pair : Strategy × ClientConfig => (rendered pair).content)
      fun pair => pair.1.contribution pair.2 :=
    fun _ _ => Strategy.render_congr
  obtain ⟨text, htext⟩ := Function.factorsThrough_iff _ |>.1 factors
  have contents (pairs : List (Strategy × ClientConfig)) : contentsOf (pairs.map rendered) key =
      ((pairs.map fun (s, config) => s.contribution config).filter
        (·.sectionKey = key)).map text := by
    rw [contentsOf, List.filter_map, List.filter_map, List.map_map, List.map_map]
    exact congrArg (List.map · _) htext
  rw [contents, contents, same]

/-- Reports with the same contributions to every section and the same order of the sections without
a fixed place are equal. -/
theorem compileFor_eq_of_contributions {clientData clientData' : Payload}
    {configs configs' : List ClientConfig} {source source' : StrategySource}
    (same : ∀ key, (contributions source configs).filter (·.sectionKey = key) =
      (contributions source' configs').filter (·.sectionKey = key))
    (unknown : unknownSections (contributions source configs) =
      unknownSections (contributions source' configs')) :
    compileFor clientData configs source = compileFor clientData' configs' source' := by
  rw [compileFor, compileFor, compile, compile, renderEnabled_eq, renderEnabled_eq]
  refine assemble_congr (fun key => contentsOf_eq_of_contributions (same key)) ?_
  rw [unknownSections, unknownSections, contributions, contributions, List.map_map, List.map_map]
    at unknown
  rw [List.map_map, List.map_map]
  exact unknown

/-- A strategy of a section without a fixed place. -/
def samplePlan : Strategy :=
  { id := "x", title := "X", sectionKey := some "planning", content := "\x7b\x7ba\x7d\x7d"
    inputFields := [{ id := "a", label := "A" }] }

/-- A strategy of the first section. -/
def sampleAdvice : Strategy :=
  { id := "y", title := "Y", sectionKey := some "recommendations", content := "Save." }

/-- Two reports on the same strategies. One takes them from a list with an older version in it, and
gets a value too many; the other one takes them from a catalog where a title differs, and gets its
configurations in another order, among one that is disabled and one of an unknown strategy. -/
theorem compileFor_eq_of_contributions_sample :
    compileFor .null
        [⟨"x", true, [("a", .integer 5), ("b", .text "B")]⟩, ⟨"y", true, []⟩]
        (.listed [{ samplePlan with content := "" }, sampleAdvice, samplePlan]) =
      compileFor (.text "C")
        [⟨"z", true, []⟩, ⟨"y", true, []⟩, ⟨"x", false, []⟩, ⟨"x", true, [("a", .integer 5)]⟩]
        (.stored (Catalog.insertAll {} [{ samplePlan with title := "Z" }, sampleAdvice])) := by
  have listed : contributions
      (.listed [{ samplePlan with content := "" }, sampleAdvice, samplePlan])
      [⟨"x", true, [("a", .integer 5), ("b", .text "B")]⟩, ⟨"y", true, []⟩] =
      [samplePlan.contribution ⟨"x", true, [("a", .integer 5)]⟩,
        sampleAdvice.contribution ⟨"y", true, []⟩] := by decide
  have stored : contributions
      (.stored (Catalog.insertAll {} [{ samplePlan with title := "Z" }, sampleAdvice]))
      [⟨"z", true, []⟩, ⟨"y", true, []⟩, ⟨"x", false, []⟩, ⟨"x", true, [("a", .integer 5)]⟩] =
      [sampleAdvice.contribution ⟨"y", true, []⟩,
        samplePlan.contribution ⟨"x", true, [("a", .integer 5)]⟩] := by decide
  refine compileFor_eq_of_contributions (fun key => ?_) ?_
  · rw [listed, stored]
    by_cases planning : key = "planning"
    · subst planning
      decide
    · simp [List.filter_cons, samplePlan, sampleAdvice, Strategy.contribution, Section.keyOf,
        Ne.symm planning]
  · rw [listed, stored]
    decide

end Report

end PlanCompiler
