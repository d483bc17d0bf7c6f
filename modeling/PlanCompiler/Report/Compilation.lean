import PlanCompiler.Browse
import PlanCompiler.Catalog.Basic
import PlanCompiler.Field
import PlanCompiler.Log.Event
import PlanCompiler.Template

/-!
# Compiling a report

From a client's configurations to the text of the plan. Enabled configurations are rendered one by
one, in their order, and put together section by section; nothing is refused: a configuration of an
unknown strategy is left out, and a placeholder without a value stays in the text.

* `Strategy.render`: one strategy with the entered values;
* `renderEnabled`: the enabled configurations of known strategies;
* `assemble`: rendered strategies under the headings of their sections;
* `compile`: all of it, with the events to log;
* `StrategySource`, `compileFor`: the same over the strategies of a list, a table or a catalog.
-/

namespace PlanCompiler

open Text

/-- The content of a strategy with the entered values filled in, and the paragraphs of its toggles
below. -/
def Strategy.render (s : Strategy) (entered : Entries Payload) : String :=
  let resolved := resolveAll s.inputFields entered
  Template.withParagraphs
    (Template.fill (fun id => (Entries.get? resolved.values id).map (·.raw)) s.content)
    resolved.paragraphs

/-- Where strategies are looked up: a list, a table with keys of its own, or a catalog. -/
inductive StrategySource
  | listed (strategies : List Strategy)
  | keyed (entries : Entries Strategy)
  | stored (catalog : Catalog)

namespace StrategySource

/-- Strategies under their ids; the last one with an id counts. -/
def byId (strategies : List Strategy) : Entries Strategy :=
  Entries.putAll [] (strategies.map fun s => (s.id, s))

/-- The strategies of a source. -/
def entries : StrategySource → Entries Strategy
  | .listed strategies => byId strategies
  | .keyed entries => entries
  | .stored catalog => byId catalog.strategies

/-- The strategy that a configuration with the given id stands for. -/
def find? (source : StrategySource) (id : String) : Option Strategy :=
  Entries.get? source.entries id

end StrategySource

/-- A strategy that has been rendered for a report. -/
structure RenderedStrategy where
  strategyId : String
  sectionKey : String
  content : String
  deriving DecidableEq, Repr

namespace Report

/-- The values that a configuration enters. -/
def enteredBy (config : ClientConfig) : Entries Payload :=
  Entries.mapValues Scalar.toPayload config.inputValues

/-- Render the strategy of a configuration. -/
def renderConfig (find : String → Option Strategy) (config : ClientConfig) :
    Option RenderedStrategy :=
  (find config.strategyId).map fun s =>
    { strategyId := s.id
      sectionKey := Section.keyOf s.sectionKey
      content := s.render (enteredBy config) }

/-- What is logged when a configuration is rendered. -/
def renderEvents (find : String → Option Strategy) (config : ClientConfig) : List Event :=
  match find config.strategyId with
  | none => [.skippedUnknown config.strategyId]
  | some s => (resolveAll s.inputFields (enteredBy config)).unresolved.map .fieldWithoutValue

/-- The enabled configurations of known strategies, rendered in their order. -/
def renderEnabled (find : String → Option Strategy) (configs : List ClientConfig) :
    List RenderedStrategy :=
  (configs.filter (·.isEnabled)).filterMap (renderConfig find)

/-- The items of a section, each with a blank line before it. -/
def sectionBody (items : List RenderedStrategy) : List Char :=
  items.flatMap fun item => '\n' :: item.content.toList ++ ['\n']

/-- The block of a section: heading, items, and a blank line at the end. -/
def block (rendered : List RenderedStrategy) (key : String) : List Char :=
  (Section.heading key).toList ++ '\n' ::
    sectionBody (rendered.filter fun item => item.sectionKey = key) ++ ['\n']

/-- The sections of rendered strategies, in the order of the report. -/
def sectionsOf (rendered : List RenderedStrategy) : List String :=
  Section.ordered (rendered.map (·.sectionKey))

/-- Rendered strategies put together section by section, without blanks at the end. -/
def assemble (rendered : List RenderedStrategy) : String :=
  String.ofList (trimEnd ((sectionsOf rendered).flatMap (block rendered)))

/-- The text of a report. -/
def compile (find : String → Option Strategy) (configs : List ClientConfig) : String :=
  assemble (renderEnabled find configs)

/-- The report of a client. What is known about the client is kept beside the report and does not go
into it. -/
def compileFor (_clientData : Payload) (configs : List ClientConfig) (source : StrategySource) :
    String :=
  compile source.find? configs

/-- What is logged when a report is compiled. -/
def compileEvents (find : String → Option Strategy) (configs : List ClientConfig) : List Event :=
  let rendered := renderEnabled find configs
  (configs.filter (·.isEnabled)).flatMap (renderEvents find) ++
    [.compiled rendered.length (rendered.map (·.sectionKey)).eraseDups.length]

end Report

end PlanCompiler
