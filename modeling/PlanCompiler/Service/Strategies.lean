import PlanCompiler.Schema.Model
import PlanCompiler.Service.Basic
import PlanCompiler.Strategy.BuiltIn

/-!
# Operations on strategies

Adding, changing, deleting and importing strategies. An explicit id is kept or refused as taken, a
generated one is always free; built-in strategies can be edited but not deleted. What is stored is
read once more as a strategy, from the record that a draft or a revision comes down to.

* `add`, `addCustom`, `importDrafts`, `seed`: more strategies;
* `update`, `updateCustom`: another text for one of them;
* `delete`, `removeCustom`, `reset`: fewer strategies.
-/

namespace PlanCompiler.Service

open Schema

/-- The origin in the ids of strategies that are added. -/
def addedOrigin : String := "strategy"

/-- The origin in the ids of strategies that users write. -/
def customOrigin : String := "custom"

/-- The origin in the ids of strategies that are imported. -/
def importedOrigin : String := "imported"

/-- The id on which a draft insists; an empty one does not count. -/
def explicitId (d : Draft) : Option String :=
  d.id.filter (!·.isEmpty)

/-- The strategy that a record is read as. -/
def restored (record : Entries Payload) : Except Rejection Strategy :=
  Model.strategy.named (Strategy.read (.record record))

/-- Add the strategy of a draft under an id that is not taken. -/
def addUnder (v : Service) (id : String) (d : Draft) : Outcome Strategy :=
  v.checked (restored (d.storedRecord id)) fun s =>
    { answer := .ok s
      service := v.withCatalog (v.catalog.insert s)
      events := [.added s.title id] }

/-- Add a strategy. -/
def add (v : Service) (d : Draft) : Outcome Strategy :=
  match explicitId d with
  | some id =>
    if v.catalog.contains id then v.refuse (.conflict (.duplicate id)) else v.addUnder id d
  | none =>
    let serial := v.catalog.freshSerial addedOrigin d.title v.serial
    { v with serial := serial + 1 }.addUnder (Catalog.generatedId addedOrigin d.title serial) d

/-- Add several strategies, up to the first that is refused. -/
def addAll (v : Service) : List Draft → Outcome Unit
  | [] => v.answer ()
  | d :: rest => (v.add d).andThen fun _ v => v.addAll rest

/-- The body of a strategy that a user writes, checked like any other. -/
def customBody (title : String) (content sectionKey : Payload) : Checked StrategyBody :=
  StrategyBody.read [(Key.title.wire, .text title), (Key.content.wire, content),
    (Key.sectionKey.wire, sectionKey), (Key.isCustom.wire, .boolean true)]

/-- Add a strategy that a user wrote. Its id is drawn before the rest is checked. -/
def addCustom (v : Service) (title : String) (content sectionKey : Payload) : Outcome Strategy :=
  let serial := v.catalog.freshSerial customOrigin title v.serial
  let drawn := { v with serial := serial + 1 }
  drawn.checked (Model.strategy.named (customBody title content sectionKey)) fun body =>
    let s : Strategy := { body with id := Catalog.generatedId customOrigin title serial }
    { answer := .ok s
      service := drawn.withCatalog (v.catalog.insert s)
      events := [.addedCustom title s.id] }

/-- Change a strategy; `none` when there is none with that id. -/
def update (v : Service) (id : String) (r : Revision) : Outcome (Option Strategy) :=
  match v.catalog.get? id with
  | none => v.answer none
  | some existing =>
    v.checked (restored (r.mergedRecord existing id)) fun s =>
      { answer := .ok (some s)
        service := v.withCatalog (v.catalog.insert s)
        events := [.updated s.title id] }

/-- The strategy with the given id, if a user wrote it. -/
def custom? (v : Service) (id : String) : Option Strategy :=
  (v.catalog.get? id).filter (·.isCustom)

/-- Change a strategy that a user wrote. The revision is checked only when there is one. -/
def updateCustom (v : Service) (id : String) (r : Except Rejection Revision) :
    Outcome (Option Strategy) :=
  match v.custom? id with
  | none => v.answer none
  | some _ => v.checked r fun r => v.update id r

/-- Delete a strategy, and what clients have stored about it. -/
def delete (v : Service) (id : String) : Outcome Bool :=
  match v.catalog.get? id with
  | none => v.answer false
  | some s =>
    if s.isCustom then
      { answer := .ok true
        service := v.withCatalog (v.catalog.remove id)
        events := [.deleted id (v.catalog.clientsOf id).length] }
    else v.refuse (.conflict (.builtIn id))

/-- Delete a strategy that a user wrote; any other counts as not there. -/
def removeCustom (v : Service) (id : String) : Outcome Bool :=
  match v.custom? id with
  | none => v.answer false
  | some _ => v.delete id

/-- Store the strategies of imported drafts, each before the id of the next one is chosen. What was
stored before one of them is refused stays, and the indices are left as they are. -/
def importEach (v : Service) : List Draft → Outcome (List Strategy)
  | [] => v.answer []
  | d :: rest =>
    let serial := v.catalog.freshSerial importedOrigin d.title v.serial
    let drawn := { v with serial := serial + 1 }
    drawn.checked (restored (d.importedRecord (Catalog.generatedId importedOrigin d.title serial)))
      fun s => ((drawn.withCatalog (v.catalog.place s)).importEach rest).map (s :: ·)

/-- Import drafts under new ids, as strategies that users wrote. -/
def importDrafts (v : Service) (drafts : List Draft) : Outcome (List Strategy) :=
  (v.importEach drafts).andThen fun imported v =>
    { answer := .ok imported
      service := if imported.isEmpty then v else v.withCatalog v.catalog.stale
      events := [.imported imported.length] }

/-- The strategies that users wrote, as drafts to be imported elsewhere. -/
def exported (v : Service) : List Payload :=
  v.catalog.customStrategies.map Strategy.write

/-- Add the built-in strategies that are not there. -/
def seed (v : Service) : Outcome Nat :=
  let news := BuiltIn.all.filter fun s => !v.catalog.contains s.id
  { answer := .ok news.length
    service := v.withCatalog (v.catalog.insertAll news)
    events := [.seeded news.length] }

/-- Drop every strategy and every client's list. -/
def reset (v : Service) : Outcome Unit :=
  { answer := .ok (), service := v.withCatalog v.catalog.cleared }

/-- Read an index, rebuilding the indices first if they are stale. -/
def readIndex (v : Service) (table : Index → Entries (List Strategy)) (key : String) :
    Outcome (List Strategy) :=
  let catalog := v.catalog.refreshed
  { answer := .ok ((Entries.get? (table catalog.index) key).getD [])
    service := v.withCatalog catalog
    events := if v.catalog.freshness = .dirty then [.rebuiltIndices v.catalog.size] else [] }

end PlanCompiler.Service
