import PlanCompiler.Strategy.Basic
import PlanCompiler.Schema.Record

/-!
# Strategies on the wire

Reading strategies, drafts and revisions from payloads, and writing them as payloads. A record is
written with all its fields, in one of the two spellings; what is not set is written as null.

* `write`: under the wire spelling, as it is sent;
* `writeAs`, `recordAs`: under any spelling;
* `Draft.storedRecord`, `Revision.mergedRecord`: the records that a strategy is made from. They are
  read again before the strategy is stored.
-/

namespace PlanCompiler

open Schema

/-- Null for nothing, and what `write` makes of a value. -/
def Payload.ofOption {α : Type} (write : α → Payload) : Option α → Payload
  | none => .null
  | some a => write a

/-- A list of texts. -/
def Payload.ofTexts (texts : List String) : Payload :=
  .list (texts.map .text)

namespace ConditionalText

/-- Read the paragraphs of a toggle. -/
def read (p : Payload) : Checked ConditionalText :=
  (readRecord p).andThen fun r =>
    ConditionalText.mk <$> nullable r Key.whenTrue readText <*> nullable r Key.whenFalse readText

/-- The paragraphs of a toggle, key by key. -/
def keyed (c : ConditionalText) : List (Key × Payload) :=
  [(Key.whenTrue, .ofOption .text c.whenTrue), (Key.whenFalse, .ofOption .text c.whenFalse)]

/-- Write the paragraphs of a toggle in the given spelling. -/
def writeAs (spell : Key → String) (c : ConditionalText) : Payload :=
  .record (spelled spell c.keyed)

/-- Write the paragraphs of a toggle. -/
def write (c : ConditionalText) : Payload :=
  c.writeAs Key.wire

end ConditionalText

/-- Read the kind of input of a field. -/
def FieldType.read (p : Payload) : Checked FieldType :=
  match p with
  | .text name =>
    match Entries.get? choices name with
    | some type => .valid type
    | none => .fail (.unknownKind (Entries.keys choices)) p
  | _ => .fail (.unknownKind (Entries.keys choices)) p

namespace InputField

/-- A field to select from offers something to select. -/
def hasOptions (f : InputField) : Bool :=
  f.type ≠ .select || f.options.any fun options => !options.isEmpty

/-- Read an input field. That a field to select from has options is checked last. -/
def read (p : Payload) : Checked InputField :=
  (readRecord p).andThen fun r =>
    let fields := InputField.mk <$> mandatory r Key.id readIdentifier
      <*> mandatory r Key.label readText
      <*> optional r Key.kind .text FieldType.read
      <*> nullable r Key.placeholder readText
      <*> optional r Key.required false readBoolean
      <*> nullable r Key.options (readList readText)
      <*> nullable r Key.defaultValue readScalar
      <*> nullable r Key.conditionalText ConditionalText.read
    fields.andThen fun f =>
      if f.hasOptions then .valid f else .fail (.brokenRule (.optionsRequired f.id)) p

/-- An input field, key by key; its paragraphs are written in the given spelling. -/
def keyed (spell : Key → String) (f : InputField) : List (Key × Payload) :=
  [(Key.id, .text f.id), (Key.label, .text f.label), (Key.kind, .text f.type.name),
    (Key.placeholder, .ofOption .text f.placeholder), (Key.required, .boolean f.required),
    (Key.options, .ofOption .ofTexts f.options),
    (Key.defaultValue, .ofOption Scalar.toPayload f.defaultValue),
    (Key.conditionalText, .ofOption (ConditionalText.writeAs spell) f.conditionalText)]

/-- Write an input field in the given spelling. -/
def writeAs (spell : Key → String) (f : InputField) : Payload :=
  .record (spelled spell (f.keyed spell))

/-- Write an input field. -/
def write (f : InputField) : Payload :=
  f.writeAs Key.wire

/-- Write a list of input fields in the given spelling. -/
def writeAll (spell : Key → String) (fields : List InputField) : Payload :=
  .list (fields.map (writeAs spell))

end InputField

namespace StrategyBody

/-- Read all of a strategy but its id. -/
def read (r : Entries Payload) : Checked StrategyBody :=
  StrategyBody.mk <$> mandatory r Key.title readNonEmpty
    <*> optional r Key.description "" readText
    <*> optional r Key.category "" readText
    <*> nullable r Key.sectionKey readText
    <*> nullable r Key.subsection readText
    <*> mandatory r Key.content readText
    <*> optional r Key.inputFields [] (readList InputField.read)
    <*> optional r Key.isCustom false readBoolean

/-- All of a strategy but its id, key by key; the fields are written in the given spelling. -/
def keyed (spell : Key → String) (b : StrategyBody) : List (Key × Payload) :=
  [(Key.title, .text b.title), (Key.description, .text b.description),
    (Key.category, .text b.category), (Key.sectionKey, .ofOption .text b.sectionKey),
    (Key.subsection, .ofOption .text b.subsection), (Key.content, .text b.content),
    (Key.inputFields, InputField.writeAll spell b.inputFields),
    (Key.isCustom, .boolean b.isCustom)]

end StrategyBody

namespace Strategy

/-- Read a strategy. -/
def read (p : Payload) : Checked Strategy :=
  (readRecord p).andThen fun r =>
    (fun id body => { body with id }) <$> mandatory r Key.id readText <*> StrategyBody.read r

/-- Write a strategy in the given spelling. -/
def recordAs (spell : Key → String) (s : Strategy) : Entries Payload :=
  spelled spell ((Key.id, .text s.id) :: s.toStrategyBody.keyed spell)

/-- Write a strategy. -/
def write (s : Strategy) : Payload :=
  .record (s.recordAs Key.wire)

end Strategy

namespace Draft

/-- Read a draft. -/
def read (p : Payload) : Checked Draft :=
  (readRecord p).andThen fun r =>
    (fun id body => { body with id }) <$> nullable r Key.id readText <*> StrategyBody.read r

/-- Write a draft in the given spelling. -/
def recordAs (spell : Key → String) (d : Draft) : Entries Payload :=
  spelled spell ((Key.id, .ofOption .text d.id) :: d.toStrategyBody.keyed spell)

/-- Write a draft. -/
def write (d : Draft) : Payload :=
  .record (d.recordAs Key.wire)

/-- The record that the strategy of a draft is read from: all of the draft, under the given id. -/
def storedRecord (d : Draft) (id : String) : Entries Payload :=
  Entries.put (d.recordAs Key.plain) Key.id.plain (.text id)

/-- The same for an imported draft, whose strategy counts as written by a user. -/
def importedRecord (d : Draft) (id : String) : Entries Payload :=
  Entries.put (d.storedRecord id) Key.isCustom.plain (.boolean true)

/-- Read several drafts sent together. -/
def readBatch (p : Payload) : Checked (List Draft) :=
  (readRecord p).andThen fun r => mandatory r Key.strategies (readList Draft.read)

/-- Write several drafts as they are sent together. -/
def writeBatch (drafts : List Draft) : Payload :=
  .record [(Key.strategies.wire, .list (drafts.map Draft.write))]

end Draft

namespace Revision

/-- A field that tells null from not being there. -/
def readChange {α : Type} (r : Entries Payload) (key : Key) (read : Payload → Checked α) :
    Checked (Option (Option α)) :=
  optional r key none fun p => (readNullable read p).map some

/-- Read a revision. Null asks for no change, except for section and subsection. -/
def read (p : Payload) : Checked Revision :=
  (readRecord p).andThen fun r =>
    Revision.mk <$> nullable r Key.title readNonEmpty
      <*> nullable r Key.description readText
      <*> nullable r Key.category readText
      <*> readChange r Key.sectionKey readText
      <*> readChange r Key.subsection readText
      <*> nullable r Key.content readText
      <*> nullable r Key.inputFields (readList InputField.read)
      <*> .valid r

/-- A revision, key by key; the input fields are written in the given spelling. -/
def keyed (spell : Key → String) (v : Revision) : List (Key × Payload) :=
  [(Key.title, .ofOption .text v.title), (Key.description, .ofOption .text v.description),
    (Key.category, .ofOption .text v.category),
    (Key.sectionKey, .ofOption .text v.sectionKey.join),
    (Key.subsection, .ofOption .text v.subsection.join),
    (Key.content, .ofOption .text v.content),
    (Key.inputFields, .ofOption (InputField.writeAll spell) v.inputFields)]

/-- Write a revision in the given spelling. -/
def recordAs (spell : Key → String) (v : Revision) : Entries Payload :=
  spelled spell (v.keyed spell)

/-- Write a revision. -/
def write (v : Revision) : Payload :=
  .record (v.recordAs Key.wire)

/-- The fields that a revision may change to nothing. -/
def clearable : List String :=
  [Key.sectionKey.plain, Key.subsection.plain]

/-- The fields that a revision changes: those that were given, with null only where a field may be
changed to nothing. -/
def changes (v : Revision) : Entries Payload :=
  (onlyGivenFields Key.plain v.given (v.recordAs Key.plain)).filter fun entry =>
    entry.2 ≠ .null || clearable.contains entry.1

/-- The record that a revised strategy is read from: the strategy with the changes merged into it,
under its old id and of its old origin. -/
def mergedRecord (v : Revision) (s : Strategy) (id : String) : Entries Payload :=
  Entries.put
    (Entries.put (Entries.putAll (s.recordAs Key.plain) v.changes) Key.id.plain (.text id))
    Key.isCustom.plain (.boolean s.isCustom)

end Revision

namespace CustomDraft

/-- Read a strategy in the short form. -/
def read (p : Payload) : Checked CustomDraft :=
  (readRecord p).andThen fun r =>
    CustomDraft.mk <$> mandatory r Key.title readNonEmpty
      <*> mandatory r Key.content readNonEmpty
      <*> mandatory r Key.sectionKey readNonEmpty

/-- Write a strategy in the short form. -/
def write (c : CustomDraft) : Payload :=
  .record [(Key.title.wire, .text c.title), (Key.content.wire, .text c.content),
    (Key.sectionKey.wire, .text c.sectionKey)]

end CustomDraft

end PlanCompiler
