import PlanCompiler.Proofs.Report.Request
import PlanCompiler.Proofs.Schema.Given
import PlanCompiler.Proofs.Schema.IndifferentReaders
import PlanCompiler.Proofs.Strategy.Revision

/-!
# Wire names do not matter

For every schema, a payload and a respelled one are read alike, at every depth: as the same value
and with the same normal form, or with the same faults in the same order at the same places
(`Model.alike_of_respelled`). A field that stands twice, under one spelling or under both, is left
out of account.

* `Model.Value`, `Model.read`, `Model.write`: what a schema makes of a payload, and the normal form
as reading and writing (`Model.normalize_eq`);
* `Model.Same`: equal values; revisions also remember which fields were given, and how those are
spelled makes no difference to what they change (`Revision.alike_read`);
* `Model.along_write`: normal forms have fields where the schemas have some.
-/

namespace PlanCompiler

open Schema Schema.Key Schema.Checked

/-! ## What is written, along the shapes -/

section Strategies

variable {spell : Key → String} (hs : IsSpelling spell)

include hs

theorem ConditionalText.along_writeAs (c : ConditionalText) :
    Along spell (.record Shape.conditionalText) (c.writeAs spell) :=
  along_record hs Model.conditionalText.distinct_fields (forall₂_plainFields rfl)

theorem InputField.along_writeAs (f : InputField) :
    Along spell (.record Shape.inputField) (f.writeAs spell) := by
  have paragraphs := Along.ofOption (ConditionalText.along_writeAs hs) f.conditionalText
  refine along_record hs Model.inputField.distinct_fields ?_
  simp [Model.fields, Shape.inputField, Shape.plainFields, keyed, spelled, Along.free, paragraphs]

theorem InputField.along_writeAll (fields : List InputField) :
    Along spell (.list (.record Shape.inputField)) (writeAll spell fields) :=
  .map (InputField.along_writeAs hs) fields

theorem StrategyBody.along_keyed (b : StrategyBody) (id : Payload) :
    Along spell (.record Shape.strategy)
      (.record (spelled spell ((Key.id, id) :: b.keyed spell))) := by
  have fields := InputField.along_writeAll hs b.inputFields
  refine along_record hs Model.strategy.distinct_fields ?_
  simp [Model.fields, Shape.strategy, Shape.plainFields, keyed, spelled, Along.free, fields]

theorem Revision.along_recordAs (v : Revision) :
    Along spell (.record Shape.revision) (.record (v.recordAs spell)) := by
  have fields := Along.ofOption (InputField.along_writeAll hs) v.inputFields
  refine along_record hs Model.revision.distinct_fields ?_
  simp [Model.fields, Shape.revision, Shape.plainFields, recordAs, keyed, spelled, Along.free,
    fields]

end Strategies

theorem Draft.along_writeBatch (drafts : List Draft) :
    Along Key.wire (.record Shape.draftBatch) (writeBatch drafts) := by
  have items := Along.map (fun d => StrategyBody.along_keyed isSpelling_wire
    (Draft.toStrategyBody d) (.ofOption .text d.id)) drafts
  exact along_record isSpelling_wire Model.draftBatch.distinct_fields (.cons ⟨rfl, items⟩ .nil)

theorem ClientData.along_write {p : Payload} {c : ClientData} (h : read p = .valid c)
    (once : p.spelledOnce (.record Shape.clientData) = true) :
    Along Key.wire (.record Shape.clientData) (.record (c.writeForm .asGiven ++ c.others)) := by
  obtain ⟨r, rfl, fields⟩ := read_eq_valid_iff.1 h
  obtain ⟨-, others⟩ := readOthers_eq_valid_iff.1 fields.others
  refine along_record_append isSpelling_wire Model.clientData.distinct_fields
    (forall₂_plainFields rfl) fun entry mem => ?_
  exact unknown_of_unclaimed (once_of_spelledOnce once) (others ▸ mem)

theorem ClientConfig.along_write (c : ClientConfig) :
    Along Key.wire (.record Shape.clientConfig) c.write :=
  along_record isSpelling_wire Model.clientConfig.distinct_fields (forall₂_plainFields rfl)

theorem ReportRequest.along_write {p : Payload} {q : ReportRequest} (h : read p = .valid q)
    (once : p.spelledOnce (.record Shape.reportRequest) = true) :
    Along Key.wire (.record Shape.reportRequest) (.record ((Key.clientData.wire,
      .record (q.clientData.writeForm .asGiven ++ q.clientData.others)) :: q.writeSelection)) := by
  obtain ⟨r, rfl, fields⟩ := read_eq_valid_iff.1 h
  obtain ⟨name, p, found, accepted⟩ := mandatory_eq_valid_iff.1 fields.clientData
  have once := spelledOnce_of_find? Model.reportRequest.distinct_fields once (mem_of_lookup rfl)
    found
  have data := ClientData.along_write accepted once
  have configs := Along.ofOption (Along.map ClientConfig.along_write) q.strategyConfigurations
  refine along_record isSpelling_wire Model.reportRequest.distinct_fields ?_
  simp [Model.fields, Shape.reportRequest, Shape.plainFields, writeSelection, Along.free, data,
    configs]

/-! ## Revisions -/

/-- A respelled revision changes the same fields to the same values. -/
theorem Revision.alike_read {p q : Payload} (same : p.respelled (.record Shape.revision) q = true)
    (once : p.spelledOnce (.record Shape.revision) = true) :
    Alike (fun v w => { v with given := w.given } = w ∧ v.changes = w.changes) p q (read p)
      (read q) := by
  refine alike_record Model.revision.distinct_fields same once ?_
  rintro r t rfl rfl h
  have change (key : Key) (there : Shape.revision.lookup key = some .free) :
      Alike Eq (.record r) (.record t) (readChange r key readText) (readChange t key readText) :=
    h.optional key there none (indifferent_free _)
  have fields := (h.nullable Key.title rfl (indifferent_free readNonEmpty)).fmap Revision.mk
    |>.ap (h.nullable Key.description rfl (indifferent_free readText))
    |>.ap (h.nullable Key.category rfl (indifferent_free readText))
    |>.ap (change Key.sectionKey rfl)
    |>.ap (change Key.subsection rfl)
    |>.ap (h.nullable Key.content rfl (indifferent_free readText))
    |>.ap (h.nullable Key.inputFields rfl InputField.indifferent_read.list)
  have changed (v : Revision) : onlyGivenFields plain r (v.recordAs plain) =
      onlyGivenFields plain t (v.recordAs plain) :=
    Payload.record.inj (onlyGiven_eq isSpelling_plain (along_recordAs isSpelling_plain v) _ _ same
      once)
  have given : Alike (fun a b => a = r ∧ b = t) (.record r) (.record t) (.valid r) (.valid t) :=
    .valid ⟨rfl, rfl⟩
  refine Alike.seq (fields.strengthen fun f g accepted alike => ?_) given
  subst alike
  rintro _ _ ⟨rfl, rfl⟩
  simp only [functor_map_eq, applicative_seq_eq, seq_eq_valid_iff, map_eq_valid_iff,
    ↓existsAndEq, and_true] at accepted
  obtain ⟨_, _, _, _, _, _, _, -, -, rfl⟩ := accepted
  -- Only the records that they were read from tell the two revisions apart.
  exact ⟨rfl, congrArg (List.filter _) (changed _)⟩

namespace Schema.Model

/-! ## Every schema -/

/-- What a schema makes of a payload that it accepts. -/
def Value : Model → Type
  | .conditionalText => ConditionalText
  | .inputField => InputField
  | .draft => Draft
  | .strategy => Strategy
  | .revision => Revision
  | .customDraft => CustomDraft
  | .draftBatch => List Draft
  | .clientConfig => ClientConfig
  | .clientData => ClientData
  | .reportRequest => ReportRequest
  | .compiledReport => CompiledReport
  | .reportView => ReportView

/-- Read a payload as a schema says. -/
def read : (model : Model) → Payload → Checked model.Value
  | .conditionalText => ConditionalText.read
  | .inputField => InputField.read
  | .draft => Draft.read
  | .strategy => Strategy.read
  | .revision => Revision.read
  | .customDraft => CustomDraft.read
  | .draftBatch => Draft.readBatch
  | .clientConfig => ClientConfig.read
  | .clientData => ClientData.read
  | .reportRequest => ReportRequest.read
  | .compiledReport => CompiledReport.read
  | .reportView => ReportView.read

/-- Write what was read as a schema says. -/
def write (mode : WriteMode) : (model : Model) → model.Value → Except WriteFault Payload
  | .conditionalText, c => .ok (ConditionalText.write c)
  | .inputField, f => .ok (InputField.write f)
  | .draft, d => .ok (Draft.write d)
  | .strategy, s => .ok (Strategy.write s)
  | .revision, r => .ok (Revision.write r)
  | .customDraft, c => .ok (CustomDraft.write c)
  | .draftBatch, ds => .ok (Draft.writeBatch ds)
  | .clientConfig, c => .ok (ClientConfig.write c)
  | .clientData, c => ClientData.write mode c
  | .reportRequest, q => ReportRequest.write mode q
  | .compiledReport, c => .ok (CompiledReport.write c)
  | .reportView, v => ReportView.write mode v

theorem normalize_eq (mode : WriteMode) (model : Model) (p : Payload) :
    model.normalize mode p = (model.read p).map (model.write mode) := by
  cases model <;> rfl

/-- The two values are equal. A revision holds the record that it was read from, in order to tell
which fields were given: there the fields are equal, and the changes that were asked for. -/
def Same : (model : Model) → model.Value → model.Value → Prop
  | .revision, v, w =>
    { v with given := w.given : Revision } = w ∧ Revision.changes v = Revision.changes w
  | _, v, w => v = w

variable {p q : Payload} {model : Model}

theorem write_eq {v w : model.Value} (same : model.Same v w) (mode : WriteMode) :
    model.write mode v = model.write mode w := by
  cases model with
  | revision =>
    obtain ⟨fields, -⟩ := same
    exact (congrArg (fun u : Revision => Except.ok u.write) fields :)
  | _ => exact congrArg _ same

theorem alike_read (same : p.respelled model.shape q = true)
    (once : p.spelledOnce model.shape = true) :
    Alike model.Same p q (model.read p) (model.read q) := by
  cases model with
  | conditionalText => exact ConditionalText.indifferent_read p q same once
  | inputField => exact InputField.indifferent_read p q same once
  | draft => exact Draft.indifferent_read p q same once
  | strategy => exact Strategy.indifferent_read p q same once
  | revision => exact Revision.alike_read same once
  | customDraft => exact CustomDraft.indifferent_read p q same once
  | draftBatch => exact Draft.indifferent_readBatch p q same once
  | clientConfig => exact ClientConfig.indifferent_read p q same once
  | clientData => exact ClientData.indifferent_read p q same once
  | reportRequest => exact ReportRequest.indifferent_read p q same once
  | compiledReport => exact CompiledReport.indifferent_read p q same once
  | reportView => exact ReportView.indifferent_read p q same once

theorem along_write (once : p.spelledOnce model.shape = true) {v : model.Value} {w : Payload}
    (accepted : model.read p = .valid v) (written : model.write .asGiven v = .ok w) :
    Along Key.wire model.shape w := by
  cases model <;> cases written
  case conditionalText => exact ConditionalText.along_writeAs isSpelling_wire _
  case inputField => exact InputField.along_writeAs isSpelling_wire _
  case draft => exact StrategyBody.along_keyed isSpelling_wire _ _
  case strategy => exact StrategyBody.along_keyed isSpelling_wire _ _
  case revision => exact Revision.along_recordAs isSpelling_wire _
  case draftBatch => exact Draft.along_writeBatch _
  case clientConfig => exact ClientConfig.along_write _
  case clientData => exact ClientData.along_write accepted once
  case reportRequest => exact ReportRequest.along_write accepted once
  all_goals
    exact along_record isSpelling_wire (Model.distinct_fields _) (forall₂_plainFields rfl)

theorem alike_normalizeGiven (same : p.respelled model.shape q = true)
    (once : p.spelledOnce model.shape = true) :
    Alike Eq p q (model.normalizeGiven p) (model.normalizeGiven q) := by
  have values := (alike_read same once).strengthen fun v w accepted alike =>
    And.intro accepted alike
  have written : Alike (fun c d => c.map (onlyGiven Key.wire p) = d.map (onlyGiven Key.wire q)) p q
      ((model.read p).map (model.write .asGiven)) ((model.read q).map (model.write .asGiven)) := by
    refine values.map fun v w ⟨accepted, alike⟩ => ?_
    rw [← write_eq alike .asGiven]
    cases written : model.write .asGiven v with
    | error fault => rfl
    | ok payload =>
      exact congrArg Except.ok
        (onlyGiven_eq isSpelling_wire (along_write once accepted written) p q same once)
  rw [normalizeGiven, normalizeGiven, normalize_eq, normalize_eq]
  exact written.map fun _ _ h => h

/-- However the fields of a payload are spelled, as long as none of them stands twice: it is
accepted under all spellings or under none, as the same value and with the same normal form, or it
is rejected with the same faults in the same order, at the same places. -/
theorem alike_of_respelled (model : Model) (p q : Payload)
    (same : p.respelled model.shape q = true) (once : p.spelledOnce model.shape = true) :
    Alike model.Same p q (model.read p) (model.read q) ∧
      (∀ mode, Alike Eq p q (model.normalize mode p) (model.normalize mode q)) ∧
      Alike Eq p q (model.normalizeGiven p) (model.normalizeGiven q) := by
  refine ⟨alike_read same once, fun mode => ?_, alike_normalizeGiven same once⟩
  rw [normalize_eq, normalize_eq]
  exact (alike_read same once).map fun _ _ alike => write_eq alike mode

/-- A request with a name of its own in the client data, and one that looks like a field among the
entered values. -/
def sampleRequest (spell : Key → String) (income : Payload) : Payload :=
  .record
    [(spell Key.clientData, .record [(spell Key.annualIncome, income), ("pets", .integer 2)]),
      (spell Key.strategyConfigurations, .list
        [.record [(spell Key.strategyId, .text "tax-plan"), (spell Key.isEnabled, .boolean true),
          (spell Key.inputValues, .record [("is_enabled", .text "no")])]])]

/-- One request is accepted and one is rejected, under names of both spellings. -/
theorem alike_of_respelled_sampleRequest :
    (∀ income ∈ [.integer 5, .text "five"],
      let p := sampleRequest Key.wire income
      let q := sampleRequest Key.plain income
      p.respelled Model.reportRequest.shape q = true ∧
        p.spelledOnce Model.reportRequest.shape = true ∧
        Alike (Same .reportRequest) p q (Model.reportRequest.read p)
          (Model.reportRequest.read q)) ∧
      (Model.reportRequest.read (sampleRequest Key.plain (.integer 5))).toOption.isSome = true ∧
      Model.reportRequest.read (sampleRequest Key.plain (.text "five")) = .invalid
        [⟨.unreadableNumber, [.field "client_data", .field "annual_income"], .text "five"⟩] := by
  have respelled : ∀ income ∈ [.integer 5, .text "five"],
      (sampleRequest Key.wire income).respelled Model.reportRequest.shape
          (sampleRequest Key.plain income) = true ∧
        (sampleRequest Key.wire income).spelledOnce Model.reportRequest.shape = true := by
    decide
  refine ⟨fun income mem => ?_, rfl, rfl⟩
  obtain ⟨same, once⟩ := respelled income mem
  exact ⟨same, once, (alike_of_respelled .reportRequest _ _ same once).1⟩

end Schema.Model

end PlanCompiler
