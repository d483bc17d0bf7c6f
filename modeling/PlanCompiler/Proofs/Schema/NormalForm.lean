import PlanCompiler.Proofs.Client.Data
import PlanCompiler.Proofs.Report.Request
import PlanCompiler.Proofs.Strategy.Revision
import PlanCompiler.Schema.Model

/-!
# The normal form of every schema

What a schema writes of a payload that it accepts is accepted by the same schema and written as it
is, to the last scalar. There is one exception to its being written at all: what a record of client
data holds outside the form must have a stored form.

* `Settles`: a reader and a writer that agree after one step;
* `Model.clientFields?`: where a payload holds client data;
* `Model.HasNormalForm`, `Model.hasNormalForm`: the normal form;
* `Model.unwritten_of_nested`: data that is accepted and has none.
-/

namespace PlanCompiler

open Schema Schema.Key

variable {α : Type}

/-- What is written of a value that was read is read, if not as the same value then as one that is
written in the same way. -/
def Schema.Settles (read : Payload → Checked α) (write : α → Payload) : Prop :=
  ∀ p a, read p = .valid a → ∃ b, read (write a) = .valid b ∧ write b = write a

namespace Schema

variable {read : Payload → Checked α} {write : α → Payload}

/-- Most values are read as they were written. -/
theorem settles_of_read_write (back : ∀ p a, read p = .valid a → read (write a) = .valid a) :
    Settles read write :=
  fun p a h => ⟨a, back p a h, rfl⟩

end Schema

/-! ## Strategies -/

theorem writes_nonEmpty {p : Payload} {s : String} (h : readNonEmpty p = .valid s) :
    Writes readNonEmpty .text s := by
  obtain ⟨-, whole, filled⟩ := readNonEmpty_eq_valid_iff.1 h
  exact ⟨Payload.noConfusion, readNonEmpty_eq_valid_iff.2 ⟨rfl, whole, filled⟩⟩

theorem InputField.writes_writeAll {p : Payload} {fields : List InputField}
    (h : readList read p = .valid fields) : Writes (readList read) (writeAll wire) fields :=
  ⟨Payload.noConfusion, readList_writeAll isSpelling_wire (isValid_of_readList h)⟩

theorem InputField.settles : Settles InputField.read InputField.write :=
  settles_of_read_write fun _ _ h => read_writeAs isSpelling_wire (isValid_of_read h)

theorem Strategy.settles : Settles Strategy.read Strategy.write := by
  refine settles_of_read_write fun p s h => ?_
  obtain ⟨r, -, -, body⟩ := Strategy.read_eq_valid_iff.1 h
  exact Strategy.read_recordAs isSpelling_wire body.isValid

theorem ConditionalText.settles : Settles ConditionalText.read ConditionalText.write :=
  settles_of_read_write fun _ c _ => (ConditionalText.writes isSpelling_wire c).2

namespace Draft

theorem read_write {p : Payload} {d : Draft} (h : read p = .valid d) :
    read d.write = .valid d := by
  refine read_eq_valid_iff.2
    ⟨_, rfl, ?_, StrategyBody.readFrom_spelled isSpelling_wire (isValid_of_read h) _⟩
  exact optional_spelled isSpelling_wire (d.known _) (by decide) rfl (readNullable_ofText d.id)

theorem settles : Settles read write :=
  settles_of_read_write fun _ _ => read_write

theorem settles_batch : Settles readBatch writeBatch := by
  refine settles_of_read_write fun p drafts h => ?_
  have back : ∀ d ∈ drafts, read d.write = .valid d :=
    forall_mem_of_readBatch (fun _ _ => read_write) h
  refine Checked.andThen_eq_valid_iff.2 ⟨_, rfl, ?_⟩
  exact mandatory_eq_valid_iff.2 ⟨_, _, rfl, readList_map back⟩

end Draft

namespace CustomDraft

/-- The fields of a record are those of the draft. -/
structure ReadFrom (r : Entries Payload) (c : CustomDraft) : Prop where
  title : mandatory r Key.title readNonEmpty = .valid c.title
  content : mandatory r Key.content readNonEmpty = .valid c.content
  sectionKey : mandatory r Key.sectionKey readNonEmpty = .valid c.sectionKey

theorem read_eq_valid_iff {p : Payload} {c : CustomDraft} :
    read p = .valid c ↔ ∃ r, p = .record r ∧ ReadFrom r c := by
  simp only [read, Checked.andThen_eq_valid_iff, readRecord_eq_valid_iff, Checked.functor_map_eq,
    Checked.applicative_seq_eq, Checked.seq_eq_valid_iff, Checked.map_eq_valid_iff, ↓existsAndEq,
    and_true, and_assoc]
  constructor
  · rintro ⟨r, rfl, _, _, _, h1, h2, h3, rfl⟩
    exact ⟨r, rfl, h1, h2, h3⟩
  · rintro ⟨r, rfl, h1, h2, h3⟩
    exact ⟨r, rfl, _, _, _, h1, h2, h3, rfl⟩

theorem settles : Settles read write := by
  refine settles_of_read_write fun p c h => ?_
  obtain ⟨r, -, fields⟩ := read_eq_valid_iff.1 h
  have text {key : Key} {s : String} (hread : mandatory r key readNonEmpty = .valid s) :
      readNonEmpty (.text s) = .valid s := by
    obtain ⟨name, source, -, accepted⟩ := mandatory_eq_valid_iff.1 hread
    exact (writes_nonEmpty accepted).2
  refine read_eq_valid_iff.2 ⟨_, rfl, ?_⟩
  exact
    { title := mandatory_eq_valid_iff.2 ⟨_, _, rfl, text fields.title⟩
      content := mandatory_eq_valid_iff.2 ⟨_, _, rfl, text fields.content⟩
      sectionKey := mandatory_eq_valid_iff.2 ⟨_, _, rfl, text fields.sectionKey⟩ }

end CustomDraft

namespace Revision

/-- A revision as it is read once all its fields were written. -/
def settled (v : Revision) : Revision :=
  { v with
    sectionKey := some v.sectionKey.join
    subsection := some v.subsection.join
    given := v.recordAs wire }

theorem known_wire (v : Revision) : (v.keyed wire).map Prod.fst ⊆ all :=
  fun key mem => (apart_of_changeable key mem).1

theorem settles : Settles read write := by
  intro p v h
  obtain ⟨r, rfl, fields⟩ := read_eq_valid_iff.1 h
  refine ⟨v.settled, read_eq_valid_iff.2 ⟨_, rfl, ?_⟩, rfl⟩
  have text {s? : Option String} {key : Key} (hk : key ∈ all)
      (there : (v.keyed wire).lookup key = some (.ofOption .text s?)) :
      nullable (v.recordAs wire) key readText = .valid s? :=
    optional_spelled isSpelling_wire v.known_wire hk there (readNullable_ofText s?)
  have clear {s?? : Option (Option String)} {key : Key} (hk : key ∈ all)
      (there : (v.keyed wire).lookup key = some (.ofOption .text s??.join)) :
      readChange (v.recordAs wire) key readText = .valid (some s??.join) := by
    refine optional_spelled isSpelling_wire v.known_wire hk there ?_
    rw [readNullable_ofText]
    rfl
  exact
    { title := optional_spelled isSpelling_wire v.known_wire (by decide) rfl
        (readNullable_ofOption_of_nullable fields.title fun _ _ => writes_nonEmpty)
      description := text (by decide) rfl
      category := text (by decide) rfl
      sectionKey := clear (by decide) rfl
      subsection := clear (by decide) rfl
      content := text (by decide) rfl
      inputFields := optional_spelled isSpelling_wire v.known_wire (by decide) rfl
        (readNullable_ofOption_of_nullable fields.inputFields
          fun _ _ => InputField.writes_writeAll)
      given := rfl }

end Revision

/-! ## Configurations, requests and what they are answered with -/

theorem ClientConfig.settles : Settles ClientConfig.read ClientConfig.write :=
  settles_of_read_write fun _ _ h => read_write (isValid_of_read h)

theorem ClientConfig.writes_all {p : Payload} {configs : List ClientConfig}
    (h : readList read p = .valid configs) :
    Writes (readList read) (fun cs => .list (cs.map write)) configs :=
  ⟨Payload.noConfusion, readList_map fun config mem =>
    read_write (forall_mem_of_readList (fun _ _ => isValid_of_read) h config mem)⟩

theorem CompiledReport.settles : Settles CompiledReport.read CompiledReport.write :=
  settles_of_read_write fun _ _ _ => rfl

namespace ReportRequest

/-- A request as it is read from its stored form. -/
def settled (q : ReportRequest) : ReportRequest :=
  { q with clientData := q.clientData.settled }

/-- A request, key by key, with its data as a payload. -/
def keyed (q : ReportRequest) (data : Payload) : List (Key × Payload) :=
  [(Key.clientData, data), (Key.clientId, .ofOption .text q.clientId),
    (Key.strategyConfigurations,
      .ofOption (fun cs => .list (cs.map ClientConfig.write)) q.strategyConfigurations),
    (Key.selectedStrategyIds, .ofOption .ofTexts q.selectedStrategyIds),
    (Key.selectedCustomStrategyIds, .ofOption .ofTexts q.selectedCustomStrategyIds)]

theorem known (q : ReportRequest) (data : Payload) : (q.keyed data).map Prod.fst ⊆ all :=
  show [Key.clientData, Key.clientId, Key.strategyConfigurations, Key.selectedStrategyIds,
    Key.selectedCustomStrategyIds] ⊆ all by decide

theorem write_eq_ok_iff {q : ReportRequest} {n : Payload} :
    q.write .stored = .ok n ↔ ∃ data, q.clientData.write .stored = .ok data ∧
      n = .record (spelled wire (q.keyed data)) := by
  rw [write]
  cases q.clientData.write .stored with
  | error fault => exact ⟨nofun, nofun⟩
  | ok data =>
    exact ⟨fun h => ⟨data, rfl, (Except.ok.inj h).symm⟩, fun ⟨_, h, same⟩ => by
      cases h
      exact congrArg Except.ok same.symm⟩

theorem read_written {r : Entries Payload} {q : ReportRequest} {data : Payload}
    (h : ReadFrom r q) (written : q.clientData.write .stored = .ok data) :
    read (.record (spelled wire (q.keyed data))) = .valid q.settled := by
  obtain ⟨name, source, -, hread⟩ := mandatory_eq_valid_iff.1 h.clientData
  have texts {ids? : Option (List String)} :
      readNullable (readList readText) (.ofOption .ofTexts ids?) = .valid ids? :=
    readNullable_ofOption fun ids _ => InputField.writes_ofTexts ids
  refine read_eq_valid_iff.2 ⟨_, rfl, ?_⟩
  exact
    { clientData := mandatory_spelled isSpelling_wire (q.known data) (by decide) rfl
        (ClientData.read_written hread written)
      clientId := optional_spelled isSpelling_wire (q.known data) (by decide) rfl
        (readNullable_ofText _)
      strategyConfigurations := optional_spelled isSpelling_wire (q.known data) (by decide) rfl
        (readNullable_ofOption_of_nullable h.strategyConfigurations
          fun _ _ => ClientConfig.writes_all)
      selectedStrategyIds := optional_spelled isSpelling_wire (q.known data) (by decide) rfl texts
      selectedCustomStrategyIds := optional_spelled isSpelling_wire (q.known data) (by decide) rfl
        texts
      hasSelection := h.hasSelection }

end ReportRequest

/-! ## Every schema -/

namespace Schema.Model

/-- The record of client data in a payload, for the schemas that have one. -/
def clientFields? : Model → Payload → Option (Entries Payload)
  | .clientData, .record data => some data
  | .reportRequest, .record r =>
    match find? r Key.clientData with
    | some (_, .record data) => some data
    | _ => none
  | _, _ => none

/-- What a schema writes of a payload in the form that is stored. Payloads are compared with the
kinds of their scalars, so nothing is converted on the way from a normal form to itself. -/
structure HasNormalForm (model : Model) (p : Payload) (written : Except WriteFault Payload) :
    Prop where
  /-- It is written, unless client data outside the form has no stored form. -/
  exists_iff : (∃ n, written = .ok n) ↔ ∀ data ∈ model.clientFields? p,
    ∀ entry ∈ data, IsOther ClientData.formKeys data entry.1 → entry.2.IsStorable
  /-- It is accepted by the same schema and is its own normal form. -/
  again : ∀ n, written = .ok n → model.normalize .stored n = .valid (.ok n)
  /-- Client data outside the form is kept, and incomes that were left out are filled in. -/
  keeps : ∀ n, written = .ok n → ∀ data ∈ model.clientFields? p,
    ∃ kept ∈ model.clientFields? n, ClientData.Keeps data kept

variable {model : Model} {p : Payload} {written : Except WriteFault Payload}

/-- A schema without client data writes everything that it accepts. -/
theorem hasNormalForm_of_settles {read : Payload → Checked α} {write : α → Payload}
    (settles : Settles read write) (apart : ∀ q, model.clientFields? q = none)
    (form : ∀ q, model.normalize .stored q = (read q).map fun a => .ok (write a))
    (accepted : model.normalize .stored p = .valid written) : model.HasNormalForm p written := by
  rw [form, Checked.map_eq_valid_iff] at accepted
  obtain ⟨a, hread, rfl⟩ := accepted
  obtain ⟨b, again, same⟩ := settles p a hread
  constructor
  · simp [apart]
  · intro n h
    rw [← Except.ok.inj h, form, Checked.map_eq_valid_iff]
    exact ⟨b, again, congrArg Except.ok same⟩
  · simp [apart]

theorem hasNormalForm_clientData
    (accepted : Model.clientData.normalize .stored p = .valid written) :
    Model.clientData.HasNormalForm p written := by
  obtain ⟨c, hread, rfl⟩ := Checked.map_eq_valid_iff.1 accepted
  obtain ⟨r, rfl, fields⟩ := ClientData.read_eq_valid_iff.1 hread
  constructor
  · rw [ClientData.exists_write_iff fields]
    exact ⟨fun h data mem => Option.some.inj mem ▸ h, fun h => h r rfl⟩
  · exact fun n h => Checked.map_eq_valid_iff.2
      ⟨c.settled, ClientData.read_written hread h, ClientData.write_settled h⟩
  · rintro n h data ⟨⟩
    obtain ⟨-, rfl⟩ := ClientData.write_eq_ok_iff.1 h
    exact ⟨c.storedRecord, rfl, ClientData.keeps_storedRecord fields⟩

theorem hasNormalForm_reportRequest
    (accepted : Model.reportRequest.normalize .stored p = .valid written) :
    Model.reportRequest.HasNormalForm p written := by
  obtain ⟨q, hread, rfl⟩ := Checked.map_eq_valid_iff.1 accepted
  obtain ⟨r, rfl, fields⟩ := ReportRequest.read_eq_valid_iff.1 hread
  obtain ⟨name, source, found, hdata⟩ := mandatory_eq_valid_iff.1 fields.clientData
  obtain ⟨data, rfl, dataFields⟩ := ClientData.read_eq_valid_iff.1 hdata
  have given : Model.reportRequest.clientFields? (.record r) = some data := by
    rw [clientFields?, found]
  constructor
  · have same : (∃ n, q.write .stored = .ok n) ↔ ∃ n, q.clientData.write .stored = .ok n := by
      simp only [ReportRequest.write_eq_ok_iff]
      exact ⟨fun ⟨_, d, h, _⟩ => ⟨d, h⟩, fun ⟨d, h⟩ => ⟨_, d, h, rfl⟩⟩
    rw [same, ClientData.exists_write_iff dataFields, given]
    exact ⟨fun h data mem => Option.some.inj mem ▸ h, fun h => h data rfl⟩
  · intro n h
    obtain ⟨d, hd, rfl⟩ := ReportRequest.write_eq_ok_iff.1 h
    refine Checked.map_eq_valid_iff.2 ⟨q.settled, ReportRequest.read_written fields hd, ?_⟩
    exact ReportRequest.write_eq_ok_iff.2 ⟨d, ClientData.write_settled hd, rfl⟩
  · rw [given]
    rintro n h data ⟨⟩
    obtain ⟨d, hd, rfl⟩ := ReportRequest.write_eq_ok_iff.1 h
    obtain ⟨-, rfl⟩ := ClientData.write_eq_ok_iff.1 hd
    exact ⟨q.clientData.storedRecord, rfl, ClientData.keeps_storedRecord dataFields⟩

/-- Every schema but the one of shown reports has a normal form. -/
theorem hasNormalForm (covered : model ≠ .reportView)
    (accepted : model.normalize .stored p = .valid written) : model.HasNormalForm p written := by
  cases model with
  | conditionalText =>
    exact hasNormalForm_of_settles ConditionalText.settles (fun _ => rfl) (fun _ => rfl) accepted
  | inputField =>
    exact hasNormalForm_of_settles InputField.settles (fun _ => rfl) (fun _ => rfl) accepted
  | draft => exact hasNormalForm_of_settles Draft.settles (fun _ => rfl) (fun _ => rfl) accepted
  | strategy =>
    exact hasNormalForm_of_settles Strategy.settles (fun _ => rfl) (fun _ => rfl) accepted
  | revision =>
    exact hasNormalForm_of_settles Revision.settles (fun _ => rfl) (fun _ => rfl) accepted
  | customDraft =>
    exact hasNormalForm_of_settles CustomDraft.settles (fun _ => rfl) (fun _ => rfl) accepted
  | draftBatch =>
    exact hasNormalForm_of_settles Draft.settles_batch (fun _ => rfl) (fun _ => rfl) accepted
  | clientConfig =>
    exact hasNormalForm_of_settles ClientConfig.settles (fun _ => rfl) (fun _ => rfl) accepted
  | clientData => exact hasNormalForm_clientData accepted
  | reportRequest => exact hasNormalForm_reportRequest accepted
  | compiledReport =>
    exact hasNormalForm_of_settles CompiledReport.settles (fun _ => rfl) (fun _ => rfl) accepted
  | reportView => exact absurd rfl covered

/-- Client data with a name in both spellings, a word for a truth value, and a number that JSON
cannot carry. -/
def sampleData : Payload :=
  .record [("first_name", .integer 1), ("firstName", .text "Ada"), ("hasDebts", .text "Yes"),
    ("note", .list [.double (.infinite true), .integer 0])]

/-- The spelling that lost is kept, and what was converted is not converted twice. -/
theorem hasNormalForm_sample : Model.clientData ≠ .reportView ∧ ∃ fields,
    Model.clientData.normalize .stored sampleData = .valid (.ok (.record fields)) ∧
    Model.clientData.normalize .stored (.record fields) = .valid (.ok (.record fields)) ∧
    Entries.get? fields "firstName" = some (.text "Ada") ∧
    Entries.get? fields "first_name" = some (.integer 1) ∧
    Entries.get? fields "hasDebts" = some (.boolean true) ∧
    Entries.get? fields "annualIncome" = some (.double (Binary64.zero false)) ∧
    Entries.get? fields "note" = some (.list [.null, .integer 0]) := by
  have covered : Model.clientData ≠ .reportView := by decide
  refine ⟨covered, _, rfl, ?_, rfl, rfl, rfl, rfl, rfl⟩
  exact (hasNormalForm covered (p := sampleData) rfl).again _ rfl

/-- Lists inside each other, with null in the innermost one. -/
def nested : Nat → Payload
  | 0 => .null
  | n + 1 => .list [nested n]

theorem height_nested (n : Nat) : (nested n).height = n + 1 := by
  induction n with
  | zero => rfl
  | succ n ih =>
    rw [nested, Payload.height, Payload.heightItems, Payload.heightItems, ih, Nat.max_zero]

/-- Client data is accepted however deeply it is nested, but not all of it is written. -/
theorem unwritten_of_nested :
    (∃ c, ClientData.read (.record [("x", nested 256)]) = .valid c) ∧
      ¬ ∃ n, Model.clientData.normalize .stored (.record [("x", nested 256)]) = .valid (.ok n) := by
  refine ⟨⟨_, rfl⟩, ?_⟩
  rintro ⟨n, h⟩
  have storable := (hasNormalForm_clientData h).exists_iff.1 ⟨n, rfl⟩ [("x", nested 256)] rfl
    ("x", nested 256) List.mem_cons_self (by decide)
  have flat := storable.1
  rw [height_nested, Payload.heightLimit] at flat
  omega

end Schema.Model

end PlanCompiler
