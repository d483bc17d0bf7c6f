import PlanCompiler.Proofs.Client.Data
import PlanCompiler.Proofs.Schema.Indifference

/-!
# The readers of the schemas, respelled

No reader of a schema makes a difference between a payload and a respelled one: each of them reads a
record field by field, and every field is found under either spelling. The form of a client keeps
whatever none of its keys claims; that is the same in both payloads, since no name is claimed under
one spelling and left over under the other.

* `unclaimed_eq_filter`, `unclaimed_respelled`: what no key claims;
* `InputField.indifferent_read`, `ClientData.indifferent_read`, `ReportRequest.indifferent_read` and
the others: one reader each;
* `Revision.alike_read`: a revision also holds the record that it was read from, which is respelled.
-/

namespace PlanCompiler

open Schema Schema.Key Schema.Checked

/-! ## Strategies -/

theorem ConditionalText.indifferent_read :
    Indifferent (.record Shape.conditionalText) ConditionalText.read := by
  intro p q same once
  refine alike_record Model.conditionalText.distinct_fields same once ?_
  rintro r t rfl rfl h
  exact (h.nullable Key.whenTrue rfl (indifferent_free _)).fmap ConditionalText.mk
    |>.ap (h.nullable Key.whenFalse rfl (indifferent_free _))

theorem InputField.indifferent_read :
    Indifferent (.record Shape.inputField) InputField.read := by
  intro p q same once
  refine alike_record Model.inputField.distinct_fields same once ?_
  rintro r t rfl rfl h
  have fields := (h.mandatory Key.id rfl (indifferent_free readIdentifier)).fmap InputField.mk
    |>.ap (h.mandatory Key.label rfl (indifferent_free readText))
    |>.ap (h.optional Key.kind rfl .text (indifferent_free FieldType.read))
    |>.ap (h.nullable Key.placeholder rfl (indifferent_free readText))
    |>.ap (h.optional Key.required rfl false (indifferent_free readBoolean))
    |>.ap (h.nullable Key.options rfl (indifferent_free (readList readText)))
    |>.ap (h.nullable Key.defaultValue rfl (indifferent_free readScalar))
    |>.ap (h.nullable Key.conditionalText rfl ConditionalText.indifferent_read)
  refine fields.andThen fun f => ?_
  split
  · exact .valid rfl
  · exact .fail _ _ _

theorem StrategyBody.alike_read {r t : Entries Payload} (h : Counterparts Shape.strategy r t) :
    Alike Eq (.record r) (.record t) (StrategyBody.read r) (StrategyBody.read t) :=
  (h.mandatory Key.title rfl (indifferent_free _)).fmap StrategyBody.mk
    |>.ap (h.optional Key.description rfl "" (indifferent_free _))
    |>.ap (h.optional Key.category rfl "" (indifferent_free _))
    |>.ap (h.nullable Key.sectionKey rfl (indifferent_free _))
    |>.ap (h.nullable Key.subsection rfl (indifferent_free _))
    |>.ap (h.mandatory Key.content rfl (indifferent_free _))
    |>.ap (h.optional Key.inputFields rfl [] InputField.indifferent_read.list)
    |>.ap (h.optional Key.isCustom rfl false (indifferent_free _))

theorem Strategy.indifferent_read : Indifferent (.record Shape.strategy) Strategy.read := by
  intro p q same once
  refine alike_record Model.strategy.distinct_fields same once ?_
  rintro r t rfl rfl h
  exact ((h.mandatory Key.id rfl (indifferent_free _)).fmap _).ap (StrategyBody.alike_read h)

theorem Draft.indifferent_read : Indifferent (.record Shape.strategy) Draft.read := by
  intro p q same once
  refine alike_record Model.draft.distinct_fields same once ?_
  rintro r t rfl rfl h
  exact ((h.nullable Key.id rfl (indifferent_free _)).fmap _).ap (StrategyBody.alike_read h)

theorem Draft.indifferent_readBatch : Indifferent (.record Shape.draftBatch) Draft.readBatch := by
  intro p q same once
  refine alike_record Model.draftBatch.distinct_fields same once ?_
  rintro r t rfl rfl h
  exact h.mandatory Key.strategies rfl Draft.indifferent_read.list

theorem CustomDraft.indifferent_read :
    Indifferent (.record Shape.customDraft) CustomDraft.read := by
  intro p q same once
  refine alike_record Model.customDraft.distinct_fields same once ?_
  rintro r t rfl rfl h
  exact (h.mandatory Key.title rfl (indifferent_free _)).fmap CustomDraft.mk
    |>.ap (h.mandatory Key.content rfl (indifferent_free _))
    |>.ap (h.mandatory Key.sectionKey rfl (indifferent_free _))

/-! ## Clients and reports -/

theorem ClientConfig.indifferent_read :
    Indifferent (.record Shape.clientConfig) ClientConfig.read := by
  intro p q same once
  refine alike_record Model.clientConfig.distinct_fields same once ?_
  rintro r t rfl rfl h
  exact (h.mandatory Key.strategyId rfl (indifferent_free _)).fmap ClientConfig.mk
    |>.ap (h.mandatory Key.isEnabled rfl (indifferent_free _))
    |>.ap (h.optional Key.inputValues rfl [] (indifferent_free _))

theorem CompiledReport.indifferent_read :
    Indifferent (.record Shape.compiledReport) CompiledReport.read := by
  intro p q same once
  refine alike_record Model.compiledReport.distinct_fields same once ?_
  rintro r t rfl rfl h
  exact (h.mandatory Key.report rfl (indifferent_free _)).fmap CompiledReport.mk
    |>.ap (h.mandatory Key.reportId rfl (indifferent_free _))

theorem ReportView.indifferent_read :
    Indifferent (.record Shape.reportView) ReportView.read := by
  intro p q same once
  refine alike_record Model.reportView.distinct_fields same once ?_
  rintro r t rfl rfl h
  exact (h.mandatory Key.id rfl (indifferent_free _)).fmap ReportView.mk
    |>.ap (h.nullable Key.clientId rfl (indifferent_free _))
    |>.ap (h.mandatory Key.clientData rfl (indifferent_free _))
    |>.ap (h.mandatory Key.strategyConfigurations rfl (indifferent_free _))
    |>.ap (h.mandatory Key.generatedReport rfl (indifferent_free _))
    |>.ap (h.mandatory Key.createdAt rfl (indifferent_free _))

theorem eq_of_countP_le_one {α : Type} {holds : α → Bool} {as : List α} {a b : α}
    (h : as.countP holds ≤ 1) (ha : a ∈ as) (hb : b ∈ as) (holdsA : holds a = true)
    (holdsB : holds b = true) : a = b := by
  rw [List.countP_eq_length_filter] at h
  have inA := List.mem_filter.2 ⟨ha, holdsA⟩
  have inB := List.mem_filter.2 ⟨hb, holdsB⟩
  cases found : as.filter holds with
  | nil => simp [found] at inA
  | cons c rest =>
    obtain rfl : rest = [] := by simpa [found] using h
    rw [found, List.mem_singleton] at inA inB
    exact inA.trans inB.symm

/-- If no key stands twice, what no key claims is under names that spell no key. -/
theorem unclaimed_eq_filter {keys : List Key} {r : Entries Payload}
    (once : ∀ key ∈ keys, (r.countP fun entry => key.spells entry.1) ≤ 1) :
    unclaimed keys r = r.filter fun entry => ∀ key ∈ keys, key.spells entry.1 = false := by
  rw [unclaimed_eq]
  refine List.filter_congr fun entry mem => decide_eq_decide.2 (forall₂_congr fun key hk => ?_)
  rw [← Bool.not_eq_true, spells_iff, not_or]
  refine and_congr_right fun notWire => ⟨fun both plain => ?_, fun h plain => absurd plain h⟩
  obtain ⟨other, there, name⟩ :=
    List.mem_map.1 ((Entries.contains_iff_mem_keys r key.wire).1 (both plain))
  have same := eq_of_countP_le_one (once key hk) mem there (spells_iff.2 (.inr plain))
    (spells_iff.2 (.inl name))
  exact notWire (same ▸ name)

section Unclaimed

variable {keys : List Key} {r t : Entries Payload}

theorem once_of_spelledOnce (once : (Payload.record r).spelledOnce
    (.record (Shape.plainFields keys)) = true) :
    ∀ key ∈ keys, (r.countP fun entry => key.spells entry.1) ≤ 1 := by
  intro key hk
  rw [Payload.spelledOnce, Bool.and_eq_true, List.all_eq_true] at once
  simpa using once.1 _ (List.mem_map_of_mem hk)

theorem unknown_of_unclaimed (once : ∀ key ∈ keys, (r.countP fun entry => key.spells entry.1) ≤ 1)
    {entry : String × Payload} (mem : entry ∈ unclaimed keys r) :
    ∀ field ∈ Shape.plainFields keys, field.1.spells entry.1 = false := by
  rw [unclaimed_eq_filter once] at mem
  intro field hf
  obtain ⟨key, hk, rfl⟩ := List.mem_map.1 hf
  exact of_decide_eq_true (List.mem_filter.1 mem).2 key hk

/-- What no key claims stays as it is. -/
theorem unclaimed_respelled (h : Counterparts (Shape.plainFields keys) r t) :
    unclaimed keys r = unclaimed keys t := by
  have mem {key : Key} (hk : key ∈ keys) : (key, Shape.free) ∈ Shape.plainFields keys :=
    List.mem_map_of_mem hk
  have known {key : Key} (hk : key ∈ keys) : key ∈ Key.all :=
    h.distinct.1 (List.mem_map_of_mem (mem hk))
  have once (key : Key) (hk : key ∈ keys) := h.once _ (mem hk)
  rw [unclaimed_eq_filter once, unclaimed_eq_filter fun key hk =>
    Counterparts.countP_spells h.beside h.distinct (known hk) ▸ once key hk]
  obtain ⟨distinct, -, beside⟩ := h
  clear once
  induction beside with
  | nil => rfl
  | @cons e f r t here _ ih =>
    have alike : (∀ key ∈ keys, key.spells f.1 = false) ↔ ∀ key ∈ keys, key.spells e.1 = false :=
      forall₂_congr fun key hk => by rw [here.spells_eq distinct (known hk)]
    rw [List.filter_cons, List.filter_cons, ih]
    by_cases unknown : ∀ key ∈ keys, key.spells e.1 = false
    · have same : e = f := here.eq_of_unknown fun field mem => by
        obtain ⟨key, hk, rfl⟩ := List.mem_map.1 mem
        exact unknown key hk
      rw [same]
    · rw [if_neg (by simpa using unknown), if_neg (by simpa using alike.not.2 unknown)]

end Unclaimed

theorem ClientData.alike_readOthers {r t : Entries Payload}
    (h : Counterparts Shape.clientData r t) :
    Alike Eq (.record r) (.record t) (readOthers r) (readOthers t) := by
  have once (key : Key) (hk : key ∈ formKeys) := h.once (key, .free) (List.mem_map_of_mem hk)
  rw [readOthers, readOthers, ← unclaimed_respelled h]
  refine Alike.all ?_
  rw [List.forall₂_map_left_iff, List.forall₂_map_right_iff, List.forall₂_same]
  intro entry mem
  have unknown := unknown_of_unclaimed once mem
  split
  · exact .valid rfl
  · exact .invalid (.cons ⟨rfl, (h.followed_of_unknown (fun _ _ same => same ▸ unknown) []).symm,
      .inl rfl⟩ .nil)

theorem ClientData.indifferent_read :
    Indifferent (.record Shape.clientData) ClientData.read := by
  intro p q same once
  refine alike_record Model.clientData.distinct_fields same once ?_
  rintro r t rfl rfl h
  have data {α : Type} (read : Payload → Checked α) := indifferent_free read
  exact (h.nullable Key.firstName rfl (data _)).fmap ClientData.mk
    |>.ap (h.nullable Key.lastName rfl (data _))
    |>.ap (h.nullable Key.dateOfBirth rfl (data _))
    |>.ap (h.optional Key.hasSecondClient rfl false (data _))
    |>.ap (h.nullable Key.secondClientFirstName rfl (data _))
    |>.ap (h.nullable Key.secondClientLastName rfl (data _))
    |>.ap (h.nullable Key.secondClientDateOfBirth rfl (data _))
    |>.ap (h.nullable Key.secondClientAnnualIncome rfl (data _))
    |>.ap (h.optional Key.annualIncome rfl none (data _))
    |>.ap (h.optional Key.monthlyExpenses rfl none (data _))
    |>.ap (h.optional Key.hasDebts rfl false (data _))
    |>.ap (h.nullable Key.debtType rfl (data _))
    |>.ap (h.nullable Key.debtInterestRate rfl (data _))
    |>.ap (h.nullable Key.debtTermRemaining rfl (data _))
    |>.ap (h.nullable Key.debtPayment rfl (data _))
    |>.ap (h.nullable Key.debtPaymentFrequency rfl (data _))
    |>.ap (h.optional Key.hasProperties rfl false (data _))
    |>.ap (h.nullable Key.propertyType rfl (data _))
    |>.ap (h.nullable Key.propertyMarketValue rfl (data _))
    |>.ap (h.nullable Key.propertyCostBasis rfl (data _))
    |>.ap (h.nullable Key.additionalComments rfl (data _))
    |>.ap (alike_readOthers h)

theorem ReportRequest.indifferent_read :
    Indifferent (.record Shape.reportRequest) ReportRequest.read := by
  intro p q same once
  refine alike_record Model.reportRequest.distinct_fields same once ?_
  rintro r t rfl rfl h
  exact ((h.mandatory Key.clientData rfl ClientData.indifferent_read).fmap ReportRequest.mk
    |>.ap (h.nullable Key.clientId rfl (indifferent_free _))
    |>.ap (h.nullable Key.strategyConfigurations rfl ClientConfig.indifferent_read.list)
    |>.ap (h.nullable Key.selectedStrategyIds rfl (indifferent_free _))
    |>.ap (h.nullable Key.selectedCustomStrategyIds rfl (indifferent_free _))).ensure _ _

end PlanCompiler
