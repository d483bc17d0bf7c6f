import PlanCompiler.Client.Data
import PlanCompiler.Proofs.Payload.Stored
import PlanCompiler.Proofs.Strategy.InputField

/-!
# Client data read again

Client data that was accepted and has a stored form is accepted again in that form, and stored in
the same form once more. The form puts every field that the intake form knows under its wire
spelling, so what stands behind them is exactly what it did not know before: a name that no field
has, or the second spelling of a field that was also there under its first one.

* `unclaimed_eq`, `unclaimed_spelled_append`: the fields that no key claims;
* `ClientData.read_eq_valid_iff`, `ClientData.exists_write_iff`: when the data is accepted, and when
  it has a stored form;
* `ClientData.read_written`, `ClientData.write_settled`: the stored form, read and written again;
* `ClientData.keeps_storedRecord`: what is in it.
-/

namespace PlanCompiler

open Schema Schema.Key

namespace Schema

variable {keys : List Key} {fields : List (Key × Payload)} {data rest : Entries Payload} {key : Key}

/-! ## A written record with something behind it -/

section Append

variable (known : fields.map Prod.fst ⊆ all) (hk : key ∈ all) {p : Payload}
  (there : fields.lookup key = some p)

include known hk there

theorem find?_spelled_append (rest : Entries Payload) :
    find? (spelled wire fields ++ rest) key = some (key.wire, p) := by
  rw [find?, Entries.get?_append, get?_spelled isSpelling_wire known hk, there]
  rfl

theorem optional_spelled_append {α : Type} {read : Payload → Checked α} {a : α}
    (back : read p = .valid a) (default : α) :
    optional (spelled wire fields ++ rest) key default read = .valid a := by
  rw [optional_eq_valid_iff, find?_spelled_append known hk there]
  exact .inr ⟨_, _, rfl, back⟩

end Append

/-! ## Fields that no key claims -/

/-- The record has the name, but no key is found under it: it is no wire spelling, and the second
spelling only of keys that are also there under the first. -/
def IsOther (keys : List Key) (data : Entries Payload) (name : String) : Prop :=
  ∀ key ∈ keys, name ≠ key.wire ∧ (name = key.plain → Entries.contains data key.wire = true)

instance (keys : List Key) (data : Entries Payload) (name : String) :
    Decidable (IsOther keys data name) :=
  inferInstanceAs (Decidable (∀ key ∈ keys, _ ∧ _))

theorem find?_any_iff {name : String} (there : name ∈ Entries.keys data) :
    (find? data key).any (·.1 = name) = true ↔
      ¬ (name ≠ key.wire ∧ (name = key.plain → Entries.contains data key.wire = true)) := by
  rw [← Entries.contains_iff_mem_keys, Entries.contains] at there
  rw [find?, Entries.contains]
  cases first : Entries.get? data key.wire with
  | some p => simp [eq_comm]
  | none =>
    have other : name ≠ key.wire := by
      rintro rfl
      rw [first] at there
      cases there
    cases second : Entries.get? data key.plain with
    | some p => simp [other, eq_comm]
    | none =>
      have neither : name ≠ key.plain := by
        rintro rfl
        rw [second] at there
        cases there
      simp [other, neither]

theorem unclaimed_eq (keys : List Key) (data : Entries Payload) :
    unclaimed keys data = data.filter fun entry => IsOther keys data entry.1 := by
  refine List.filter_congr fun entry there => Bool.eq_iff_iff.2 ?_
  rw [Bool.not_eq_true', ← Bool.not_eq_true, List.any_eq_true, not_exists, decide_eq_true_iff]
  refine forall_congr' fun key => ?_
  rw [not_and, find?_any_iff (Entries.mem_keys_of_mem there), not_not]

/-- Behind a written record, what has no name of its fields is left unclaimed. -/
theorem unclaimed_spelled_append
    (others : ∀ entry ∈ rest, ∀ field ∈ fields, entry.1 ≠ field.1.wire) :
    unclaimed (fields.map Prod.fst) (spelled wire fields ++ rest) = rest := by
  have written (field : Key × Payload) (mem : field ∈ fields) :
      Entries.contains (spelled wire fields ++ rest) field.1.wire = true := by
    rw [Entries.contains_iff_mem_keys, Entries.keys, List.map_append, ← Entries.keys, keys_spelled]
    exact List.mem_append_left _ (List.mem_map_of_mem mem)
  have claimed : ∀ entry ∈ spelled wire fields,
      ¬ IsOther (fields.map Prod.fst) (spelled wire fields ++ rest) entry.1 := by
    rintro entry hentry other
    obtain ⟨field, mem, rfl⟩ := List.mem_map.1 hentry
    exact (other field.1 (List.mem_map_of_mem mem)).1 rfl
  have kept : ∀ entry ∈ rest,
      IsOther (fields.map Prod.fst) (spelled wire fields ++ rest) entry.1 := by
    intro entry hentry key hkey
    obtain ⟨field, mem, rfl⟩ := List.mem_map.1 hkey
    exact ⟨others entry hentry field mem, fun _ => written field mem⟩
  rw [unclaimed_eq, List.filter_append, List.filter_eq_nil_iff.2, List.filter_eq_self.2,
    List.nil_append]
  · exact fun entry hentry => decide_eq_true (kept entry hentry)
  · exact fun entry hentry => (claimed entry hentry) ∘ of_decide_eq_true

end Schema

namespace ClientData

/-! ## When the data is accepted -/

/-- The fields of a record are those of the data. -/
structure ReadFrom (r : Entries Payload) (c : ClientData) : Prop where
  firstName : nullable r Key.firstName readText = .valid c.firstName
  lastName : nullable r Key.lastName readText = .valid c.lastName
  dateOfBirth : nullable r Key.dateOfBirth readText = .valid c.dateOfBirth
  hasSecondClient : optional r Key.hasSecondClient false readBoolean = .valid c.hasSecondClient
  secondClientFirstName : nullable r Key.secondClientFirstName readText =
    .valid c.secondClientFirstName
  secondClientLastName : nullable r Key.secondClientLastName readText =
    .valid c.secondClientLastName
  secondClientDateOfBirth : nullable r Key.secondClientDateOfBirth readText =
    .valid c.secondClientDateOfBirth
  secondClientAnnualIncome : nullable r Key.secondClientAnnualIncome readAmount =
    .valid c.secondClientAnnualIncome
  annualIncome : optional r Key.annualIncome none (fun p => (readAmount p).map some) =
    .valid c.annualIncome
  monthlyExpenses : optional r Key.monthlyExpenses none (fun p => (readAmount p).map some) =
    .valid c.monthlyExpenses
  hasDebts : optional r Key.hasDebts false readBoolean = .valid c.hasDebts
  debtType : nullable r Key.debtType (readChoice DebtType.choices) = .valid c.debtType
  debtInterestRate : nullable r Key.debtInterestRate readAmount = .valid c.debtInterestRate
  debtTermRemaining : nullable r Key.debtTermRemaining readAmount = .valid c.debtTermRemaining
  debtPayment : nullable r Key.debtPayment readAmount = .valid c.debtPayment
  debtPaymentFrequency : nullable r Key.debtPaymentFrequency
    (readChoice PaymentFrequency.choices) = .valid c.debtPaymentFrequency
  hasProperties : optional r Key.hasProperties false readBoolean = .valid c.hasProperties
  propertyType : nullable r Key.propertyType (readChoice PropertyType.choices) =
    .valid c.propertyType
  propertyMarketValue : nullable r Key.propertyMarketValue readAmount =
    .valid c.propertyMarketValue
  propertyCostBasis : nullable r Key.propertyCostBasis readAmount = .valid c.propertyCostBasis
  additionalComments : nullable r Key.additionalComments readText = .valid c.additionalComments
  others : readOthers r = .valid c.others

theorem readFields_eq_valid_iff {r : Entries Payload} {c : ClientData} :
    readFields r = .valid c ↔ ReadFrom r c := by
  simp only [readFields, Checked.functor_map_eq, Checked.applicative_seq_eq,
    Checked.seq_eq_valid_iff, Checked.map_eq_valid_iff, ↓existsAndEq, and_true, and_assoc]
  constructor
  · rintro ⟨_, _, _, _, _, _, _, _, _, _, _, _, _, _, _, _, _, _, _, _, _, _, h1, h2, h3, h4, h5,
      h6, h7, h8, h9, h10, h11, h12, h13, h14, h15, h16, h17, h18, h19, h20, h21, h22, rfl⟩
    exact ⟨h1, h2, h3, h4, h5, h6, h7, h8, h9, h10, h11, h12, h13, h14, h15, h16, h17, h18, h19,
      h20, h21, h22⟩
  · rintro ⟨h1, h2, h3, h4, h5, h6, h7, h8, h9, h10, h11, h12, h13, h14, h15, h16, h17, h18, h19,
      h20, h21, h22⟩
    exact ⟨_, _, _, _, _, _, _, _, _, _, _, _, _, _, _, _, _, _, _, _, _, _, h1, h2, h3, h4, h5, h6,
      h7, h8, h9, h10, h11, h12, h13, h14, h15, h16, h17, h18, h19, h20, h21, h22, rfl⟩

theorem read_eq_valid_iff {p : Payload} {c : ClientData} :
    read p = .valid c ↔ ∃ r, p = .record r ∧ ReadFrom r c := by
  simp only [read, Checked.andThen_eq_valid_iff, readRecord_eq_valid_iff, readFields_eq_valid_iff]

/-! ## The fields outside the form -/

theorem readOthers_eq_valid_iff {r t : Entries Payload} :
    readOthers r = .valid t ↔
      (∀ entry ∈ unclaimed formKeys r, Text.isWhole entry.1.toList = true) ∧
        unclaimed formKeys r = t := by
  have name (entry other : String × Payload) :
      (if Text.isWhole entry.1.toList then Checked.valid entry
        else .invalid [⟨.brokenText, [.field entry.1], .text entry.1⟩]) = .valid other ↔
      Text.isWhole entry.1.toList = true ∧ entry = other := by
    split
    · rename_i whole
      rw [Checked.valid_inj]
      exact ⟨fun same => ⟨whole, same⟩, And.right⟩
    · rename_i broken
      exact ⟨nofun, fun h => absurd h.1 broken⟩
  rw [readOthers, Checked.all_eq_valid_iff, List.forall₂_map_left_iff]
  simp only [name]
  rw [List.forall₂_and_left, List.forall₂_eq_eq_eq]

/-! ## The stored form -/

/-- The data as it is read from its stored form: no amount that counts as zero is left out, and no
number outside the form is one that JSON cannot carry. -/
def settled (c : ClientData) : ClientData :=
  { c with
    annualIncome := some (c.annualIncome.getD (Binary64.zero false))
    monthlyExpenses := some (c.monthlyExpenses.getD (Binary64.zero false))
    others := Entries.mapValues Payload.finiteOrNull c.others }

/-- The fields of the form, key by key. -/
def keyed (c : ClientData) : List (Key × Payload) :=
  formKeys.zip ((c.writeForm .stored).map Prod.snd)

/-- The stored form of the data: all fields of the form, then the others. -/
def storedRecord (c : ClientData) : Entries Payload :=
  c.writeForm .stored ++ Entries.mapValues Payload.finiteOrNull c.others

theorem writeForm_eq (c : ClientData) : c.writeForm .stored = spelled wire c.keyed := rfl

theorem map_fst_keyed (c : ClientData) : c.keyed.map Prod.fst = formKeys := rfl

theorem known_formKeys : formKeys ⊆ all := by decide

theorem known (c : ClientData) : c.keyed.map Prod.fst ⊆ all :=
  known_formKeys

/-- An amount that was read is written as a number that is not negative. -/
theorem writes_double {p : Payload} {x : Binary64} (h : readAmount p = .valid x) :
    Writes readAmount .double x := by
  obtain ⟨-, nonNegative⟩ := Checked.ensure_eq_valid_iff.1 h
  exact ⟨Payload.noConfusion, Checked.ensure_eq_valid_iff.2 ⟨rfl, nonNegative⟩⟩

theorem writes_debtType (t : DebtType) :
    Writes (readChoice DebtType.choices) (fun t => .text t.name) t := by
  cases t <;> exact ⟨Payload.noConfusion, rfl⟩

theorem writes_paymentFrequency (f : PaymentFrequency) :
    Writes (readChoice PaymentFrequency.choices) (fun f => .text f.name) f := by
  cases f <;> exact ⟨Payload.noConfusion, rfl⟩

theorem writes_propertyType (t : PropertyType) :
    Writes (readChoice PropertyType.choices) (fun t => .text t.name) t := by
  cases t <;> exact ⟨Payload.noConfusion, rfl⟩

section Written

variable {r rest : Entries Payload} {c : ClientData} {key : Key}

theorem nullable_written {α : Type} {read : Payload → Checked α} {write : α → Payload}
    {a? : Option α} (h : nullable r key read = .valid a?)
    (back : ∀ p a, read p = .valid a → Writes read write a) (hk : key ∈ formKeys)
    (there : c.keyed.lookup key = some (.ofOption write a?)) :
    nullable (c.writeForm .stored ++ rest) key read = .valid a? :=
  optional_spelled_append c.known (known_formKeys hk) there
    (readNullable_ofOption_of_nullable h back) none

theorem nullable_written_text {s? : Option String} (hk : key ∈ formKeys)
    (there : c.keyed.lookup key = some (.ofOption .text s?)) :
    nullable (c.writeForm .stored ++ rest) key readText = .valid s? :=
  optional_spelled_append c.known (known_formKeys hk) there (readNullable_ofText s?) none

theorem nullable_written_amount {x? : Option Binary64} (h : nullable r key readAmount = .valid x?)
    (hk : key ∈ formKeys) (there : c.keyed.lookup key = some (.ofOption .double x?)) :
    nullable (c.writeForm .stored ++ rest) key readAmount = .valid x? :=
  nullable_written h (fun _ _ => writes_double) hk there

theorem optional_written_boolean {value : Bool} (hk : key ∈ formKeys)
    (there : c.keyed.lookup key = some (.boolean value)) :
    optional (c.writeForm .stored ++ rest) key false readBoolean = .valid value :=
  optional_spelled_append c.known (known_formKeys hk) there
    (show readBoolean (.boolean value) = .valid value from rfl) false

/-- An amount that was left out is read as the zero that was written for it. -/
theorem optional_written_income {x? : Option Binary64}
    (h : optional r key none (fun p => (readAmount p).map some) = .valid x?)
    (hk : key ∈ formKeys) (there : c.keyed.lookup key = some (writeAmount .stored x?)) :
    optional (c.writeForm .stored ++ rest) key none (fun p => (readAmount p).map some) =
      .valid (some (x?.getD (Binary64.zero false))) := by
  refine optional_spelled_append c.known (known_formKeys hk) there ?_ none
  rcases optional_eq_valid_iff.1 h with ⟨-, rfl⟩ | ⟨name, p, -, hread⟩
  · rfl
  · obtain ⟨x, amount, rfl⟩ := Checked.map_eq_valid_iff.1 hread
    exact Checked.map_eq_valid_iff.2 ⟨x, (writes_double amount).2, rfl⟩

/-- What was outside the form is outside it again. -/
theorem readOthers_written (h : readOthers r = .valid c.others) :
    readOthers c.storedRecord = .valid c.settled.others := by
  obtain ⟨whole, same⟩ := readOthers_eq_valid_iff.1 h
  have unnamed : ∀ entry ∈ Entries.mapValues Payload.finiteOrNull c.others, ∀ field ∈ c.keyed,
      entry.1 ≠ field.1.wire := by
    intro entry hentry field hfield
    obtain ⟨source, hsource, rfl⟩ := List.mem_map.1 hentry
    rw [← same, unclaimed_eq, List.mem_filter, decide_eq_true_iff] at hsource
    exact (hsource.2 field.1 (List.mem_map_of_mem hfield)).1
  have again := unclaimed_spelled_append unnamed
  rw [map_fst_keyed, ← writeForm_eq, ← storedRecord] at again
  refine readOthers_eq_valid_iff.2 ⟨?_, again⟩
  rw [again]
  intro entry hentry
  obtain ⟨source, hsource, rfl⟩ := List.mem_map.1 hentry
  exact whole source (same ▸ hsource)

theorem readFrom_written (h : ReadFrom r c) :
    ReadFrom c.storedRecord c.settled where
  firstName := nullable_written_text (by decide) rfl
  lastName := nullable_written_text (by decide) rfl
  dateOfBirth := nullable_written_text (by decide) rfl
  hasSecondClient := optional_written_boolean (by decide) rfl
  secondClientFirstName := nullable_written_text (by decide) rfl
  secondClientLastName := nullable_written_text (by decide) rfl
  secondClientDateOfBirth := nullable_written_text (by decide) rfl
  secondClientAnnualIncome := nullable_written_amount h.secondClientAnnualIncome (by decide) rfl
  annualIncome := optional_written_income h.annualIncome (by decide) rfl
  monthlyExpenses := optional_written_income h.monthlyExpenses (by decide) rfl
  hasDebts := optional_written_boolean (by decide) rfl
  debtType := nullable_written h.debtType (fun _ t _ => writes_debtType t) (by decide) rfl
  debtInterestRate := nullable_written_amount h.debtInterestRate (by decide) rfl
  debtTermRemaining := nullable_written_amount h.debtTermRemaining (by decide) rfl
  debtPayment := nullable_written_amount h.debtPayment (by decide) rfl
  debtPaymentFrequency := nullable_written h.debtPaymentFrequency
    (fun _ f _ => writes_paymentFrequency f) (by decide) rfl
  hasProperties := optional_written_boolean (by decide) rfl
  propertyType := nullable_written h.propertyType (fun _ t _ => writes_propertyType t) (by decide)
    rfl
  propertyMarketValue := nullable_written_amount h.propertyMarketValue (by decide) rfl
  propertyCostBasis := nullable_written_amount h.propertyCostBasis (by decide) rfl
  additionalComments := nullable_written_text (by decide) rfl
  others := readOthers_written h.others

end Written

theorem write_eq_ok_iff {c : ClientData} {n : Payload} :
    c.write .stored = .ok n ↔
      (∀ entry ∈ c.others, entry.2.IsStorable) ∧ n = .record c.storedRecord := by
  have step : c.write .stored =
      ((Payload.storedFields c.others).map (c.writeForm .stored ++ ·)).map .record := rfl
  rw [step]
  cases h : Payload.storedFields c.others with
  | error fault =>
    refine ⟨nofun, fun storable => ?_⟩
    rw [Payload.storedFields_eq_ok_iff.2 ⟨storable.1, rfl⟩] at h
    cases h
  | ok t =>
    obtain ⟨storable, rfl⟩ := Payload.storedFields_eq_ok_iff.1 h
    exact ⟨fun same => ⟨storable, (Except.ok.inj same).symm⟩,
      fun same => congrArg Except.ok same.2.symm⟩

theorem others_eq {r : Entries Payload} {c : ClientData} (h : ReadFrom r c) :
    c.others = r.filter fun entry => IsOther formKeys r entry.1 := by
  rw [← (readOthers_eq_valid_iff.1 h.others).2, unclaimed_eq]

/-- Accepted data has a stored form if everything outside the form has one. -/
theorem exists_write_iff {r : Entries Payload} {c : ClientData} (h : ReadFrom r c) :
    (∃ n, c.write .stored = .ok n) ↔
      ∀ entry ∈ r, IsOther formKeys r entry.1 → entry.2.IsStorable := by
  simp only [write_eq_ok_iff, exists_and_left, exists_eq, and_true, others_eq h, List.mem_filter,
    decide_eq_true_iff, and_imp]

theorem writeForm_settled (c : ClientData) : c.settled.writeForm .stored = c.writeForm .stored := by
  have amount (x? : Option Binary64) :
      writeAmount .stored (some (x?.getD (Binary64.zero false))) = writeAmount .stored x? := by
    cases x? <;> rfl
  rw [writeForm, writeForm, settled, amount, amount]

/-- The stored form is stored once more as it is. -/
theorem write_settled {c : ClientData} {n : Payload} (h : c.write .stored = .ok n) :
    c.settled.write .stored = .ok n := by
  obtain ⟨storable, rfl⟩ := write_eq_ok_iff.1 h
  have again := Payload.storedFields_again (Payload.storedFields_eq_ok_iff.2 ⟨storable, rfl⟩)
  obtain ⟨storable', same⟩ := Payload.storedFields_eq_ok_iff.1 again
  refine write_eq_ok_iff.2 ⟨storable', congrArg Payload.record ?_⟩
  rw [storedRecord, storedRecord, writeForm_settled]
  exact congrArg _ same

theorem read_written {p n : Payload} {c : ClientData} (h : read p = .valid c)
    (written : c.write .stored = .ok n) : read n = .valid c.settled := by
  obtain ⟨r, rfl, fields⟩ := read_eq_valid_iff.1 h
  obtain ⟨-, rfl⟩ := write_eq_ok_iff.1 written
  exact read_eq_valid_iff.2 ⟨_, rfl, readFrom_written fields⟩

/-! ## What the stored form keeps -/

/-- What a record of client data keeps of the record that it was made from: every field outside the
form, under its name and behind the fields of the form, and zero as a number for an amount that was
left out and counts as zero. -/
structure Keeps (data kept : Entries Payload) : Prop where
  others : ∃ form, Entries.keys form = formKeys.map wire ∧ kept = form ++
    Entries.mapValues Payload.finiteOrNull
      (data.filter fun entry => IsOther formKeys data entry.1)
  incomes : ∀ key ∈ [Key.annualIncome, Key.monthlyExpenses], find? data key = none →
    Entries.get? kept key.wire = some (.double (Binary64.zero false))

theorem keeps_storedRecord {r : Entries Payload} {c : ClientData} (h : ReadFrom r c) :
    Keeps r c.storedRecord := by
  refine ⟨⟨c.writeForm .stored, rfl, ?_⟩, ?_⟩
  · rw [storedRecord, others_eq h]
  · -- An income that was not found has the default, which is written as zero.
    have zero (key : Key) (x? : Option Binary64) (hk : key ∈ formKeys)
        (there : c.keyed.lookup key = some (writeAmount .stored x?))
        (hread : optional r key none (fun p => (readAmount p).map some) = .valid x?)
        (absent : find? r key = none) :
        Entries.get? c.storedRecord key.wire = some (.double (Binary64.zero false)) := by
      rcases optional_eq_valid_iff.1 hread with ⟨-, rfl⟩ | ⟨name, p, found, -⟩
      · rw [storedRecord, Entries.get?_append, writeForm_eq,
          get?_spelled isSpelling_wire c.known (known_formKeys hk), there]
        rfl
      · rw [absent] at found
        cases found
    intro key hkey
    rcases List.mem_pair.1 hkey with rfl | rfl
    · exact zero _ _ (by decide) rfl h.annualIncome
    · exact zero _ _ (by decide) rfl h.monthlyExpenses

end ClientData

end PlanCompiler
