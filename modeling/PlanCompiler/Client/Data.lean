import PlanCompiler.Payload.Stored
import PlanCompiler.Strategy.Schema

/-!
# Client data and configurations

A configuration is a client's decision to include a strategy in the plan, and what the client
entered for its fields.

The data of a client is what the intake form collects. Only the shape is checked; fields that the
form does not know are kept. The data travels with the stored report and no report text depends on
it.

* `ClientConfig.read`, `ClientConfig.write`: a configuration;
* `ClientData.read`: the shape check of the data;
* `ClientData.write`: the data as a payload, under one of two rules for amounts that were left out.
-/

namespace PlanCompiler

open Schema

/-! ## Configurations -/

/-- A client's decision on one strategy. -/
structure ClientConfig where
  strategyId : String
  isEnabled : Bool
  inputValues : Entries Scalar := []
  deriving DecidableEq, Repr

namespace ClientConfig

/-- Read a configuration. -/
def read (p : Payload) : Checked ClientConfig :=
  (readRecord p).andThen fun r =>
    ClientConfig.mk <$> mandatory r Key.strategyId readText
      <*> mandatory r Key.isEnabled readBoolean
      <*> optional r Key.inputValues [] (readTable readScalar)

/-- Write a configuration. -/
def write (c : ClientConfig) : Payload :=
  .record [(Key.strategyId.wire, .text c.strategyId), (Key.isEnabled.wire, .boolean c.isEnabled),
    (Key.inputValues.wire, .record (Entries.mapValues Scalar.toPayload c.inputValues))]

end ClientConfig

/-! ## Data -/

/-- Kinds of debt. -/
inductive DebtType
  | carLoan
  | mortgage
  | heloc
  | personalLoan
  deriving DecidableEq, Repr

/-- Kinds of debt under their names. -/
def DebtType.choices : List (String × DebtType) :=
  [("car-loan", .carLoan), ("mortgage", .mortgage), ("heloc", .heloc),
    ("personal-loan", .personalLoan)]

/-- The name of a kind of debt. -/
def DebtType.name : DebtType → String
  | .carLoan => "car-loan"
  | .mortgage => "mortgage"
  | .heloc => "heloc"
  | .personalLoan => "personal-loan"

/-- How often a debt is paid. -/
inductive PaymentFrequency
  | weekly
  | biWeekly
  | monthly
  | quarterly
  deriving DecidableEq, Repr

/-- Payment frequencies under their names. -/
def PaymentFrequency.choices : List (String × PaymentFrequency) :=
  [("weekly", .weekly), ("bi-weekly", .biWeekly), ("monthly", .monthly), ("quarterly", .quarterly)]

/-- The name of a payment frequency. -/
def PaymentFrequency.name : PaymentFrequency → String
  | .weekly => "weekly"
  | .biWeekly => "bi-weekly"
  | .monthly => "monthly"
  | .quarterly => "quarterly"

/-- Kinds of property. -/
inductive PropertyType
  | principalResidence
  | secondaryResidence
  | rentalProperty
  deriving DecidableEq, Repr

/-- Kinds of property under their names. -/
def PropertyType.choices : List (String × PropertyType) :=
  [("principal-residence", .principalResidence), ("secondary-residence", .secondaryResidence),
    ("rental-property", .rentalProperty)]

/-- The name of a kind of property. -/
def PropertyType.name : PropertyType → String
  | .principalResidence => "principal-residence"
  | .secondaryResidence => "secondary-residence"
  | .rentalProperty => "rental-property"

/-- The data of a client. An amount that was left out is `none`. -/
structure ClientData where
  firstName : Option String := none
  lastName : Option String := none
  dateOfBirth : Option String := none
  hasSecondClient : Bool := false
  secondClientFirstName : Option String := none
  secondClientLastName : Option String := none
  secondClientDateOfBirth : Option String := none
  secondClientAnnualIncome : Option Binary64 := none
  annualIncome : Option Binary64 := none
  monthlyExpenses : Option Binary64 := none
  hasDebts : Bool := false
  debtType : Option DebtType := none
  debtInterestRate : Option Binary64 := none
  debtTermRemaining : Option Binary64 := none
  debtPayment : Option Binary64 := none
  debtPaymentFrequency : Option PaymentFrequency := none
  hasProperties : Bool := false
  propertyType : Option PropertyType := none
  propertyMarketValue : Option Binary64 := none
  propertyCostBasis : Option Binary64 := none
  additionalComments : Option String := none
  /-- Fields that the form does not know, as they were sent. -/
  others : Entries Payload := []
  deriving Repr

/-- How data is written. As given, an amount that was left out is the integer zero that stands for
it, and fields outside the form are as they were sent. In data that is stored such an amount is a
number like every other, and the fields outside the form have their stored form. -/
inductive WriteMode
  | asGiven
  | stored
  deriving DecidableEq, Repr

namespace ClientData

/-- The fields of the form, in order. -/
def formKeys : List Key := [Key.firstName, Key.lastName, Key.dateOfBirth, Key.hasSecondClient,
  Key.secondClientFirstName, Key.secondClientLastName, Key.secondClientDateOfBirth,
  Key.secondClientAnnualIncome, Key.annualIncome, Key.monthlyExpenses, Key.hasDebts, Key.debtType,
  Key.debtInterestRate, Key.debtTermRemaining, Key.debtPayment, Key.debtPaymentFrequency,
  Key.hasProperties, Key.propertyType, Key.propertyMarketValue, Key.propertyCostBasis,
  Key.additionalComments]

/-- The fields outside the form, as they were sent. Their names must be whole. -/
def readOthers (r : Entries Payload) : Checked (Entries Payload) :=
  Checked.all ((unclaimed formKeys r).map fun entry =>
    if Text.isWhole entry.1.toList then .valid entry
    else .invalid [⟨.brokenText, [.field entry.1], .text entry.1⟩])

/-- Read the fields of the form, and keep the others. -/
def readFields (r : Entries Payload) : Checked ClientData :=
  ClientData.mk <$> nullable r Key.firstName readText
    <*> nullable r Key.lastName readText
    <*> nullable r Key.dateOfBirth readText
    <*> optional r Key.hasSecondClient false readBoolean
    <*> nullable r Key.secondClientFirstName readText
    <*> nullable r Key.secondClientLastName readText
    <*> nullable r Key.secondClientDateOfBirth readText
    <*> nullable r Key.secondClientAnnualIncome readAmount
    <*> optional r Key.annualIncome none (fun p => (readAmount p).map some)
    <*> optional r Key.monthlyExpenses none (fun p => (readAmount p).map some)
    <*> optional r Key.hasDebts false readBoolean
    <*> nullable r Key.debtType (readChoice DebtType.choices)
    <*> nullable r Key.debtInterestRate readAmount
    <*> nullable r Key.debtTermRemaining readAmount
    <*> nullable r Key.debtPayment readAmount
    <*> nullable r Key.debtPaymentFrequency (readChoice PaymentFrequency.choices)
    <*> optional r Key.hasProperties false readBoolean
    <*> nullable r Key.propertyType (readChoice PropertyType.choices)
    <*> nullable r Key.propertyMarketValue readAmount
    <*> nullable r Key.propertyCostBasis readAmount
    <*> nullable r Key.additionalComments readText
    <*> readOthers r

/-- Read the data of a client. -/
def read (p : Payload) : Checked ClientData :=
  (readRecord p).andThen readFields

/-- Write an amount that counts as zero when it is left out. -/
def writeAmount (mode : WriteMode) : Option Binary64 → Payload
  | some x => .double x
  | none => match mode with
    | .asGiven => .integer 0
    | .stored => .double (Binary64.zero false)

/-- Write the fields of the form. -/
def writeForm (mode : WriteMode) (c : ClientData) : Entries Payload :=
  [(Key.firstName.wire, .ofOption .text c.firstName),
    (Key.lastName.wire, .ofOption .text c.lastName),
    (Key.dateOfBirth.wire, .ofOption .text c.dateOfBirth),
    (Key.hasSecondClient.wire, .boolean c.hasSecondClient),
    (Key.secondClientFirstName.wire, .ofOption .text c.secondClientFirstName),
    (Key.secondClientLastName.wire, .ofOption .text c.secondClientLastName),
    (Key.secondClientDateOfBirth.wire, .ofOption .text c.secondClientDateOfBirth),
    (Key.secondClientAnnualIncome.wire, .ofOption .double c.secondClientAnnualIncome),
    (Key.annualIncome.wire, writeAmount mode c.annualIncome),
    (Key.monthlyExpenses.wire, writeAmount mode c.monthlyExpenses),
    (Key.hasDebts.wire, .boolean c.hasDebts),
    (Key.debtType.wire, .ofOption (fun t => .text t.name) c.debtType),
    (Key.debtInterestRate.wire, .ofOption .double c.debtInterestRate),
    (Key.debtTermRemaining.wire, .ofOption .double c.debtTermRemaining),
    (Key.debtPayment.wire, .ofOption .double c.debtPayment),
    (Key.debtPaymentFrequency.wire, .ofOption (fun f => .text f.name) c.debtPaymentFrequency),
    (Key.hasProperties.wire, .boolean c.hasProperties),
    (Key.propertyType.wire, .ofOption (fun t => .text t.name) c.propertyType),
    (Key.propertyMarketValue.wire, .ofOption .double c.propertyMarketValue),
    (Key.propertyCostBasis.wire, .ofOption .double c.propertyCostBasis),
    (Key.additionalComments.wire, .ofOption .text c.additionalComments)]

/-- Write the fields that the form does not know. -/
def writeOthers (mode : WriteMode) (c : ClientData) : Except WriteFault (Entries Payload) :=
  match mode with
  | .asGiven => .ok c.others
  | .stored => Payload.storedFields c.others

/-- Write the data of a client: the form, then the fields it does not know. -/
def writeFields (mode : WriteMode) (c : ClientData) : Except WriteFault (Entries Payload) :=
  (c.writeOthers mode).map (c.writeForm mode ++ ·)

/-- Write the data of a client as a record. -/
def write (mode : WriteMode) (c : ClientData) : Except WriteFault Payload :=
  (c.writeFields mode).map .record

end ClientData

end PlanCompiler
