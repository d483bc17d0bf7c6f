import PlanCompiler.Schema.Coercion

/-!
# Reading records

A field may be spelled in two ways: in camel case, as on the wire, or in lower case with
underscores. The wire spelling wins when both are there, an issue names the spelling under which the
value was found, and a missing field is named by its wire spelling.

* `Key`: the two spellings of a field, and the keys of all schemas;
* `mandatory`, `optional`: one field of a record;
* `onlyGiven`: the part of a written record that was given explicitly.
-/

namespace PlanCompiler.Schema

/-- The two spellings of a field. -/
structure Key where
  wire : String
  plain : String
  deriving DecidableEq, Repr

namespace Key

/-- A key that is spelled in one way only. -/
def single (name : String) : Key := ⟨name, name⟩

def id : Key := single "id"
def label : Key := single "label"
def kind : Key := single "type"
def placeholder : Key := single "placeholder"
def required : Key := single "required"
def options : Key := single "options"
def defaultValue : Key := ⟨"defaultValue", "default_value"⟩
def conditionalText : Key := ⟨"conditionalText", "conditional_text"⟩
def whenTrue : Key := ⟨"whenTrue", "when_true"⟩
def whenFalse : Key := ⟨"whenFalse", "when_false"⟩
def title : Key := single "title"
def description : Key := single "description"
def category : Key := single "category"
def sectionKey : Key := single "section"
def subsection : Key := single "subsection"
def content : Key := single "content"
def inputFields : Key := ⟨"inputFields", "input_fields"⟩
def isCustom : Key := ⟨"isCustom", "is_custom"⟩
def strategies : Key := single "strategies"
def strategyId : Key := ⟨"strategyId", "strategy_id"⟩
def isEnabled : Key := ⟨"isEnabled", "is_enabled"⟩
def inputValues : Key := ⟨"inputValues", "input_values"⟩
def firstName : Key := ⟨"firstName", "first_name"⟩
def lastName : Key := ⟨"lastName", "last_name"⟩
def dateOfBirth : Key := ⟨"dateOfBirth", "date_of_birth"⟩
def hasSecondClient : Key := ⟨"hasSecondClient", "has_second_client"⟩
def secondClientFirstName : Key := ⟨"secondClientFirstName", "second_client_first_name"⟩
def secondClientLastName : Key := ⟨"secondClientLastName", "second_client_last_name"⟩
def secondClientDateOfBirth : Key := ⟨"secondClientDateOfBirth", "second_client_date_of_birth"⟩
def secondClientAnnualIncome : Key := ⟨"secondClientAnnualIncome", "second_client_annual_income"⟩
def annualIncome : Key := ⟨"annualIncome", "annual_income"⟩
def monthlyExpenses : Key := ⟨"monthlyExpenses", "monthly_expenses"⟩
def hasDebts : Key := ⟨"hasDebts", "has_debts"⟩
def debtType : Key := ⟨"debtType", "debt_type"⟩
def debtInterestRate : Key := ⟨"debtInterestRate", "debt_interest_rate"⟩
def debtTermRemaining : Key := ⟨"debtTermRemaining", "debt_term_remaining"⟩
def debtPayment : Key := ⟨"debtPayment", "debt_payment"⟩
def debtPaymentFrequency : Key := ⟨"debtPaymentFrequency", "debt_payment_frequency"⟩
def hasProperties : Key := ⟨"hasProperties", "has_properties"⟩
def propertyType : Key := ⟨"propertyType", "property_type"⟩
def propertyMarketValue : Key := ⟨"propertyMarketValue", "property_market_value"⟩
def propertyCostBasis : Key := ⟨"propertyCostBasis", "property_cost_basis"⟩
def additionalComments : Key := ⟨"additionalComments", "additional_comments"⟩
def clientData : Key := ⟨"clientData", "client_data"⟩
def clientId : Key := ⟨"clientId", "client_id"⟩
def strategyConfigurations : Key := ⟨"strategyConfigurations", "strategy_configurations"⟩
def selectedStrategyIds : Key := ⟨"selectedStrategyIds", "selected_strategy_ids"⟩
def selectedCustomStrategyIds : Key :=
  ⟨"selectedCustomStrategyIds", "selected_custom_strategy_ids"⟩
def report : Key := single "report"
def reportId : Key := ⟨"reportId", "report_id"⟩
def generatedReport : Key := ⟨"generatedReport", "generated_report"⟩
def createdAt : Key := ⟨"createdAt", "created_at"⟩

/-- Every key of every schema. -/
def all : List Key := [id, label, kind, placeholder, required, options, defaultValue,
  conditionalText, whenTrue, whenFalse, title, description, category, sectionKey, subsection,
  content, inputFields, isCustom, strategies, strategyId, isEnabled, inputValues, firstName,
  lastName, dateOfBirth, hasSecondClient, secondClientFirstName, secondClientLastName,
  secondClientDateOfBirth, secondClientAnnualIncome, annualIncome, monthlyExpenses, hasDebts,
  debtType, debtInterestRate, debtTermRemaining, debtPayment, debtPaymentFrequency, hasProperties,
  propertyType, propertyMarketValue, propertyCostBasis, additionalComments, clientData, clientId,
  strategyConfigurations, selectedStrategyIds, selectedCustomStrategyIds, report, reportId,
  generatedReport, createdAt]

/-- The key whose spelling is the given name; a name that is no field of any schema has no other
spelling. -/
def ofSpelling (spell : Key → String) (name : String) : Key :=
  (all.find? fun key => spell key = name).getD (single name)

end Key

/-- Fields under one spelling of their keys. -/
def spelled (spell : Key → String) (fields : List (Key × Payload)) : Entries Payload :=
  fields.map fun (key, p) => (spell key, p)

/-- The fields of a payload that is a record. -/
def readRecord : Payload → Checked (Entries Payload)
  | .record fields => .valid fields
  | p => .fail .notRecord p

/-- The value of a field and the spelling under which it was found. -/
def find? (fields : Entries Payload) (key : Key) : Option (String × Payload) :=
  match Entries.get? fields key.wire with
  | some p => some (key.wire, p)
  | none => (Entries.get? fields key.plain).map fun p => (key.plain, p)

/-- A field that must be there. -/
def mandatory {α : Type} (fields : Entries Payload) (key : Key) (read : Payload → Checked α) :
    Checked α :=
  match find? fields key with
  | some (name, p) => (read p).under (.field name)
  | none => .invalid [⟨.missing, [.field key.wire], .record fields⟩]

/-- A field that stands for `default` when it is not there. -/
def optional {α : Type} (fields : Entries Payload) (key : Key) (default : α)
    (read : Payload → Checked α) : Checked α :=
  match find? fields key with
  | some (name, p) => (read p).under (.field name)
  | none => .valid default

/-- A field that need not be there and may be null. -/
def nullable {α : Type} (fields : Entries Payload) (key : Key) (read : Payload → Checked α) :
    Checked (Option α) :=
  optional fields key none (readNullable read)

/-- The fields that none of the keys was found under. -/
def unclaimed (keys : List Key) (fields : Entries Payload) : Entries Payload :=
  fields.filter fun entry => !keys.any fun key => (find? fields key).any (·.1 = entry.1)

mutual

/-- The part of a payload, written in the given spelling, that goes back to something in the payload
it was read from. -/
def onlyGiven (spell : Key → String) : (given written : Payload) → Payload
  | .record given, .record written => .record (onlyGivenFields spell given written)
  | .list given, .list written => .list (onlyGivenItems spell given written)
  | _, written => written

/-- The fields of a written record whose name, in either spelling, was given. -/
def onlyGivenFields (spell : Key → String) (given : List (String × Payload)) :
    (written : List (String × Payload)) → List (String × Payload)
  | [] => []
  | (name, p) :: rest =>
    match find? given (Key.ofSpelling spell name) with
    | some (_, source) => (name, onlyGiven spell source p) :: onlyGivenFields spell given rest
    | none => onlyGivenFields spell given rest

/-- The items of a written list, each beside the item it was read from. -/
def onlyGivenItems (spell : Key → String) : (given written : List Payload) → List Payload
  | source :: given, p :: written => onlyGiven spell source p :: onlyGivenItems spell given written
  | _, written => written

end

end PlanCompiler.Schema
