import PlanCompiler.Payload.Entered
import PlanCompiler.Strategy.Basic

/-!
# Field values

From what a client entered to the values of a strategy's fields. A field takes the entered value,
else its default, else it has no value; a toggle may add a paragraph for its state.

* `resolve`: one field;
* `resolveAll`: the fields of a strategy, values by field id and paragraphs in field order.
-/

namespace PlanCompiler

open Text

/-- What kind of value a field has. -/
inductive ValueKind
  | text
  | number
  | boolean
  | date
  deriving DecidableEq, Repr

/-- The kinds of value under their names. -/
def ValueKind.table : List (String × ValueKind) :=
  [("text", .text), ("number", .number), ("boolean", .boolean), ("date", .date)]

/-- The name of a kind of value. -/
def ValueKind.name : ValueKind → String
  | .text => "text"
  | .number => "number"
  | .boolean => "boolean"
  | .date => "date"

/-- The kind of value that a kind of input yields. -/
def FieldType.valueKind : FieldType → ValueKind
  | .text | .select | .textarea => .text
  | .number => .number
  | .date => .date
  | .toggle => .boolean

/-- The value of a field: its kind, and the text that goes into content. -/
structure FieldValue where
  kind : ValueKind
  raw : String
  deriving DecidableEq, Repr

/-- The value read as the state of a toggle. -/
def FieldValue.isOn (v : FieldValue) : Bool :=
  if v.kind = .boolean then v.raw = "true" else isOnText v.raw.toList

/-- The value that an entered payload yields in a field of the given kind. -/
def FieldType.valueOf (type : FieldType) (entered : Payload) : FieldValue :=
  match type.valueKind with
  | .boolean => ⟨.boolean, Payload.flagText entered.isOn⟩
  | kind => ⟨kind, entered.entryText⟩

/-- What became of one field. -/
structure ResolvedField where
  fieldId : String
  value : Option FieldValue := none
  paragraph : Option String := none
  deriving DecidableEq, Repr

namespace InputField

/-- What was entered for a field: the supplied value, unless it is null, or the default. -/
def entered? (f : InputField) (supplied : Entries Payload) : Option Payload :=
  match Entries.get? supplied f.id with
  | none | some .null => f.defaultValue.map Scalar.toPayload
  | some p => some p

/-- The paragraph that a toggle adds in the state of its value; an empty one counts as none. -/
def paragraph? (f : InputField) (v : FieldValue) : Option String :=
  match f.type, f.conditionalText with
  | .toggle, some paragraphs =>
    (if v.isOn then paragraphs.whenTrue else paragraphs.whenFalse).filter (!·.isEmpty)
  | _, _ => none

/-- Resolve one field against the supplied values. -/
def resolve (f : InputField) (supplied : Entries Payload) : ResolvedField :=
  match f.entered? supplied with
  | none => { fieldId := f.id }
  | some p =>
    let value := f.type.valueOf p
    { fieldId := f.id, value, paragraph := f.paragraph? value }

end InputField

/-- The values of a strategy's fields, its paragraphs, and the fields left without a value. -/
structure ResolvedFields where
  values : Entries FieldValue := []
  paragraphs : List String := []
  unresolved : List String := []
  deriving Repr

/-- Resolve the fields of a strategy one after another. Of several fields with one id the last one
that has a value counts. -/
def resolveAll (fields : List InputField) (supplied : Entries Payload) : ResolvedFields :=
  let resolved := fields.map (·.resolve supplied)
  { values := Entries.putAll [] (resolved.filterMap fun r => r.value.map fun v => (r.fieldId, v))
    paragraphs := resolved.filterMap (·.paragraph)
    unresolved := (resolved.filter (·.value.isNone)).map (·.fieldId) }

end PlanCompiler
