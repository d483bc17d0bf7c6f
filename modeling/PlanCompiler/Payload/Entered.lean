import PlanCompiler.Payload.Spelled
import PlanCompiler.Text.Case

/-!
# Entered values

The ways in which the value of a field is read: as the state of a toggle, and as the text that goes
into the content of a strategy.

* `isFilled`: there is something at all;
* `items?`: what the payload is made of;
* `isOn`: the same, but a text is on only for a few words;
* `entryText`: truth values in small letters, whole numbers without a point.
-/

namespace PlanCompiler

open Text

/-- The words that switch a toggle on, in small letters. -/
def onWords : List (List Char) :=
  ["true".toList, "yes".toList, "on".toList, "1".toList]

/-- The text, trimmed and in small letters, is one of the words that switch a toggle on. -/
def isOnText (s : List Char) : Bool :=
  onWords.contains (lower (trim s))

namespace Payload

/-- There is something: neither nothing, nor false, nor zero, nor a text, a list or a record that is
empty. -/
def isFilled : Payload → Bool
  | .null => false
  | .boolean value => value
  | .integer value => value != 0
  | .double value => !value.isZero
  | .text value => !value.isEmpty
  | .list items => !items.isEmpty
  | .record fields => !fields.isEmpty

/-- The items that a payload is made of, if it is made of any: those of a list, the characters of a
text, the keys of a record. -/
def items? : Payload → Option (List Payload)
  | .list items => some items
  | .text value => some ((codes value.toList).map fun code => .text (String.ofList (keptCode code)))
  | .record fields => some (fields.map fun field => .text field.1)
  | _ => none

/-- The payload read as the state of a toggle. -/
def isOn : Payload → Bool
  | .text value => isOnText value.toList
  | p => p.isFilled

/-- The text of a truth value in content. -/
def flagText (value : Bool) : String :=
  if value then "true" else "false"

/-- The payload as the text that goes into content. A floating-point number without a fraction is
written as the integer it is. An integer is written however many digits it has; formatting a value
refuses one with more than `Limits.digits`, and there this text stands for no formatted value. -/
def entryText : Payload → String
  | .boolean value => flagText value
  | .double value =>
    match value.toInt? with
    | some i => toString i
    | none => String.ofList value.text
  | p => String.ofList p.spelled

end Payload

end PlanCompiler
