import PlanCompiler.Entries
import PlanCompiler.Number.Decimal
import PlanCompiler.Text.CodePoint

/-!
# Payloads

What a client may send before anything is known about its shape: a tree of scalars, lists and
records. An integer, a floating-point number, a truth value and a text stay apart even where they
look alike.
-/

namespace PlanCompiler

/-- A value as clients send it. -/
inductive Payload
  | null
  | boolean (value : Bool)
  | integer (value : Int)
  | double (value : Binary64)
  | text (value : String)
  | list (items : List Payload)
  | record (fields : List (String × Payload))
  deriving Repr, Inhabited

/-- A value that a client may enter for a field. -/
inductive Scalar
  | boolean (value : Bool)
  | integer (value : Int)
  | double (value : Binary64)
  | text (value : String)
  deriving DecidableEq, Repr

namespace Scalar

/-- The scalar as a payload. -/
def toPayload : Scalar → Payload
  | .boolean value => .boolean value
  | .integer value => .integer value
  | .double value => .double value
  | .text value => .text value

end Scalar

namespace Payload

/-- The scalar that a payload is, without any conversion. -/
def toScalar? : Payload → Option Scalar
  | .boolean value => some (.boolean value)
  | .integer value => some (.integer value)
  | .double value => some (.double value)
  | .text value => some (.text value)
  | _ => none

/-- The text that a payload is. -/
def toText? : Payload → Option String
  | .text value => some value
  | _ => none

@[simp] theorem toScalar?_toPayload (s : Scalar) : s.toPayload.toScalar? = some s := by
  cases s <;> rfl

mutual

/-- The two payloads are equal. -/
def same : (p q : Payload) → Bool
  | .null, .null => true
  | .boolean v, .boolean w => v == w
  | .integer v, .integer w => v == w
  | .double v, .double w => v == w
  | .text v, .text w => v == w
  | .list v, .list w => sameItems v w
  | .record v, .record w => sameFields v w
  | _, _ => false

/-- `same` for items side by side. -/
def sameItems : (ps qs : List Payload) → Bool
  | [], [] => true
  | p :: ps, q :: qs => same p q && sameItems ps qs
  | _, _ => false

/-- `same` for fields side by side. -/
def sameFields : (ps qs : List (String × Payload)) → Bool
  | [], [] => true
  | (k, p) :: ps, (l, q) :: qs => k == l && same p q && sameFields ps qs
  | _, _ => false

end

mutual

theorem same_iff : (p q : Payload) → (same p q = true ↔ p = q)
  | .null, q => by cases q <;> simp [same]
  | .boolean _, q => by cases q <;> simp [same]
  | .integer _, q => by cases q <;> simp [same]
  | .double _, q => by cases q <;> simp [same]
  | .text _, q => by cases q <;> simp [same]
  | .list v, q => by
    cases q <;> simp [same]
    exact sameItems_iff v _
  | .record v, q => by
    cases q <;> simp [same]
    exact sameFields_iff v _

theorem sameItems_iff : (ps qs : List Payload) → (sameItems ps qs = true ↔ ps = qs)
  | [], qs => by cases qs <;> simp [sameItems]
  | p :: ps, [] => by simp [sameItems]
  | p :: ps, q :: qs => by simp [sameItems, same_iff p q, sameItems_iff ps qs]

theorem sameFields_iff : (ps qs : List (String × Payload)) → (sameFields ps qs = true ↔ ps = qs)
  | [], qs => by cases qs <;> simp [sameFields]
  | p :: ps, [] => by simp [sameFields]
  | (k, p) :: ps, (l, q) :: qs => by
    simp [sameFields, same_iff p q, sameFields_iff ps qs, and_assoc]

end

instance : DecidableEq Payload := fun p q => decidable_of_iff _ (same_iff p q)

mutual

/-- No text in the payload holds a lone surrogate, and no key. -/
def isWhole : Payload → Bool
  | .text value => Text.isWhole value.toList
  | .list items => isWholeItems items
  | .record fields => isWholeFields fields
  | _ => true

/-- `isWhole` for every item. -/
def isWholeItems : List Payload → Bool
  | [] => true
  | item :: rest => isWhole item && isWholeItems rest

/-- `isWhole` for every key and every value. -/
def isWholeFields : List (String × Payload) → Bool
  | [] => true
  | (key, value) :: rest => Text.isWhole key.toList && isWhole value && isWholeFields rest

end

mutual

/-- How deeply lists and records are nested: one for a scalar, one more for each level around it. -/
def height : Payload → Nat
  | .list items => heightItems items + 1
  | .record fields => heightFields fields + 1
  | _ => 1

/-- The greatest height of an item, zero when there is none. -/
def heightItems : List Payload → Nat
  | [] => 0
  | item :: rest => max (height item) (heightItems rest)

/-- The greatest height of a value, zero when there is none. -/
def heightFields : List (String × Payload) → Nat
  | [] => 0
  | (_, value) :: rest => max (height value) (heightFields rest)

end

mutual

/-- No number in the payload is an infinity or not a number. -/
def allFinite : Payload → Bool
  | .double value => value.isFinite
  | .list items => allFiniteItems items
  | .record fields => allFiniteFields fields
  | _ => true

/-- `allFinite` for every item. -/
def allFiniteItems : List Payload → Bool
  | [] => true
  | item :: rest => allFinite item && allFiniteItems rest

/-- `allFinite` for every field. -/
def allFiniteFields : List (String × Payload) → Bool
  | [] => true
  | (_, value) :: rest => allFinite value && allFiniteFields rest

end

/-- The payload can be written as JSON. -/
def isWritable (p : Payload) : Bool :=
  p.allFinite && p.isWhole

mutual

/-- The payload with null for every number that JSON cannot carry. -/
def finiteOrNull : Payload → Payload
  | .double value => if value.isFinite then .double value else .null
  | .list items => .list (finiteOrNullItems items)
  | .record fields => .record (finiteOrNullFields fields)
  | p => p

/-- `finiteOrNull` for every item. -/
def finiteOrNullItems : List Payload → List Payload
  | [] => []
  | item :: rest => finiteOrNull item :: finiteOrNullItems rest

/-- `finiteOrNull` for every field. -/
def finiteOrNullFields : List (String × Payload) → List (String × Payload)
  | [] => []
  | (key, value) :: rest => (key, finiteOrNull value) :: finiteOrNullFields rest

end

end Payload

end PlanCompiler
