import PlanCompiler.Payload

/-!
# Payloads in store

Data that no schema describes is stored with null for every number that JSON cannot carry, only up
to a certain depth, and only if no key in it holds a lone surrogate.

* `hasWholeKeys`: no key does;
* `stored`: the stored form of a payload;
* `storedFields`: the same for every field of a record.
-/

namespace PlanCompiler

/-- Why a payload is not written. -/
inductive WriteFault
  | tooDeep
  | brokenKey
  deriving DecidableEq, Repr

/-- The text of a write fault. -/
def WriteFault.message : WriteFault → String
  | .tooDeep => "Maximum serialization depth exceeded"
  | .brokenKey => "key holds a lone surrogate"

namespace Payload

mutual

/-- No key in the payload holds a lone surrogate. -/
def hasWholeKeys : Payload → Bool
  | .list items => hasWholeKeysItems items
  | .record fields => hasWholeKeysFields fields
  | _ => true

/-- `hasWholeKeys` for every item. -/
def hasWholeKeysItems : List Payload → Bool
  | [] => true
  | item :: rest => hasWholeKeys item && hasWholeKeysItems rest

/-- `hasWholeKeys` for every value, and the same for every key. -/
def hasWholeKeysFields : List (String × Payload) → Bool
  | [] => true
  | (key, value) :: rest =>
    Text.isWhole key.toList && hasWholeKeys value && hasWholeKeysFields rest

end

/-- The greatest height of a payload that is stored. -/
def heightLimit : Nat := 255

/-- The stored form of a payload. -/
def stored (p : Payload) : Except WriteFault Payload :=
  if heightLimit < p.height then .error .tooDeep
  else if p.hasWholeKeys then .ok p.finiteOrNull
  else .error .brokenKey

/-- The stored form of every field. -/
def storedFields : Entries Payload → Except WriteFault (Entries Payload)
  | [] => .ok []
  | (key, value) :: rest => do
    let first ← stored value
    let others ← storedFields rest
    pure ((key, first) :: others)

/-- The stored form of every record of a list. -/
def storedRecords : List (Entries Payload) → Except WriteFault (List Payload)
  | [] => .ok []
  | fields :: rest => do
    let first ← storedFields fields
    let others ← storedRecords rest
    pure (.record first :: others)

end Payload

end PlanCompiler
