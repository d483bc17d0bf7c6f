import PlanCompiler.Payload

/-!
# Payloads within limits

A payload is not put into a text whose integer has too many digits, or whose lists and records are
nested too deeply. Whether a scalar counts as a level of its own depends on the text: it does where
values are spelled out, and does not in JSON.

* `levels`, `longestInteger`: what a payload takes;
* `Fits`: it takes no more than the limits;
* `excess?`: what goes beyond them first, in the order in which the payload is written.
-/

namespace PlanCompiler

/-- How much is put into a text, or taken from one: the digits of an integer, and the depth to which
lists and records are nested. -/
structure Limits where
  digits : Nat := 4300
  depth : Nat := 970
  deriving DecidableEq, Repr

/-- What there is too much of. -/
inductive Excess
  | digits
  | depth
  deriving DecidableEq, Repr

namespace Payload

mutual

/-- How many levels a payload takes: one for each list or record that lies around others, and the
given number for a scalar. -/
def levels (scalar : Nat) : Payload → Nat
  | .list items => levelsItems scalar items + 1
  | .record fields => levelsFields scalar fields + 1
  | _ => scalar

/-- The greatest number of levels of an item, zero when there is none. -/
def levelsItems (scalar : Nat) : List Payload → Nat
  | [] => 0
  | item :: rest => max (levels scalar item) (levelsItems scalar rest)

/-- The greatest number of levels of a value, zero when there is none. -/
def levelsFields (scalar : Nat) : List (String × Payload) → Nat
  | [] => 0
  | (_, value) :: rest => max (levels scalar value) (levelsFields scalar rest)

end

mutual

/-- How many digits the longest integer in a payload has, zero when there is none. -/
def longestInteger : Payload → Nat
  | .integer value => Binary64.decimalLength value.natAbs
  | .list items => longestIntegerItems items
  | .record fields => longestIntegerFields fields
  | _ => 0

/-- `longestInteger` over all items. -/
def longestIntegerItems : List Payload → Nat
  | [] => 0
  | item :: rest => max (longestInteger item) (longestIntegerItems rest)

/-- `longestInteger` over all values. -/
def longestIntegerFields : List (String × Payload) → Nat
  | [] => 0
  | (_, value) :: rest => max (longestInteger value) (longestIntegerFields rest)

end

/-- The payload takes no more than the limits, a scalar the given number of levels. -/
def Fits (limits : Limits) (scalar : Nat) (p : Payload) : Prop :=
  p.levels scalar ≤ limits.depth ∧ p.longestInteger ≤ limits.digits

instance (limits : Limits) (scalar : Nat) (p : Payload) : Decidable (Fits limits scalar p) :=
  inferInstanceAs (Decidable (_ ∧ _))

mutual

/-- What goes beyond the limits first while the payload is written with so many levels left. -/
def excessFrom? (digits scalar : Nat) : Nat → Payload → Option Excess
  | left, .integer value =>
    if left < scalar then some .depth
    else if digits < Binary64.decimalLength value.natAbs then some .digits
    else none
  | left, .list items =>
    if left = 0 then some .depth else excessItems? digits scalar (left - 1) items
  | left, .record fields =>
    if left = 0 then some .depth else excessFields? digits scalar (left - 1) fields
  | left, _ => if left < scalar then some .depth else none

/-- `excessFrom?` of the items, one after another. -/
def excessItems? (digits scalar : Nat) : Nat → List Payload → Option Excess
  | _, [] => none
  | left, item :: rest =>
    (excessFrom? digits scalar left item).or (excessItems? digits scalar left rest)

/-- `excessFrom?` of the values, one after another. -/
def excessFields? (digits scalar : Nat) : Nat → List (String × Payload) → Option Excess
  | _, [] => none
  | left, (_, value) :: rest =>
    (excessFrom? digits scalar left value).or (excessFields? digits scalar left rest)

end

/-- What goes beyond the limits first while the payload is written, if something does. -/
def excess? (limits : Limits) (scalar : Nat) (p : Payload) : Option Excess :=
  excessFrom? limits.digits scalar limits.depth p

/-- The written form of a payload, if the payload fits. -/
def within (limits : Limits) (scalar : Nat) (p : Payload) (written : List Char) :
    Except Excess (List Char) :=
  match p.excess? limits scalar with
  | some excess => .error excess
  | none => .ok written

variable {limits : Limits} {scalar : Nat} {p : Payload}

mutual

theorem excessFrom?_eq_none_iff {digits : Nat} : (left : Nat) → (p : Payload) →
    (excessFrom? digits scalar left p = none ↔ levels scalar p ≤ left ∧ longestInteger p ≤ digits)
  | left, .integer value => by
    simp only [excessFrom?, levels, longestInteger]
    grind
  | left, .list items => by
    rw [excessFrom?, levels, longestInteger]
    by_cases empty : left = 0
    · simp [empty]
    · rw [if_neg empty, excessItems?_eq_none_iff]
      omega
  | left, .record fields => by
    rw [excessFrom?, levels, longestInteger]
    by_cases empty : left = 0
    · simp [empty]
    · rw [if_neg empty, excessFields?_eq_none_iff]
      omega
  | left, .null | left, .boolean _ | left, .double _ | left, .text _ => by
    simp [excessFrom?, levels, longestInteger]

theorem excessItems?_eq_none_iff {digits : Nat} : (left : Nat) → (items : List Payload) →
    (excessItems? digits scalar left items = none ↔
      levelsItems scalar items ≤ left ∧ longestIntegerItems items ≤ digits)
  | left, [] => by simp [excessItems?, levelsItems, longestIntegerItems]
  | left, item :: rest => by
    simp only [excessItems?, Option.or_eq_none_iff, excessFrom?_eq_none_iff left item,
      excessItems?_eq_none_iff left rest, levelsItems, longestIntegerItems, Nat.max_le]
    exact and_and_and_comm

theorem excessFields?_eq_none_iff {digits : Nat} : (left : Nat) →
    (fields : List (String × Payload)) →
    (excessFields? digits scalar left fields = none ↔
      levelsFields scalar fields ≤ left ∧ longestIntegerFields fields ≤ digits)
  | left, [] => by simp [excessFields?, levelsFields, longestIntegerFields]
  | left, (_, value) :: rest => by
    simp only [excessFields?, Option.or_eq_none_iff, excessFrom?_eq_none_iff left value,
      excessFields?_eq_none_iff left rest, levelsFields, longestIntegerFields, Nat.max_le]
    exact and_and_and_comm

end

/-- Nothing goes beyond the limits of what fits, and something does of all else. -/
theorem excess?_eq_none_iff : p.excess? limits scalar = none ↔ p.Fits limits scalar :=
  excessFrom?_eq_none_iff limits.depth p

theorem Fits.mono {wider : Limits} (fits : p.Fits limits scalar)
    (digits : limits.digits ≤ wider.digits) (depth : limits.depth ≤ wider.depth) :
    p.Fits wider scalar :=
  ⟨Nat.le_trans fits.1 depth, Nat.le_trans fits.2 digits⟩

theorem within_eq_ok_iff {written s : List Char} :
    p.within limits scalar written = .ok s ↔ p.Fits limits scalar ∧ s = written := by
  rw [within, ← excess?_eq_none_iff]
  cases p.excess? limits scalar <;> simp [eq_comm]

end Payload

end PlanCompiler
