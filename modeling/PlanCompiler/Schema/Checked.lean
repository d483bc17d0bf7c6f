import PlanCompiler.Schema.Issue

/-!
# Checked values

A value that passed its checks, or every issue that was found. Checks of several fields run side by
side, so that one report names the issues of all of them, in the order of the fields.

* `Checked` is an applicative: `f <*> x` collects the issues of both sides;
* `Checked.andThen`: a check that needs the value of an earlier one;
* `Checked.all`: the items of a list side by side.
-/

namespace PlanCompiler.Schema

universe u v w

/-- A value that passed its checks, or the issues that were found. -/
inductive Checked (α : Type u)
  | valid (value : α)
  | invalid (issues : List Issue)
  deriving Repr

namespace Checked

variable {α : Type u} {β : Type v}

/-- Change the value. -/
def map (f : α → β) : Checked α → Checked β
  | .valid value => .valid (f value)
  | .invalid issues => .invalid issues

/-- Two checks side by side: the issues of the first, then those of the second. -/
def seq (f : Checked (α → β)) (x : Checked α) : Checked β :=
  match f, x with
  | .valid f, .valid x => .valid (f x)
  | .valid _, .invalid issues => .invalid issues
  | .invalid issues, .valid _ => .invalid issues
  | .invalid issues, .invalid others => .invalid (issues ++ others)

instance : Functor Checked where
  map := map

instance : Applicative Checked where
  pure := .valid
  seq f x := seq f (x ())

/-- A check on the value of an earlier one. -/
def andThen (x : Checked α) (f : α → Checked β) : Checked β :=
  match x with
  | .valid value => f value
  | .invalid issues => .invalid issues

/-- A check of a payload that failed with a single fault. -/
def fail (fault : Fault) (p : Payload) : Checked α :=
  .invalid [{ fault, value := p }]

/-- A condition on what was read from a payload, and the fault of the payload when it fails. -/
def ensure (x : Checked α) (holds : α → Bool) (fault : Fault) (p : Payload) : Checked α :=
  x.andThen fun value => if holds value then .valid value else .fail fault p

/-- The same check seen from one level further out. -/
def under (step : Step) : Checked α → Checked α
  | .valid value => .valid value
  | .invalid issues => .invalid (issues.map (·.under step))

/-- Checks side by side. -/
def all : List (Checked α) → Checked (List α)
  | [] => .valid []
  | x :: rest => seq (map List.cons x) (all rest)

/-- The value, if there is one. -/
def toOption : Checked α → Option α
  | .valid value => some value
  | .invalid _ => none

/-- The outcome under the name of the schema. -/
def named (model : String) : Checked α → Except Rejection α
  | .valid value => .ok value
  | .invalid issues => .error ⟨model, issues⟩

@[simp] theorem map_valid (f : α → β) (value : α) : map f (.valid value) = .valid (f value) := rfl

@[simp] theorem map_invalid (f : α → β) (issues : List Issue) :
    map f (.invalid issues) = .invalid issues := rfl

@[simp] theorem seq_valid (f : α → β) (value : α) :
    seq (.valid f) (.valid value) = .valid (f value) := rfl

@[simp] theorem andThen_valid (value : α) (f : α → Checked β) :
    andThen (.valid value) f = f value := rfl

@[simp] theorem under_valid (step : Step) (value : α) :
    under step (.valid value) = .valid value := rfl

@[simp] theorem functor_map_eq {α β : Type u} (f : α → β) (x : Checked α) : f <$> x = map f x := rfl

@[simp] theorem applicative_seq_eq {α β : Type u} (f : Checked (α → β)) (x : Checked α) :
    f <*> x = seq f x := rfl

@[simp] theorem pure_eq {α : Type u} (value : α) : (pure value : Checked α) = .valid value := rfl

theorem seq_eq_valid_iff {f : Checked (α → β)} {x : Checked α} {b : β} :
    seq f x = .valid b ↔ ∃ g a, f = .valid g ∧ x = .valid a ∧ g a = b := by
  cases f <;> cases x <;> simp [seq]

theorem map_eq_valid_iff {f : α → β} {x : Checked α} {b : β} :
    map f x = .valid b ↔ ∃ a, x = .valid a ∧ f a = b := by
  cases x <;> simp [map]

end Checked

end PlanCompiler.Schema
