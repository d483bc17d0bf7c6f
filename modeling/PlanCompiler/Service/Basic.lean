import PlanCompiler.Catalog.Basic
import PlanCompiler.Instant.Reading
import PlanCompiler.Log.Event
import PlanCompiler.Payload.Stored
import PlanCompiler.Report.Archive

/-!
# The state of the service

Everything that an operation may read or change: catalog, archive, the serial number of the next
generated id, the clock. An operation takes the state and leaves an outcome: its answer or the
reason why it was refused, the state after it, and what it logged.
-/

namespace PlanCompiler

open Schema

/-- The state of the service. -/
structure Service where
  catalog : Catalog := {}
  archive : Archive := {}
  /-- The serial number of the next generated id. -/
  serial : Nat := 1
  /-- The next reading of the clock. -/
  clock : Instant := Instant.epoch
  /-- How many reports a listing shows at most, as it was set. -/
  listLimit : Payload := .integer 100
  deriving Repr

/-- Why the catalog does not take a change. -/
inductive Conflict
  | duplicate (id : String)
  | builtIn (id : String)
  deriving DecidableEq, Repr

/-- The text of a conflict. -/
def Conflict.message : Conflict → String
  | .duplicate id => s!"Strategy id '{id}' already exists"
  | .builtIn id => s!"Built-in strategy '{id}' cannot be deleted"

/-- Why an operation was refused. -/
inductive Refusal
  | invalid (rejection : Rejection)
  | conflict (cause : Conflict)
  | storage (fault : StorageFault)
  | unwritable (fault : WriteFault)
  | limit (fault : LimitFault)
  | document (fault : DocumentFault)
  /-- There is no report to export. -/
  | noReport
  | clock (text : String) (fault : InstantFault)
  deriving DecidableEq, Repr

/-- What an operation leaves behind. -/
structure Outcome (α : Type) where
  answer : Except Refusal α
  service : Service
  events : List Event := []

namespace Outcome

variable {α β : Type}

/-- Change the answer. -/
def map (f : α → β) (o : Outcome α) : Outcome β :=
  { o with answer := o.answer.map f }

/-- Go on with the answer, in the state and after the events of the first operation. -/
def andThen (o : Outcome α) (next : α → Service → Outcome β) : Outcome β :=
  match o.answer with
  | .ok a =>
    let o' := next a o.service
    { o' with events := o.events ++ o'.events }
  | .error refusal => { answer := .error refusal, service := o.service, events := o.events }

end Outcome

namespace Service

variable {α : Type}

/-- Answer without a change. -/
def answer (v : Service) (a : α) : Outcome α :=
  { answer := .ok a, service := v }

/-- Refuse without a change. -/
def refuse (v : Service) (refusal : Refusal) : Outcome α :=
  { answer := .error refusal, service := v }

/-- Answer or refuse without a change. -/
def conclude {ε : Type} (v : Service) (x : Except ε α) (refusal : ε → Refusal) : Outcome α :=
  match x with
  | .ok a => v.answer a
  | .error e => v.refuse (refusal e)

/-- Go on with a payload's value if it fits its schema. -/
def checked (v : Service) (x : Except Rejection α) {β : Type} (next : α → Outcome β) : Outcome β :=
  match x with
  | .ok a => next a
  | .error rejection => v.refuse (.invalid rejection)

/-- The state with another catalog. -/
def withCatalog (v : Service) (catalog : Catalog) : Service :=
  { v with catalog }

end Service

end PlanCompiler
