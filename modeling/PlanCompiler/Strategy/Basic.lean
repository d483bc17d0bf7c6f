import PlanCompiler.Payload

/-!
# Strategies

A strategy is a piece of plan text with blanks to fill in: its content holds placeholders, its input
fields say what a client may enter for them. The catalog holds strategies; clients send drafts of
new ones and revisions of old ones.
-/

namespace PlanCompiler

/-- The kinds of input that a field takes. -/
inductive FieldType
  | text
  | number
  | select
  | textarea
  | date
  | toggle
  deriving DecidableEq, Repr

/-- The kinds of input under their names, in the order in which messages list them. -/
def FieldType.choices : List (String × FieldType) :=
  [("text", .text), ("number", .number), ("select", .select), ("textarea", .textarea),
    ("date", .date), ("toggle", .toggle)]

/-- The name of a kind of input. -/
def FieldType.name : FieldType → String
  | .text => "text"
  | .number => "number"
  | .select => "select"
  | .textarea => "textarea"
  | .date => "date"
  | .toggle => "toggle"

/-- Paragraphs that a toggle adds to the content, one for each state. -/
structure ConditionalText where
  whenTrue : Option String := none
  whenFalse : Option String := none
  deriving DecidableEq, Repr

/-- A blank in the content of a strategy and what may be entered for it. -/
structure InputField where
  id : String
  label : String
  type : FieldType := .text
  placeholder : Option String := none
  required : Bool := false
  options : Option (List String) := none
  defaultValue : Option Scalar := none
  conditionalText : Option ConditionalText := none
  deriving DecidableEq, Repr

/-- All of a strategy but its id. -/
structure StrategyBody where
  title : String
  description : String := ""
  category : String := ""
  /-- The section of the report that the strategy belongs to, if any. -/
  sectionKey : Option String := none
  subsection : Option String := none
  content : String
  inputFields : List InputField := []
  /-- Written by a user. Built-in strategies cannot be deleted. -/
  isCustom : Bool := false
  deriving DecidableEq, Repr

/-- A strategy of the catalog. -/
structure Strategy extends StrategyBody where
  id : String
  deriving DecidableEq, Repr

/-- A strategy to be added; the catalog chooses an id if none is given. -/
structure Draft extends StrategyBody where
  id : Option String := none
  deriving DecidableEq, Repr

/-- The strategy as a draft that insists on its id. -/
def Strategy.toDraft (s : Strategy) : Draft :=
  { s.toStrategyBody with id := some s.id }

/-- The strategy made from a draft under the given id. -/
def Draft.toStrategy (d : Draft) (id : String) : Strategy :=
  { d.toStrategyBody with id }

/-- A partial change of a strategy. Section and subsection may be changed to nothing, for them the
outer option says whether a change was asked for. -/
structure Revision where
  title : Option String := none
  description : Option String := none
  category : Option String := none
  sectionKey : Option (Option String) := none
  subsection : Option (Option String) := none
  content : Option String := none
  inputFields : Option (List InputField) := none
  /-- The fields as they were given. What none of them gave is left out where the revision is
  written to be merged. -/
  given : Entries Payload := []
  deriving DecidableEq, Repr

/-- The strategy with the changes of a revision; id and origin never change. -/
def Revision.apply (r : Revision) (s : Strategy) : Strategy :=
  { s with
    title := r.title.getD s.title
    description := r.description.getD s.description
    category := r.category.getD s.category
    sectionKey := r.sectionKey.getD s.sectionKey
    subsection := r.subsection.getD s.subsection
    content := r.content.getD s.content
    inputFields := r.inputFields.getD s.inputFields }

/-- A strategy written by a user, in the short form. -/
structure CustomDraft where
  title : String
  content : String
  sectionKey : String
  deriving DecidableEq, Repr

@[simp] theorem Revision.id_apply (r : Revision) (s : Strategy) : (r.apply s).id = s.id := rfl

@[simp] theorem Revision.isCustom_apply (r : Revision) (s : Strategy) :
    (r.apply s).isCustom = s.isCustom := rfl

end PlanCompiler
