import PlanCompiler.Proofs.Schema.Reading
import PlanCompiler.Proofs.Schema.Spelling
import PlanCompiler.Strategy.Schema

/-!
# Reading what was written

What a reader makes of a written value, and of what is left of it when only the fields are kept that
were given. Records come down to their fields (`mandatory_spelled`, `optional_spelled`,
`mandatory_onlyGivenFields`, `optional_onlyGivenFields`), fields to their values
(`readNullable_ofOption`, `readList_map`, `readNullable_onlyGiven`, `readList_onlyGiven`).
-/

namespace PlanCompiler.Schema

open Key

variable {α : Type} {spell : Key → String} {given : Entries Payload} {key : Key}
  {read : Payload → Checked α} {write : α → Payload} {a default : α}

/-! ## Fields -/

section Fields

variable (hs : IsSpelling spell) {fields : List (Key × Payload)}
  (known : fields.map Prod.fst ⊆ all) (hk : key ∈ all) {p : Payload}
  (there : fields.lookup key = some p)

include hs known hk there

theorem mandatory_spelled (back : read p = .valid a) :
    mandatory (spelled spell fields) key read = .valid a := by
  rw [mandatory_eq_valid_iff, find?_spelled hs known hk, there]
  exact ⟨_, _, rfl, back⟩

theorem optional_spelled (back : read p = .valid a) :
    optional (spelled spell fields) key default read = .valid a := by
  rw [optional_eq_valid_iff, find?_spelled hs known hk, there]
  exact .inr ⟨_, _, rfl, back⟩

/-- A mandatory field is among those that were given. -/
theorem mandatory_onlyGivenFields (h : mandatory given key read = .valid a)
    (back : ∀ source, read source = .valid a → read (onlyGiven spell source p) = .valid a) :
    mandatory (onlyGivenFields spell given (spelled spell fields)) key read = .valid a := by
  obtain ⟨name, source, found, hread⟩ := mandatory_eq_valid_iff.1 h
  rw [mandatory_eq_valid_iff, find?_onlyGivenFields hs known hk, found, there]
  exact ⟨_, _, rfl, back source hread⟩

/-- A field that was not given stands for its default, whether it is written or left out. -/
theorem optional_onlyGivenFields (h : optional given key default read = .valid a)
    (back : ∀ source, read source = .valid a → read (onlyGiven spell source p) = .valid a) :
    optional (onlyGivenFields spell given (spelled spell fields)) key default read = .valid a := by
  rw [optional_eq_valid_iff, find?_onlyGivenFields hs known hk, there]
  rcases optional_eq_valid_iff.1 h with ⟨absent, same⟩ | ⟨name, source, found, hread⟩
  · rw [absent]
    exact .inl ⟨rfl, same⟩
  · rw [found]
    exact .inr ⟨_, _, rfl, back source hread⟩

end Fields

/-! ## Values that are no records -/

@[simp] theorem onlyGiven_null (source : Payload) : onlyGiven spell source .null = .null := by
  cases source <;> rfl

@[simp] theorem onlyGiven_text (source : Payload) (s : String) :
    onlyGiven spell source (.text s) = .text s := by
  cases source <;> rfl

@[simp] theorem onlyGiven_boolean (source : Payload) (b : Bool) :
    onlyGiven spell source (.boolean b) = .boolean b := by
  cases source <;> rfl

@[simp] theorem onlyGiven_toPayload (source : Payload) (s : Scalar) :
    onlyGiven spell source s.toPayload = s.toPayload := by
  cases source <;> cases s <;> rfl

theorem onlyGivenItems_texts (sources : List Payload) (texts : List String) :
    onlyGivenItems spell sources (texts.map .text) = texts.map .text := by
  induction texts generalizing sources with
  | nil => cases sources <;> rfl
  | cons s rest ih =>
    cases sources with
    | nil => rfl
    | cons source sources => rw [List.map_cons, onlyGivenItems, onlyGiven_text, ih]

@[simp] theorem onlyGiven_ofTexts (source : Payload) (texts : List String) :
    onlyGiven spell source (.ofTexts texts) = .ofTexts texts := by
  cases source with
  | list sources => exact congrArg Payload.list (onlyGivenItems_texts sources texts)
  | _ => rfl

/-! ## Null and lists -/

/-- A written value that is there is not null. -/
def Writes (read : Payload → Checked α) (write : α → Payload) (a : α) : Prop :=
  write a ≠ .null ∧ read (write a) = .valid a

theorem readNullable_ofOption {a? : Option α} (back : ∀ a ∈ a?, Writes read write a) :
    readNullable read (.ofOption write a?) = .valid a? := by
  rw [readNullable_eq_valid_iff]
  cases a? with
  | none => exact .inl ⟨rfl, rfl⟩
  | some a =>
    obtain ⟨there, hread⟩ := back a rfl
    exact .inr ⟨there, a, hread, rfl⟩

/-- A field that was accepted is written as a value that is accepted. -/
theorem readNullable_ofOption_of_nullable {r : Entries Payload} {a? : Option α}
    (h : nullable r key read = .valid a?)
    (back : ∀ p a, read p = .valid a → Writes read write a) :
    readNullable read (.ofOption write a?) = .valid a? := by
  refine readNullable_ofOption ?_
  rintro a rfl
  rcases nullable_eq_valid_iff.1 h with ⟨-, absent⟩ | ⟨name, p, -, hread⟩
  · cases absent
  · rcases readNullable_eq_valid_iff.1 hread with ⟨-, absent⟩ | ⟨-, b, accepted, same⟩
    · cases absent
    · cases same
      exact back p a accepted

/-- What is left of a written value is not null, and is read as that value. -/
def WritesGiven (spell : Key → String) (read : Payload → Checked α) (write : α → Payload) : Prop :=
  ∀ source a, read source = .valid a →
    onlyGiven spell source (write a) ≠ .null ∧ read (onlyGiven spell source (write a)) = .valid a

theorem readNullable_onlyGiven (back : WritesGiven spell read write) {source : Payload}
    {a? : Option α} (h : readNullable read source = .valid a?) :
    readNullable read (onlyGiven spell source (.ofOption write a?)) = .valid a? := by
  rcases readNullable_eq_valid_iff.1 h with ⟨-, rfl⟩ | ⟨-, a, hread, rfl⟩
  · rw [Payload.ofOption, onlyGiven_null]
    rfl
  · obtain ⟨there, again⟩ := back source a hread
    exact readNullable_eq_valid_iff.2 (.inr ⟨there, a, again, rfl⟩)

theorem readList_map {as : List α} (back : ∀ a ∈ as, read (write a) = .valid a) :
    readList read (.list (as.map write)) = .valid as := by
  rw [readList_eq_valid_iff]
  refine ⟨_, rfl, ?_⟩
  rw [List.forall₂_map_left_iff, List.forall₂_same]
  exact back

theorem forall₂_onlyGivenItems
    (back : ∀ source a, read source = .valid a → read (onlyGiven spell source (write a)) = .valid a)
    {sources : List Payload} {as : List α}
    (h : List.Forall₂ (fun p a => read p = .valid a) sources as) :
    List.Forall₂ (fun p a => read p = .valid a) (onlyGivenItems spell sources (as.map write))
      as := by
  induction h with
  | nil => exact .nil
  | cons hread _ ih => exact .cons (back _ _ hread) ih

theorem readList_onlyGiven
    (back : ∀ source a, read source = .valid a → read (onlyGiven spell source (write a)) = .valid a)
    {source : Payload} {as : List α} (h : readList read source = .valid as) :
    readList read (onlyGiven spell source (.list (as.map write))) = .valid as := by
  obtain ⟨sources, rfl, items⟩ := readList_eq_valid_iff.1 h
  rw [onlyGiven, readList_eq_valid_iff]
  exact ⟨_, rfl, forall₂_onlyGivenItems back items⟩

end PlanCompiler.Schema
