import PlanCompiler.Proofs.Client.Config
import PlanCompiler.Proofs.Payload.Stored
import PlanCompiler.Proofs.Strategy.Revision

/-!
# Infinities in scalars

Default values of fields and what clients enter for them are scalars that are taken as they are
sent. Nothing turns them into an infinity, and nothing refuses one that was sent.

* `ReadsFinite`: what a reader makes of finite numbers, with one lemma for each way of putting
  readers together;
* `IsFinite`, `allFinite_write_iff`, for each schema: which numbers a written value holds;
* `readsFinite`, for each schema: they are finite if those sent are.
-/

namespace PlanCompiler

open Schema

namespace Payload

theorem allFiniteItems_iff {items : List Payload} :
    allFiniteItems items = true ↔ ∀ p ∈ items, p.allFinite = true := by
  induction items with
  | nil => simp [allFiniteItems]
  | cons p rest ih => simp [allFiniteItems, ih]

theorem allFiniteFields_iff {fields : Entries Payload} :
    allFiniteFields fields = true ↔ ∀ entry ∈ fields, entry.2.allFinite = true := by
  induction fields with
  | nil => simp [allFiniteFields]
  | cons entry rest ih => simp [allFiniteFields, ih]

theorem allFiniteFields_append_iff {fields rest : Entries Payload} :
    allFiniteFields (fields ++ rest) = true ↔
      allFiniteFields fields = true ∧ allFiniteFields rest = true := by
  simp only [allFiniteFields_iff, List.forall_mem_append]

theorem allFiniteFields_mapValues_iff {α : Type} {write : α → Payload} {t : Entries α} :
    allFiniteFields (Entries.mapValues write t) = true ↔
      ∀ entry ∈ t, (write entry.2).allFinite = true := by
  rw [allFiniteFields_iff, Entries.mapValues, List.forall_mem_map]

@[simp] theorem allFinite_ofTexts (texts : List String) : (ofTexts texts).allFinite = true := by
  rw [ofTexts, allFinite, allFiniteItems_iff]
  rintro _ mem
  obtain ⟨text, -, rfl⟩ := List.mem_map.1 mem
  rfl

@[simp] theorem allFinite_ofOption {α : Type} {write : α → Payload} {a? : Option α} :
    (ofOption write a?).allFinite = true ↔ ∀ a ∈ a?, (write a).allFinite = true := by
  cases a? <;> simp [ofOption, allFinite]

mutual

/-- Where null has taken the place of every other number, the numbers are finite. -/
theorem allFinite_finiteOrNull : (p : Payload) → p.finiteOrNull.allFinite = true
  | .double value => by
    by_cases finite : value.isFinite = true <;> simp [finiteOrNull, finite, allFinite]
  | .list items => by
    simpa only [finiteOrNull, allFinite] using allFiniteItems_finiteOrNullItems items
  | .record fields => by
    simpa only [finiteOrNull, allFinite] using allFiniteFields_finiteOrNullFields fields
  | .null | .boolean _ | .integer _ | .text _ => rfl

theorem allFiniteItems_finiteOrNullItems : (items : List Payload) →
    allFiniteItems (finiteOrNullItems items) = true
  | [] => rfl
  | item :: rest => by
    simp only [finiteOrNullItems, allFiniteItems, allFinite_finiteOrNull item,
      allFiniteItems_finiteOrNullItems rest, Bool.and_self]

theorem allFiniteFields_finiteOrNullFields : (fields : List (String × Payload)) →
    allFiniteFields (finiteOrNullFields fields) = true
  | [] => rfl
  | (key, value) :: rest => by
    simp only [finiteOrNullFields, allFiniteFields, allFinite_finiteOrNull value,
      allFiniteFields_finiteOrNullFields rest, Bool.and_self]

end

end Payload

namespace Schema

/-! ## Readers -/

/-- What the reader takes from a payload with finite numbers has a property. -/
def ReadsFinite {α : Type} (read : Payload → Checked α) (P : α → Prop) : Prop :=
  ∀ p a, p.allFinite = true → read p = .valid a → P a

variable {α : Type} {read : Payload → Checked α} {P : α → Prop} {r : Entries Payload} {key : Key}

theorem allFinite_of_find? (finite : Payload.allFiniteFields r = true) :
    ∀ found ∈ find? r key, found.2.allFinite = true := by
  intro found there
  have present : ∃ name, Entries.get? r name = some found.2 := by
    rw [find?] at there
    split at there
    · rename_i first
      cases there
      exact ⟨_, first⟩
    · obtain ⟨p, second, rfl⟩ := Option.map_eq_some_iff.1 there
      exact ⟨_, second⟩
  obtain ⟨name, present⟩ := present
  exact Payload.allFiniteFields_iff.1 finite (name, found.2) (Entries.mem_of_get? present)

section Fields

variable (reads : ReadsFinite read P) (finite : ∀ found ∈ find? r key, found.2.allFinite = true)

include reads finite

theorem ReadsFinite.mandatory {a : α} (h : Schema.mandatory r key read = .valid a) : P a := by
  obtain ⟨name, p, found, hread⟩ := mandatory_eq_valid_iff.1 h
  exact reads p a (finite _ found) hread

theorem ReadsFinite.optional {default a : α} (holds : P default)
    (h : Schema.optional r key default read = .valid a) : P a := by
  rcases optional_eq_valid_iff.1 h with ⟨-, rfl⟩ | ⟨name, p, found, hread⟩
  · exact holds
  · exact reads p a (finite _ found) hread

theorem ReadsFinite.nullable {a? : Option α} (h : Schema.nullable r key read = .valid a?) :
    ∀ a ∈ a?, P a := by
  rintro a rfl
  rcases nullable_eq_valid_iff.1 h with ⟨-, absent⟩ | ⟨name, p, found, hread⟩
  · cases absent
  · rcases readNullable_eq_valid_iff.1 hread with ⟨-, absent⟩ | ⟨-, b, accepted, same⟩
    · cases absent
    · cases same
      exact reads p a (finite _ found) accepted

end Fields

theorem ReadsFinite.list (reads : ReadsFinite read P) :
    ReadsFinite (readList read) fun as => ∀ a ∈ as, P a := by
  intro p as finite h a ha
  obtain ⟨items, rfl, accepted⟩ := readList_eq_valid_iff.1 h
  obtain ⟨source, there, hread⟩ := exists_of_forall₂ accepted ha
  exact reads source a (Payload.allFiniteItems_iff.1 finite source there) hread

theorem ReadsFinite.table (reads : ReadsFinite read P) :
    ReadsFinite (readTable read) fun t => ∀ entry ∈ t, P entry.2 := by
  intro p t finite h entry there
  obtain ⟨fields, rfl, items, accepted, rfl⟩ := readTable_eq_valid_iff.1 h
  have item := (Entries.mem_putAll there).resolve_left List.not_mem_nil
  obtain ⟨field, hfield, hread, -⟩ := exists_of_forall₂ accepted item
  exact reads field.2 entry.2 (Payload.allFiniteFields_iff.1 finite field hfield) hread

theorem readsFinite_readScalar :
    ReadsFinite readScalar fun s => s.toPayload.allFinite = true := by
  intro p s finite h
  cases p with
  | null | list items | record fields => cases h
  | boolean value | integer value | text value | double value =>
    cases h
    exact finite

end Schema

/-! ## Strategies and configurations -/

/-- The default value is finite, if there is one. -/
def InputField.IsFinite (f : InputField) : Prop :=
  ∀ value ∈ f.defaultValue, value.toPayload.allFinite = true

/-- The default values are finite. -/
def StrategyBody.IsFinite (b : StrategyBody) : Prop :=
  ∀ f ∈ b.inputFields, f.IsFinite

/-- The entered values are finite. -/
def ClientConfig.IsFinite (c : ClientConfig) : Prop :=
  ∀ entry ∈ c.inputValues, entry.2.toPayload.allFinite = true

instance (f : InputField) : Decidable f.IsFinite :=
  inferInstanceAs (Decidable (∀ value ∈ f.defaultValue, _))

instance (b : StrategyBody) : Decidable b.IsFinite :=
  inferInstanceAs (Decidable (∀ f ∈ b.inputFields, f.IsFinite))

instance (c : ClientConfig) : Decidable c.IsFinite :=
  inferInstanceAs (Decidable (∀ entry ∈ c.inputValues, _))

namespace InputField

theorem allFinite_writeAs_iff {spell : Key → String} {f : InputField} :
    (f.writeAs spell).allFinite = true ↔ f.IsFinite := by
  simp [writeAs, keyed, spelled, Payload.allFinite, Payload.allFiniteFields, IsFinite,
    ConditionalText.writeAs, ConditionalText.keyed]

theorem allFinite_writeAll_iff {spell : Key → String} {fields : List InputField} :
    (writeAll spell fields).allFinite = true ↔ ∀ f ∈ fields, f.IsFinite := by
  simp [writeAll, Payload.allFinite, Payload.allFiniteItems_iff, allFinite_writeAs_iff]

theorem readsFinite : ReadsFinite read IsFinite := by
  intro p f finite h
  obtain ⟨r, rfl, fields⟩ := read_eq_valid_iff.1 h
  exact readsFinite_readScalar.nullable (allFinite_of_find? finite) fields.defaultValue

end InputField

namespace StrategyBody

theorem allFinite_keyed_iff {spell : Key → String} {b : StrategyBody} :
    Payload.allFiniteFields (spelled spell (b.keyed spell)) = true ↔ b.IsFinite := by
  simp [keyed, spelled, Payload.allFinite, Payload.allFiniteFields, IsFinite,
    InputField.allFinite_writeAll_iff]

theorem ReadFrom.isFinite {r : Entries Payload} {b : StrategyBody} (h : ReadFrom r b)
    (finite : Payload.allFiniteFields r = true) : b.IsFinite :=
  InputField.readsFinite.list.optional (allFinite_of_find? finite)
    (fun _ there => absurd there List.not_mem_nil) h.inputFields

end StrategyBody

theorem Strategy.allFinite_write_iff {s : Strategy} :
    s.write.allFinite = true ↔ s.toStrategyBody.IsFinite := by
  rw [← StrategyBody.allFinite_keyed_iff]
  rfl

namespace Draft

theorem allFinite_write_iff {d : Draft} :
    d.write.allFinite = true ↔ d.toStrategyBody.IsFinite := by
  rw [← @StrategyBody.allFinite_keyed_iff Key.wire]
  cases id : d.id <;> simp [write, recordAs, spelled, Payload.allFinite, Payload.allFiniteFields,
    Payload.ofOption, id]

theorem readsFinite : ReadsFinite read fun d => d.toStrategyBody.IsFinite := by
  intro p d finite h
  obtain ⟨r, rfl, -, fields⟩ := read_eq_valid_iff.1 h
  exact fields.isFinite finite

end Draft

/-- The new default values are finite. -/
def Revision.IsFinite (v : Revision) : Prop :=
  ∀ fields ∈ v.inputFields, ∀ f ∈ fields, f.IsFinite

namespace Revision

theorem allFinite_write_iff {v : Revision} : v.write.allFinite = true ↔ v.IsFinite := by
  simp [write, recordAs, keyed, spelled, Payload.allFinite, Payload.allFiniteFields, IsFinite,
    InputField.allFinite_writeAll_iff]

theorem readsFinite : ReadsFinite read IsFinite := by
  intro p v finite h
  obtain ⟨r, rfl, fields⟩ := read_eq_valid_iff.1 h
  exact InputField.readsFinite.list.nullable (allFinite_of_find? finite) fields.inputFields

theorem IsFinite.apply {v : Revision} (h : v.IsFinite) {s : Strategy}
    (finite : s.toStrategyBody.IsFinite) : (v.apply s).toStrategyBody.IsFinite := by
  intro f there
  rw [Revision.apply] at there
  cases changed : v.inputFields with
  | none =>
    rw [changed] at there
    exact finite f there
  | some fields =>
    rw [changed] at there
    exact h fields changed f there

end Revision

namespace ClientConfig

theorem allFinite_write_iff {c : ClientConfig} : c.write.allFinite = true ↔ c.IsFinite := by
  simp [write, Payload.allFinite, Payload.allFiniteFields, Payload.allFiniteFields_mapValues_iff,
    IsFinite]

theorem readsFinite : ReadsFinite read IsFinite := by
  intro p c finite h
  obtain ⟨r, rfl, fields⟩ := read_eq_valid_iff.1 h
  exact readsFinite_readScalar.table.optional (allFinite_of_find? finite)
    (fun _ there => absurd there List.not_mem_nil) fields.inputValues

end ClientConfig

end PlanCompiler
