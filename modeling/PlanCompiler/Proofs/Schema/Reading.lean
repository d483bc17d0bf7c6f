import Mathlib.Data.List.Forall2
import PlanCompiler.Proofs.Entries
import PlanCompiler.Schema.Record

/-!
# When a payload is accepted

For every way of putting checks together, when its outcome is a value:

* `Checked.andThen_eq_valid_iff`, `Checked.ensure_eq_valid_iff`, `Checked.all_eq_valid_iff`;
* `mandatory_eq_valid_iff`, `optional_eq_valid_iff`, `nullable_eq_valid_iff`: fields of a record;
* `readList_eq_valid_iff`, `readNonEmpty_eq_valid_iff`, `readIdentifier_eq_valid_iff`: values.

Proofs about schemas go through these and do not open the readers.
-/

namespace PlanCompiler.Schema

universe u v

namespace Checked

variable {α : Type u} {β : Type v}

@[simp] theorem valid_inj {a b : α} : (Checked.valid a = .valid b) ↔ a = b :=
  ⟨fun h => Checked.valid.inj h, fun h => h ▸ rfl⟩

theorem andThen_eq_valid_iff {x : Checked α} {f : α → Checked β} {b : β} :
    andThen x f = .valid b ↔ ∃ a, x = .valid a ∧ f a = .valid b := by
  cases x <;> simp [andThen]

@[simp] theorem under_eq_valid_iff {step : Step} {x : Checked α} {a : α} :
    under step x = .valid a ↔ x = .valid a := by
  cases x <;> simp [under]

theorem ensure_eq_valid_iff {x : Checked α} {holds : α → Bool} {fault : Fault} {p : Payload}
    {a : α} : ensure x holds fault p = .valid a ↔ x = .valid a ∧ holds a = true := by
  rw [ensure, andThen_eq_valid_iff]
  constructor
  · rintro ⟨b, rfl, h⟩
    split at h
    · obtain rfl := valid_inj.1 h
      exact ⟨rfl, ‹_›⟩
    · cases h
  · rintro ⟨rfl, h⟩
    exact ⟨a, rfl, if_pos h⟩

theorem all_eq_valid_iff {xs : List (Checked α)} {as : List α} :
    all xs = .valid as ↔ List.Forall₂ (fun x a => x = .valid a) xs as := by
  induction xs generalizing as with
  | nil => cases as <;> simp [all]
  | cons x rest ih =>
    rw [all, seq_eq_valid_iff, List.forall₂_cons_left_iff]
    simp only [map_eq_valid_iff, ih]
    constructor
    · rintro ⟨_, bs, ⟨a, rfl, rfl⟩, hbs, rfl⟩
      exact ⟨a, bs, rfl, hbs, rfl⟩
    · rintro ⟨a, bs, rfl, hbs, rfl⟩
      exact ⟨_, bs, ⟨a, rfl, rfl⟩, hbs, rfl⟩

@[simp] theorem named_eq_ok_iff {model : String} {x : Checked α} {a : α} :
    x.named model = .ok a ↔ x = .valid a := by
  cases x <;> simp [named]

end Checked

open Checked

variable {α : Type} {r : Entries Payload} {key : Key} {read : Payload → Checked α}

/-! ## Fields -/

theorem mandatory_eq_valid_iff {a : α} :
    mandatory r key read = .valid a ↔
      ∃ name p, find? r key = some (name, p) ∧ read p = .valid a := by
  rw [mandatory]
  split <;> simp_all

theorem optional_eq_valid_iff {default a : α} :
    optional r key default read = .valid a ↔
      (find? r key = none ∧ default = a) ∨
        ∃ name p, find? r key = some (name, p) ∧ read p = .valid a := by
  rw [optional]
  split <;> simp_all

theorem readNullable_eq_valid_iff {p : Payload} {a? : Option α} :
    readNullable read p = .valid a? ↔
      (p = .null ∧ a? = none) ∨ (p ≠ .null ∧ ∃ a, read p = .valid a ∧ a? = some a) := by
  cases p <;> simp [readNullable, map_eq_valid_iff, eq_comm]

theorem nullable_eq_valid_iff {a? : Option α} :
    nullable r key read = .valid a? ↔
      (find? r key = none ∧ a? = none) ∨
        ∃ name p, find? r key = some (name, p) ∧ readNullable read p = .valid a? := by
  rw [nullable, optional_eq_valid_iff]
  simp only [eq_comm]

theorem readRecord_eq_valid_iff {p : Payload} : readRecord p = .valid r ↔ p = .record r := by
  cases p <;> simp [readRecord, fail]

/-! ## Values -/

theorem readText_eq_valid_iff {p : Payload} {s : String} : readText p = .valid s ↔ p = .text s := by
  cases p <;> simp [readText, fail]

theorem readNonEmpty_eq_valid_iff {p : Payload} {s : String} :
    readNonEmpty p = .valid s ↔ p = .text s ∧ Text.isWhole s.toList = true ∧ s.isEmpty = false := by
  rw [readNonEmpty, ensure_eq_valid_iff, readWholeText, ensure_eq_valid_iff, readText_eq_valid_iff]
  simp [and_assoc]

theorem readIdentifier_eq_valid_iff {p : Payload} {s : String} :
    readIdentifier p = .valid s ↔
      p = .text s ∧ Text.isWhole s.toList = true ∧ Text.isIdentifier s.toList = true := by
  rw [readIdentifier, ensure_eq_valid_iff, readWholeText, ensure_eq_valid_iff,
    readText_eq_valid_iff]
  simp [and_assoc]

theorem forall₂_zipIdx {R : Payload → α → Prop} {items : List Payload} {as : List α} (start : Nat) :
    List.Forall₂ (fun c a => R c.1 a) (items.zipIdx start) as ↔ List.Forall₂ R items as := by
  induction items generalizing as start with
  | nil => simp
  | cons p rest ih => simp only [List.zipIdx_cons, List.forall₂_cons_left_iff, ih]

/-- A list is accepted when every item is. -/
theorem readList_eq_valid_iff {p : Payload} {as : List α} :
    readList read p = .valid as ↔
      ∃ items, p = .list items ∧ List.Forall₂ (fun p a => read p = .valid a) items as := by
  cases p with
  | list items =>
    rw [readList, all_eq_valid_iff, List.forall₂_map_left_iff]
    simp only [under_eq_valid_iff]
    rw [forall₂_zipIdx (R := fun p a => read p = .valid a)]
    simp
  | _ => simp [readList, fail]

/-- Everything in the second list is related to something in the first. -/
theorem exists_of_forall₂ {β γ : Type} {R : β → γ → Prop} {bs : List β} {cs : List γ}
    (h : List.Forall₂ R bs cs) {c : γ} (hc : c ∈ cs) : ∃ b ∈ bs, R b c := by
  induction h with
  | nil => cases hc
  | cons related _ ih =>
    rcases List.mem_cons.1 hc with rfl | later
    · exact ⟨_, List.mem_cons_self, related⟩
    · obtain ⟨b, hb, hbc⟩ := ih later
      exact ⟨b, List.mem_cons_of_mem _ hb, hbc⟩

/-- What holds of everything that is accepted holds of every item of an accepted list. -/
theorem forall_mem_of_readList {P : α → Prop} (item : ∀ p a, read p = .valid a → P a) {p : Payload}
    {as : List α} (h : readList read p = .valid as) : ∀ a ∈ as, P a := by
  obtain ⟨items, -, accepted⟩ := readList_eq_valid_iff.1 h
  intro a ha
  obtain ⟨source, -, hread⟩ := exists_of_forall₂ accepted ha
  exact item source a hread

@[simp] theorem readScalar_toPayload (s : Scalar) : readScalar s.toPayload = .valid s := by
  rw [readScalar, Payload.toScalar?_toPayload]

end PlanCompiler.Schema
