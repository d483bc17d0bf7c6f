import PlanCompiler.Proofs.Catalog.FreshId

/-!
# Drawing an id

A generated id is drawn: serial numbers are taken one after another, an id is made from each of
them, and the first one that is not taken is the id. Nothing gets smaller from one draw to the next.
What ends the loop is that every draw that fails needs a strategy of its own, so that a catalog with
room is done after one draw more than it has strategies.

* `Draws`: the loop, one draw at a time;
* `Draws.unique`: it has one course;
* `exists_draws_iff`: it ends exactly if there is a free id to be drawn;
* `exists_draws_le`: then it ends after few draws, with the number that the catalog finds.
-/

namespace PlanCompiler.Catalog

/-- From the number `serial` on, `draws` numbers are drawn, the last of them `last`: the ids made
from those before are taken, and the id made from `last` is free. -/
inductive Draws (c : Catalog) (origin title : String) : (serial draws last : Nat) → Prop
  | free {serial : Nat} (h : c.contains (generatedId origin title serial) = false) :
    Draws c origin title serial 1 serial
  | taken {serial draws last : Nat} (h : c.contains (generatedId origin title serial) = true)
    (later : Draws c origin title (serial + 1) draws last) :
    Draws c origin title serial (draws + 1) last

variable {c : Catalog} {origin title : String} {serial draws last : Nat}

theorem contains_eq_false_iff {id : String} : c.contains id = false ↔ id ∉ c.ids := by
  rw [← Bool.not_eq_true, contains, Entries.contains_iff_mem_keys]
  rfl

/-- The loop stops at a free id. -/
theorem Draws.free_last (h : c.Draws origin title serial draws last) :
    generatedId origin title last ∉ c.ids := by
  induction h with
  | free free => exact contains_eq_false_iff.1 free
  | taken _ _ ih => exact ih

theorem Draws.last_eq (h : c.Draws origin title serial draws last) :
    serial + draws = last + 1 := by
  induction h with
  | free _ => rfl
  | taken _ _ ih => omega

/-- Which number is drawn last is settled by the number that is drawn first. -/
theorem Draws.unique {draws' last' : Nat} (h : c.Draws origin title serial draws last)
    (h' : c.Draws origin title serial draws' last') : draws = draws' ∧ last = last' := by
  induction h generalizing draws' with
  | free free =>
    cases h' with
    | free _ => exact ⟨rfl, rfl⟩
    | taken taken _ => exact absurd (free.symm.trans taken) Bool.noConfusion
  | taken taken _ ih =>
    cases h' with
    | free free => exact absurd (free.symm.trans taken) Bool.noConfusion
    | taken _ later =>
      obtain ⟨rfl, rfl⟩ := ih later
      exact ⟨rfl, rfl⟩

/-- The loop goes through consecutive numbers up to the first one whose id is free. -/
theorem exists_draws_of_find? {count : Nat}
    (h : ((List.range' serial count).find? fun n => !c.contains (generatedId origin title n)) =
      some last) : ∃ draws ≤ count, c.Draws origin title serial draws last := by
  induction count generalizing serial with
  | zero => cases h
  | succ count ih =>
    rw [List.range'_succ, List.find?_cons] at h
    split at h
    · rename_i free
      obtain ⟨rfl⟩ := h
      exact ⟨1, by omega, .free (Bool.not_eq_true' _ ▸ free)⟩
    · rename_i taken
      obtain ⟨draws, bound, later⟩ := ih h
      exact ⟨draws + 1, by omega, .taken (Bool.not_eq_false' _ ▸ taken) later⟩

theorem serials_eq (c : Catalog) (serial : Nat) :
    c.serials serial = List.range' serial (c.size + 1) :=
  List.range'_eq_map_range.symm

/-- Where the search for an id ends, it ends after one draw more than there are strategies, or
earlier, with the number that the catalog finds. -/
theorem HasFreeId.exists_draws_le (h : c.HasFreeId origin title) (serial : Nat) :
    ∃ draws ≤ c.size + 1,
      c.Draws origin title serial draws (c.freshSerial origin title serial) := by
  obtain ⟨n, tried, free⟩ := h.exists_tried_free serial
  refine exists_draws_of_find? ?_
  rw [← serials_eq, freshSerial]
  cases found : (c.serials serial).find? fun n => !c.contains (generatedId origin title n) with
  | none =>
    have := List.find?_eq_none.1 found n tried
    simp [free] at this
  | some m => rfl

/-- The loop ends exactly if there is a free id to be drawn; otherwise it goes on for good. -/
theorem exists_draws_iff :
    (∃ draws last, c.Draws origin title serial draws last) ↔ c.HasFreeId origin title := by
  constructor
  · rintro ⟨draws, last, h⟩
    exact ⟨last, contains_eq_false_iff.2 h.free_last⟩
  · intro h
    obtain ⟨draws, -, drawn⟩ := h.exists_draws_le serial
    exact ⟨draws, _, drawn⟩

/-- In a catalog with room the loop ends, whatever ids the strategies have and wherever the numbers
stand. -/
theorem exists_draws_le (room : c.size < serialBound) (origin title : String) (serial : Nat) :
    ∃ draws ≤ c.size + 1,
      c.Draws origin title serial draws (c.freshSerial origin title serial) :=
  (hasFreeId_of_room room origin title).exists_draws_le serial

end PlanCompiler.Catalog
