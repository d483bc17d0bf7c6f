import Mathlib.Data.List.Forall2

/-!
# Steps that may be refused

When a chain of steps comes to its end, for each way of putting steps together: one after another
(`bind_eq_ok_iff`), behind a check (`check_eq_ok_iff`, `guard_eq_ok_iff`), one for each item of a
list (`forM_eq_ok_iff`), or one for each item with what the items before have led to
(`foldlM_induction`).
-/

namespace PlanCompiler.Except

variable {ε δ α β : Type} {x : Except ε α} {a : α}

theorem bind_eq_ok_iff {f : α → Except ε β} {b : β} :
    x >>= f = .ok b ↔ ∃ a, x = .ok a ∧ f a = .ok b := by
  cases x <;> simp [bind, Except.bind]

theorem map_eq_ok_iff {f : α → β} {b : β} : x.map f = .ok b ↔ ∃ a, x = .ok a ∧ f a = b := by
  cases x <;> simp [Except.map]

theorem functor_map_eq_ok_iff {f : α → β} {b : β} :
    f <$> x = .ok b ↔ ∃ a, x = .ok a ∧ f a = b :=
  map_eq_ok_iff

theorem mapError_eq_ok_iff {f : ε → δ} : x.mapError f = .ok a ↔ x = .ok a := by
  cases x <;> simp [Except.mapError]

theorem pure_eq_ok_iff {b : α} : (pure a : Except ε α) = .ok b ↔ a = b :=
  Except.ok.injEq a b ▸ Iff.rfl

/-- What a check lets through. -/
theorem check_eq_ok_iff {refused : Prop} [Decidable refused] {e : ε} :
    (if refused then .error e else x) = .ok a ↔ ¬ refused ∧ x = .ok a := by
  split <;> simp [*]

/-- The steps behind a check. -/
theorem guard_eq_ok_iff {refused : Prop} [Decidable refused] {e : ε} {next : α → Except ε β}
    {other : Except ε β} {b : β} :
    (if refused then throw e >>= next else other) = .ok b ↔ ¬ refused ∧ other = .ok b := by
  split <;> simp [*, bind, Except.bind, throw, throwThe, MonadExceptOf.throw]

theorem forM_eq_ok_iff {f : α → Except ε Unit} {items : List α} :
    items.forM f = .ok () ↔ ∀ a ∈ items, f a = .ok () := by
  induction items with
  | nil => simp [pure, Except.pure]
  | cons a rest ih =>
    rw [List.forM, bind_eq_ok_iff, List.forall_mem_cons]
    constructor
    · rintro ⟨⟨⟩, first, later⟩
      exact ⟨first, ih.1 later⟩
    · rintro ⟨first, later⟩
      exact ⟨(), first, ih.2 later⟩

/-- What holds at first and is kept by every step holds at the end. -/
theorem foldlM_induction {P : β → Prop} {f : β → α → Except ε β} {items : List α} {first last : β}
    (h : items.foldlM f first = .ok last) (holds : P first)
    (step : ∀ b, P b → ∀ a ∈ items, ∀ b', f b a = .ok b' → P b') : P last := by
  induction items generalizing first with
  | nil =>
    cases h
    exact holds
  | cons a rest ih =>
    rw [List.foldlM_cons] at h
    obtain ⟨next, made, later⟩ := bind_eq_ok_iff.1 h
    refine ih later (step first holds a List.mem_cons_self next made) fun b hb a' ha' => ?_
    exact step b hb a' (List.mem_cons_of_mem _ ha')

end PlanCompiler.Except
