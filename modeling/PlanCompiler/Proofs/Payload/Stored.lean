import PlanCompiler.Payload.Stored

/-!
# The stored form of payloads

A payload has a stored form unless it is nested too deeply or has a key with a lone surrogate, and
that form is its own stored form: null has taken the place of every number that JSON cannot carry,
and nothing else has changed.

* `finiteOrNull_finiteOrNull`, `isStorable_finiteOrNull`: what is true of a stored form;
* `stored_eq_ok_iff`, `storedFields_eq_ok_iff`: when there is one, and which;
* `storedFields_again`: the fields of a record, stored once more.
-/

namespace PlanCompiler.Payload

mutual

@[simp] theorem finiteOrNull_finiteOrNull : (p : Payload) →
    p.finiteOrNull.finiteOrNull = p.finiteOrNull
  | .double value => by
    by_cases finite : value.isFinite = true <;> simp [finiteOrNull, finite]
  | .list items => by simp only [finiteOrNull, finiteOrNullItems_finiteOrNullItems items]
  | .record fields => by simp only [finiteOrNull, finiteOrNullFields_finiteOrNullFields fields]
  | .null | .boolean _ | .integer _ | .text _ => rfl

theorem finiteOrNullItems_finiteOrNullItems : (items : List Payload) →
    finiteOrNullItems (finiteOrNullItems items) = finiteOrNullItems items
  | [] => rfl
  | item :: rest => by
    simp only [finiteOrNullItems, finiteOrNull_finiteOrNull item,
      finiteOrNullItems_finiteOrNullItems rest]

theorem finiteOrNullFields_finiteOrNullFields : (fields : List (String × Payload)) →
    finiteOrNullFields (finiteOrNullFields fields) = finiteOrNullFields fields
  | [] => rfl
  | (key, value) :: rest => by
    simp only [finiteOrNullFields, finiteOrNull_finiteOrNull value,
      finiteOrNullFields_finiteOrNullFields rest]

end

mutual

@[simp] theorem height_finiteOrNull : (p : Payload) → p.finiteOrNull.height = p.height
  | .double value => by
    by_cases finite : value.isFinite = true <;> simp [finiteOrNull, finite, height]
  | .list items => by simp only [finiteOrNull, height, heightItems_finiteOrNullItems items]
  | .record fields => by simp only [finiteOrNull, height, heightFields_finiteOrNullFields fields]
  | .null | .boolean _ | .integer _ | .text _ => rfl

theorem heightItems_finiteOrNullItems : (items : List Payload) →
    heightItems (finiteOrNullItems items) = heightItems items
  | [] => rfl
  | item :: rest => by
    simp only [finiteOrNullItems, heightItems, height_finiteOrNull item,
      heightItems_finiteOrNullItems rest]

theorem heightFields_finiteOrNullFields : (fields : List (String × Payload)) →
    heightFields (finiteOrNullFields fields) = heightFields fields
  | [] => rfl
  | (key, value) :: rest => by
    simp only [finiteOrNullFields, heightFields, height_finiteOrNull value,
      heightFields_finiteOrNullFields rest]

end

mutual

@[simp] theorem hasWholeKeys_finiteOrNull : (p : Payload) →
    p.finiteOrNull.hasWholeKeys = p.hasWholeKeys
  | .double value => by
    by_cases finite : value.isFinite = true <;> simp [finiteOrNull, finite, hasWholeKeys]
  | .list items => by
    simp only [finiteOrNull, hasWholeKeys, hasWholeKeysItems_finiteOrNullItems items]
  | .record fields => by
    simp only [finiteOrNull, hasWholeKeys, hasWholeKeysFields_finiteOrNullFields fields]
  | .null | .boolean _ | .integer _ | .text _ => rfl

theorem hasWholeKeysItems_finiteOrNullItems : (items : List Payload) →
    hasWholeKeysItems (finiteOrNullItems items) = hasWholeKeysItems items
  | [] => rfl
  | item :: rest => by
    simp only [finiteOrNullItems, hasWholeKeysItems, hasWholeKeys_finiteOrNull item,
      hasWholeKeysItems_finiteOrNullItems rest]

theorem hasWholeKeysFields_finiteOrNullFields : (fields : List (String × Payload)) →
    hasWholeKeysFields (finiteOrNullFields fields) = hasWholeKeysFields fields
  | [] => rfl
  | (key, value) :: rest => by
    simp only [finiteOrNullFields, hasWholeKeysFields, hasWholeKeys_finiteOrNull value,
      hasWholeKeysFields_finiteOrNullFields rest]

end

/-! ## When there is a stored form -/

/-- The payload is not nested too deeply, and no key in it holds a lone surrogate. -/
def IsStorable (p : Payload) : Prop :=
  p.height ≤ heightLimit ∧ p.hasWholeKeys = true

theorem isStorable_finiteOrNull {p : Payload} : p.finiteOrNull.IsStorable ↔ p.IsStorable := by
  rw [IsStorable, IsStorable, height_finiteOrNull, hasWholeKeys_finiteOrNull]

theorem stored_eq_ok_iff {p q : Payload} :
    stored p = .ok q ↔ p.IsStorable ∧ q = p.finiteOrNull := by
  rw [stored, IsStorable]
  by_cases deep : heightLimit < p.height
  · rw [if_pos deep]
    exact ⟨nofun, fun h => absurd h.1.1 (Nat.not_le.2 deep)⟩
  · rw [if_neg deep]
    cases whole : p.hasWholeKeys with
    | false => exact ⟨nofun, fun h => nomatch h.1.2⟩
    | true =>
      refine ⟨fun h => ⟨⟨Nat.not_lt.1 deep, rfl⟩, ?_⟩, fun h => congrArg Except.ok h.2.symm⟩
      cases h
      rfl

theorem storedFields_eq_ok_iff {fields written : Entries Payload} :
    storedFields fields = .ok written ↔
      (∀ entry ∈ fields, entry.2.IsStorable) ∧ written = Entries.mapValues finiteOrNull fields := by
  induction fields generalizing written with
  | nil => exact ⟨fun h => ⟨nofun, (Except.ok.inj h).symm⟩, fun h => congrArg Except.ok h.2.symm⟩
  | cons entry rest ih =>
    obtain ⟨key, value⟩ := entry
    rw [List.forall_mem_cons]
    cases first : stored value with
    | error fault =>
      have unwritten : storedFields ((key, value) :: rest) = .error fault := by
        rw [storedFields, first]
        rfl
      have refused : ¬ value.IsStorable := fun storable => by
        rw [stored_eq_ok_iff.2 ⟨storable, rfl⟩] at first
        cases first
      rw [unwritten]
      exact ⟨nofun, fun h => absurd h.1.1 refused⟩
    | ok p =>
      obtain ⟨storable, rfl⟩ := stored_eq_ok_iff.1 first
      have later : storedFields ((key, value) :: rest) =
          (storedFields rest).map ((key, value.finiteOrNull) :: ·) := by
        rw [storedFields, first]
        rfl
      rw [later]
      cases others : storedFields rest with
      | error fault =>
        refine ⟨nofun, fun h => ?_⟩
        rw [ih.2 ⟨h.1.2, rfl⟩] at others
        cases others
      | ok t =>
        obtain ⟨all, rfl⟩ := ih.1 others
        exact ⟨fun h => ⟨⟨storable, all⟩, (Except.ok.inj h).symm⟩,
          fun h => congrArg Except.ok h.2.symm⟩

theorem storedFields_again {fields written : Entries Payload}
    (h : storedFields fields = .ok written) : storedFields written = .ok written := by
  obtain ⟨storable, rfl⟩ := storedFields_eq_ok_iff.1 h
  refine storedFields_eq_ok_iff.2 ⟨fun entry hentry => ?_, ?_⟩
  · obtain ⟨source, hsource, rfl⟩ := List.mem_map.1 hentry
    exact isStorable_finiteOrNull.2 (storable source hsource)
  · simp [Entries.mapValues]

end PlanCompiler.Payload
