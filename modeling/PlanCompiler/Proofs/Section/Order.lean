import PlanCompiler.Proofs.Entries
import PlanCompiler.Section

/-!
# The order of sections

`ordered` takes the keys of a list, each once, and puts them into the order of the report. What that
order is can be said of two sections at a time (`Precedes`): a section with a fixed place comes
before all others, and among them the place counts; an unknown one comes before those that come up
later, and before the last one.

* `mem_ordered_iff`, `pairwise_ordered`: what `ordered` contains, and in which order;
* `pair_sublist_ordered`: two sections that are not unknown keep their order when more come up.
-/

namespace PlanCompiler.Section

/-- One section comes before another in a report on these keys. -/
inductive Precedes (keys : List String) (a b : String) : Prop
  | fixed (here : a ∈ canonical) (there : b ∈ canonical)
    (earlier : canonical.idxOf a < canonical.idxOf b)
  | fixedFirst (here : a ∈ canonical) (there : b ∉ canonical)
  | unknown (here : isUnknown a = true) (there : isUnknown b = true)
    (earlier : keys.idxOf a < keys.idxOf b)
  | uncategorizedLast (here : isUnknown a = true) (there : b = uncategorized)

theorem isUnknown_iff {key : String} :
    isUnknown key = true ↔ key ∉ canonical ∧ key ≠ uncategorized := by
  simp [isUnknown]

/-- No section comes before itself. -/
theorem Precedes.ne {keys : List String} {a b : String} (h : Precedes keys a b) : a ≠ b := by
  rintro rfl
  cases h with
  | fixed _ _ earlier => exact Nat.lt_irrefl _ earlier
  | fixedFirst here there => exact there here
  | unknown _ _ earlier => exact Nat.lt_irrefl _ earlier
  | uncategorizedLast here there => exact (isUnknown_iff.1 here).2 there

/-- The last section is put last where it comes up. -/
theorem mem_last_iff {keys : List String} {key : String} :
    key ∈ (if keys.contains uncategorized then [uncategorized] else []) ↔
      key = uncategorized ∧ key ∈ keys := by
  by_cases there : uncategorized ∈ keys
  · simp only [List.contains_iff_mem, there, if_true, List.mem_singleton]
    exact ⟨fun h => ⟨h, h ▸ there⟩, And.left⟩
  · simp only [List.contains_iff_mem, there, if_false, List.not_mem_nil, false_iff]
    exact fun h => there (h.1 ▸ h.2)

theorem mem_ordered_iff {keys : List String} {key : String} : key ∈ ordered keys ↔ key ∈ keys := by
  rw [ordered, List.mem_append, List.mem_append, List.mem_filter, List.mem_filter, mem_last_iff,
    List.contains_iff_mem, List.mem_eraseDups, isUnknown_iff]
  tauto

theorem pairwise_canonical : canonical.Pairwise fun a b =>
    canonical.idxOf a < canonical.idxOf b := by
  decide

/-- The sections of a list come in the order of the report. -/
theorem pairwise_ordered (keys : List String) : (ordered keys).Pairwise (Precedes keys) := by
  have fixed : (canonical.filter keys.contains).Pairwise (Precedes keys) := by
    refine List.Pairwise.sublist List.filter_sublist ?_
    exact pairwise_canonical.imp_of_mem fun ha hb earlier => .fixed ha hb earlier
  have unknown : (keys.eraseDups.filter isUnknown).Pairwise (Precedes keys) := by
    have inOrder := (Entries.pairwise_idxOf_eraseDups keys).sublist
      (List.filter_sublist (p := isUnknown))
    exact inOrder.imp_of_mem fun ha hb earlier =>
      .unknown (List.mem_filter.1 ha).2 (List.mem_filter.1 hb).2 earlier
  have last : (if keys.contains uncategorized then [uncategorized] else []).Pairwise
      (Precedes keys) := by
    split
    · exact List.pairwise_singleton _ _
    · exact List.Pairwise.nil
  rw [ordered, List.pairwise_append, List.pairwise_append]
  refine ⟨⟨fixed, unknown, fun a ha b hb => ?_⟩, last, fun a ha b hb => ?_⟩
  · exact .fixedFirst (List.mem_filter.1 ha).1 (isUnknown_iff.1 (List.mem_filter.1 hb).2).1
  · rw [(mem_last_iff.1 hb).1]
    rcases List.mem_append.1 ha with here | here
    · exact .fixedFirst (List.mem_filter.1 here).1 (by decide)
    · exact .uncategorizedLast (List.mem_filter.1 here).2 rfl

theorem nodup_ordered (keys : List String) : (ordered keys).Nodup :=
  (pairwise_ordered keys).imp Precedes.ne

/-- The sections that are not unknown stand as in the list of all of them. -/
theorem filter_known_ordered (keys : List String) :
    (ordered keys).filter (fun key => !isUnknown key) =
      (canonical ++ [uncategorized]).filter keys.contains := by
  have fixed : (canonical.filter keys.contains).filter (fun key => !isUnknown key) =
      canonical.filter keys.contains := by
    refine List.filter_eq_self.2 fun key hkey => ?_
    have here : key ∈ canonical := (List.mem_filter.1 hkey).1
    simp [isUnknown, here]
  have unknown : (keys.eraseDups.filter isUnknown).filter (fun key => !isUnknown key) = [] := by
    refine List.filter_eq_nil_iff.2 fun key hkey => ?_
    simp [(List.mem_filter.1 hkey).2]
  have last : (if keys.contains uncategorized then [uncategorized] else []).filter
      (fun key => !isUnknown key) = [uncategorized].filter keys.contains := by
    by_cases there : uncategorized ∈ keys <;> simp [there, isUnknown]
  rw [ordered, List.filter_append, List.filter_append, fixed, unknown, last, List.append_nil,
    List.filter_append]

/-- Sections that are not unknown come one after the other wherever both come up. -/
theorem pair_sublist_ordered {keys keys' : List String} (sub : keys ⊆ keys') {a b : String}
    (ha : isUnknown a = false) (hb : isUnknown b = false) (h : [a, b].Sublist (ordered keys)) :
    [a, b].Sublist (ordered keys') := by
  have pair : [a, b].filter (fun key => !isUnknown key) = [a, b] := by simp [ha, hb]
  have contained : ∀ key, keys.contains key = true → keys'.contains key = true := by
    intro key here
    rw [List.contains_iff_mem] at here ⊢
    exact sub here
  calc
    [a, b] = [a, b].filter (fun key => !isUnknown key) := pair.symm
    List.Sublist _ ((ordered keys).filter fun key => !isUnknown key) := h.filter _
    _ = (canonical ++ [uncategorized]).filter keys.contains := filter_known_ordered keys
    List.Sublist _ ((canonical ++ [uncategorized]).filter keys'.contains) :=
      List.monotone_filter_right _ contained
    _ = (ordered keys').filter fun key => !isUnknown key := (filter_known_ordered keys').symm
    List.Sublist _ (ordered keys') := List.filter_sublist

end PlanCompiler.Section
