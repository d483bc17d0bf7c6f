import PlanCompiler.Proofs.Service.Generation

/-!
# The archive

A report that is saved goes to the end of the archive under an id of its own, so ids stay distinct,
and every report is found under its id. While the clock goes forward from report to report, the
newest reports are the last ones.

* `save_appends`, `parts_of_save`: what a save adds to the archive;
* `select_of_mem`, `select_of_unknown`: what is found under an id;
* `newest_of_ticking`, `list_of_ticking`: the reports from the newest on.
-/

namespace PlanCompiler.Archive

variable {a a' : Archive} {row : ReportRow} {r : StoredReport}

/-- A saved report goes to the end, under an id that was free. -/
theorem save_appends (h : a.save row = .ok (r, a')) :
    a' = { a with reports := a.reports ++ [r] } ∧ ∀ other ∈ a.reports, other.id ≠ r.id := by
  cases hkept : kept row with
  | ok r₀ =>
    obtain ⟨⟨-, -, free⟩, rfl, same⟩ := (save_eq_ok_iff hkept).1 h
    exact ⟨same.symm, free⟩
  | error fault =>
    rw [save, hkept] at h
    split at h <;> cases h

/-- The data and the configurations are kept as they are. -/
theorem parts_of_save (h : a.save row = .ok (r, a')) :
    r.clientData = row.clientData ∧ r.configurations = row.configurations := by
  cases hkept : kept row with
  | ok r₀ =>
    obtain ⟨-, rfl, -⟩ := (save_eq_ok_iff hkept).1 h
    simp only [kept, bind, Except.bind] at hkept
    split at hkept
    · cases hkept
    · split at hkept
      · cases hkept
      · split at hkept
        · cases hkept
        · cases hkept
          exact ⟨rfl, rfl⟩
  | error fault =>
    rw [save, hkept] at h
    split at h <;> cases h

/-- The ids of the reports are distinct. -/
def HasDistinctIds (a : Archive) : Prop :=
  (a.reports.map (·.id)).Nodup

theorem hasDistinctIds_append (h : a.HasDistinctIds)
    (free : ∀ other ∈ a.reports, other.id ≠ r.id) :
    { a with reports := a.reports ++ [r] }.HasDistinctIds := by
  have apart : (a.reports.map (·.id)).Disjoint [r.id] := by
    rw [List.disjoint_singleton]
    intro taken
    obtain ⟨other, there, same⟩ := List.mem_map.1 taken
    exact free other there same
  rw [HasDistinctIds, List.map_append]
  exact List.Nodup.append h (List.nodup_singleton _) apart

/-- Every report is found under its id. -/
theorem select_of_mem (distinct : a.HasDistinctIds) (opened : a.interruption = none)
    (there : r ∈ a.reports) : a.select (.text r.id) = .ok (some r) := by
  have found : a.find? r.id = some r := by
    obtain ⟨before, after, split⟩ := List.append_of_mem there
    have others : ∀ other ∈ before, other.id ≠ r.id := by
      rw [HasDistinctIds, split, List.map_append] at distinct
      intro other earlier same
      exact (List.nodup_append.1 distinct).2.2 other.id (List.mem_map_of_mem earlier) r.id
        (List.mem_map_of_mem List.mem_cons_self) same
    rw [find?, split, List.find?_append, List.find?_eq_none.2 (by simpa using others)]
    simp
  rw [select, checkOpen, opened]
  exact congrArg Except.ok found

/-- Nothing is found under an id that no report has. -/
theorem select_of_unknown {id : String} (opened : a.interruption = none)
    (unknown : ∀ r ∈ a.reports, r.id ≠ id) : a.select (.text id) = .ok none := by
  have missing : a.find? id = none := List.find?_eq_none.2 (by simpa using unknown)
  rw [select, checkOpen, opened]
  exact congrArg Except.ok missing

/-- The clock has gone forward from each report to those after it. -/
def Ticking (reports : List StoredReport) : Prop :=
  reports.Pairwise fun r s => r.createdAt.micros < s.createdAt.micros

theorem newest_of_ticking (h : Ticking a.reports) : a.newest = a.reports.reverse := by
  refine List.mergeSort_of_pairwise ?_
  rw [List.pairwise_reverse]
  refine h.imp fun {r s} later => ?_
  simpa using Nat.le_of_lt later

theorem list_of_ticking (h : Ticking a.reports) (n : Nat) :
    a.list (some n) = a.reports.reverse.take n := by
  rw [list, newest_of_ticking h]

end PlanCompiler.Archive
