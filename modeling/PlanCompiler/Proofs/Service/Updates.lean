import PlanCompiler.Proofs.Service.Reachable
import PlanCompiler.Proofs.Strategy.Merging

/-!
# Updates

An accepted revision is never refused: the strategy with its changes takes the place of the one
before it, and nothing else changes but that the indices become stale (`run_update_of_found`). So
updates of one strategy come down to one (`revised_revised`), and updates of different strategies
commute (`revised_comm`). `Reachable.updates_merge` says this of the payloads as they are sent.
-/

namespace PlanCompiler

open Schema Revision

namespace Catalog

variable {c : Catalog} {id other : String} {s : Strategy} {r r₁ r₂ : Revision}

/-- The catalog with the changes of a revision in a strategy, if it is there. -/
def revised (c : Catalog) (id : String) (r : Revision) : Catalog :=
  match c.get? id with
  | none => c
  | some s => c.insert { r.apply s with id }

theorem revised_of_found (found : c.get? id = some s) (r : Revision) :
    c.revised id r = c.insert { r.apply s with id } := by
  rw [revised, found]

theorem revised_of_missing (missing : c.get? id = none) (r : Revision) : c.revised id r = c := by
  rw [revised, missing]

theorem get?_revised (c : Catalog) (id other : String) (r : Revision) :
    (c.revised id r).get? other =
      (c.get? other).map fun s => if id = other then { r.apply s with id } else s := by
  cases found : c.get? id with
  | none =>
    rw [revised_of_missing found]
    by_cases same : id = other
    · rw [← same, found, Option.map_none]
    · simp [same]
  | some s =>
    rw [revised_of_found found, get?, insert, stale, place, Entries.get?_put]
    by_cases same : id = other
    · subst same
      simp [found]
    · simp [same, get?]

/-- Revisions of one strategy come down to one that does what they do one after the other. -/
theorem revised_revised (h : ∀ s, r.apply s = r₂.apply (r₁.apply s)) (c : Catalog) (id : String) :
    (c.revised id r₁).revised id r₂ = c.revised id r := by
  cases found : c.get? id with
  | none => rw [revised_of_missing found, revised_of_missing found, revised_of_missing found]
  | some s =>
    have again : (c.revised id r₁).get? id = some { r₁.apply s with id } := by
      rw [get?_revised, found, Option.map_some, if_pos rfl]
    rw [revised_of_found again, revised_of_found found, revised_of_found found, h]
    simp only [insert, place, stale, Entries.put_put, apply]

theorem revised_comm (ne : id ≠ other) (c : Catalog) (r r' : Revision) :
    (c.revised id r).revised other r' = (c.revised other r').revised id r := by
  cases found : c.get? id with
  | none =>
    have still : (c.revised other r').get? id = none := by
      rw [get?_revised, found, Option.map_none]
    rw [revised_of_missing found, revised_of_missing still]
  | some s =>
    cases found' : c.get? other with
    | none =>
      have still : (c.revised id r).get? other = none := by
        rw [get?_revised, found', Option.map_none]
      rw [revised_of_missing found', revised_of_missing still]
    | some s' =>
      have kept : (c.revised id r).get? other = some s' := by
        rw [get?_revised, found', Option.map_some, if_neg ne]
      have kept' : (c.revised other r').get? id = some s := by
        rw [get?_revised, found, Option.map_some, if_neg ne.symm]
      have there : Entries.contains c.entries id = true :=
        (Entries.contains_iff_mem_keys _ _).2 (mem_ids_of_get? found)
      rw [revised_of_found kept, revised_of_found kept', revised_of_found found,
        revised_of_found found']
      simp only [insert, place, stale, Entries.put_comm there ne]

end Catalog

namespace Service

variable {v : Service} {id : String} {given : Entries Payload} {r : Revision}

/-- An accepted revision is made, whatever it changes. -/
theorem run_update_of_found (h : v.catalog.WellFormed)
    (accepted : Revision.read (.record given) = .valid r) {s : Strategy}
    (found : v.catalog.get? id = some s) :
    Command.run v (.update id (.record given)) =
      { answer := .ok (.maybeStrategy (some (r.apply s)))
        service := v.withCatalog (v.catalog.insert (r.apply s))
        events := [.updated (r.apply s).title id] } := by
  have own : s.id = id := h.keyed _ (Catalog.WellFormed.mem_of_get? found)
  have same : { r.apply s with id } = r.apply s := by
    rw [← own]
    rfl
  rw [Command.run, Model.named_eq_ok_iff.2 accepted, checked_ok,
    update_eq v accepted found (h.isValid_of_get? found), same]
  rfl

theorem service_run_update (h : v.catalog.WellFormed)
    (accepted : Revision.read (.record given) = .valid r) :
    (Command.run v (.update id (.record given))).service =
      v.withCatalog (v.catalog.revised id r) := by
  rw [Command.run, Model.named_eq_ok_iff.2 accepted, checked_ok]
  show (v.update id r).service = _
  cases found : v.catalog.get? id with
  | none =>
    rw [update, found, Catalog.revised_of_missing found]
    rfl
  | some s =>
    rw [update_eq v accepted found (h.isValid_of_get? found), Catalog.revised_of_found found]

/-- Two updates one after the other. -/
theorem after_updates (h : v.Reachable) {other : String} {given' : Entries Payload} {r' : Revision}
    (accepted : Revision.read (.record given) = .valid r)
    (accepted' : Revision.read (.record given') = .valid r') :
    v.after [.update id (.record given), .update other (.record given')] =
      v.withCatalog ((v.catalog.revised id r).revised other r') := by
  have first : (Command.run v (.update id (.record given))).service =
      v.withCatalog (v.catalog.revised id r) := service_run_update h.wellFormed accepted
  have later : (v.after [.update id (.record given)]).Reachable := h.after _
  rw [after, List.foldl_cons, List.foldl_nil, first] at later
  rw [after, List.foldl_cons, List.foldl_cons, List.foldl_nil, first,
    service_run_update later.wellFormed accepted']
  rfl

/-- In every reachable state an accepted payload updates a strategy that is there: it gets exactly
the changes that the payload asks for, and everything else stays as it was, the order of the
strategies and what clients have stored included. Of two updates one after the other the later one
prevails: there is always one accepted payload with the changes of the second over those of the
first, and each such payload leaves the same state. Updates of different strategies commute. -/
theorem Reachable.updates_merge (h : v.Reachable) :
    (∀ id s given, v.catalog.get? id = some s → Revision.Accepts given →
      ∃ s' front back, Merges given s s' ∧ v.catalog.entries = front ++ (id, s) :: back ∧
        (Command.run v (.update id (.record given))).answer = .ok (.maybeStrategy (some s')) ∧
        (Command.run v (.update id (.record given))).service = v.withCatalog
          { v.catalog with entries := front ++ (id, s') :: back, freshness := .dirty }) ∧
    (∀ id first second, Revision.Accepts first → Revision.Accepts second →
      (∃ given, Revision.Accepts given ∧ Overrides first second given) ∧
      ∀ given, Revision.Accepts given → Overrides first second given →
        v.after [.update id (.record first), .update id (.record second)] =
          v.after [.update id (.record given)]) ∧
    ∀ id other given given', id ≠ other → Revision.Accepts given → Revision.Accepts given' →
      v.after [.update id (.record given), .update other (.record given')] =
        v.after [.update other (.record given'), .update id (.record given)] := by
  refine ⟨?_, ?_, ?_⟩
  · rintro id s given found ⟨r, accepted⟩
    obtain ⟨front, back, before, stored⟩ := Entries.exists_put_eq found (r.apply s)
    have own : s.id = id := h.wellFormed.keyed _ (Catalog.WellFormed.mem_of_get? found)
    refine ⟨r.apply s, front, back, merges_apply (hasEffect_of_read accepted) s, before, ?_⟩
    rw [run_update_of_found h.wellFormed accepted found]
    refine ⟨rfl, ?_⟩
    rw [← stored, ← own]
    rfl
  · rintro id first second ⟨r₁, accepted₁⟩ ⟨r₂, accepted₂⟩
    refine ⟨exists_overrides ⟨r₁, accepted₁⟩ ⟨r₂, accepted₂⟩, ?_⟩
    rintro given ⟨r, accepted⟩ overrides
    have both (s : Strategy) : r.apply s = r₂.apply (r₁.apply s) :=
      apply_of_overrides (hasEffect_of_read accepted₁) (hasEffect_of_read accepted₂)
        (hasEffect_of_read accepted) overrides s
    rw [after_updates h accepted₁ accepted₂, Catalog.revised_revised both, Service.after,
      List.foldl_cons, List.foldl_nil, service_run_update h.wellFormed accepted]
  · rintro id other given given' ne ⟨r, accepted⟩ ⟨r', accepted'⟩
    rw [after_updates h accepted accepted', after_updates h accepted' accepted,
      Catalog.revised_comm ne]

/-- A title, then null for it and for the section, which clears only the section; the input fields
are spelled in two ways. -/
theorem Reachable.updates_merge_sample :
    sample.after
        [.update "a" (.record [("title", .text "T"), ("section", .text "s"),
          ("inputFields", .list [])]),
        .update "a" (.record [("title", .null), ("section", .null),
          ("input_fields", .list [.record [("id", .text "x"), ("label", .text "X")]])])] =
      sample.after
        [.update "a" (.record [("inputFields", .list [.record [("id", .text "x"),
          ("label", .text "X"), ("required", .boolean false)]]), ("section", .null),
          ("title", .text "T")])] :=
  ((Reachable.updates_merge sample_reachable).2.1 "a" _ _ ⟨_, rfl⟩ ⟨_, rfl⟩).2 _ ⟨_, rfl⟩
    ⟨rfl, rfl, rfl, rfl, rfl, rfl, rfl⟩

end Service

end PlanCompiler
