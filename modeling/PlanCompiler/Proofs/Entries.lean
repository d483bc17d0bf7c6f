import Mathlib.Data.List.Induction
import Mathlib.Data.List.Nodup
import PlanCompiler.Entries

/-!
# What tables hold

Lookups and members after the changes that the catalog makes to its tables, beyond those stated
beside the definitions:

* `get?_putAll_of_nodup`: several values stored one after another;
* `get?_group`, `getD_get?_group`: a lookup among the groups of a list;
* `mem_put`, `mem_erase_iff`, `nodup_keys_put`: the members of a table after one change;
* `putAll_of_nodup`: several values under new keys;
* `exists_put_eq`, `exists_erase_eq`: what is around a key whose value changes or goes;
* `put_put`, `put_comm`: two values stored one after the other;
* `perm_of_get?_eq`: tables with the same lookups;
* `pairwise_idxOf_eraseDups`: a list without repetitions is in order of first occurrence;
* `perm_flatMap_filter`: a list taken apart by labels and put together again.
-/

namespace PlanCompiler.Entries

universe u v

variable {α : Type u} {β : Type v}

@[simp] theorem get?_nil (key : String) : get? ([] : Entries α) key = none := rfl

theorem get?_cons (k key : String) (value : α) (rest : Entries α) :
    get? ((k, value) :: rest) key = if k = key then some value else get? rest key := rfl

@[simp] theorem keys_nil : keys ([] : Entries α) = [] := rfl

@[simp] theorem keys_cons (k : String) (value : α) (rest : Entries α) :
    keys ((k, value) :: rest) = k :: keys rest := rfl

/-! ## Lookups -/

theorem get?_eq_none_iff {t : Entries α} {key : String} : get? t key = none ↔ key ∉ keys t := by
  rw [← contains_iff_mem_keys, contains, Bool.not_eq_true, Option.isSome_eq_false_iff,
    Option.isNone_iff_eq_none]

theorem mem_of_get? {t : Entries α} {key : String} {value : α} (h : get? t key = some value) :
    (key, value) ∈ t := by
  induction t with
  | nil => simp at h
  | cons entry rest ih =>
    obtain ⟨k, other⟩ := entry
    rw [get?_cons] at h
    split at h
    · obtain ⟨rfl⟩ := h
      subst k
      exact List.mem_cons_self
    · exact List.mem_cons_of_mem _ (ih h)

theorem mem_keys_of_mem {t : Entries α} {entry : String × α} (h : entry ∈ t) : entry.1 ∈ keys t :=
  List.mem_map_of_mem h

/-- Where no key comes twice, what is there is what a lookup finds. -/
theorem get?_eq_some_iff_mem {t : Entries α} (distinct : (keys t).Nodup) {key : String}
    {value : α} : get? t key = some value ↔ (key, value) ∈ t := by
  refine ⟨mem_of_get?, fun h => ?_⟩
  induction t with
  | nil => cases h
  | cons entry rest ih =>
    obtain ⟨k, other⟩ := entry
    rw [keys_cons, List.nodup_cons] at distinct
    rw [get?_cons]
    rcases List.mem_cons.1 h with same | later
    · obtain ⟨rfl, rfl⟩ := Prod.mk.inj same
      exact if_pos rfl
    · have ne : k ≠ key := by
        rintro rfl
        exact distinct.1 (mem_keys_of_mem later)
      rw [if_neg ne, ih distinct.2 later]

theorem get?_mapValues (f : α → β) (t : Entries α) (key : String) :
    get? (mapValues f t) key = (get? t key).map f := by
  induction t with
  | nil => rfl
  | cons entry rest ih =>
    obtain ⟨k, value⟩ := entry
    have step : mapValues f ((k, value) :: rest) = (k, f value) :: mapValues f rest := rfl
    rw [step, get?_cons, get?_cons, ih]
    split <;> rfl

@[simp] theorem keys_mapValues (f : α → β) (t : Entries α) : keys (mapValues f t) = keys t := by
  rw [keys, mapValues, List.map_map]
  rfl

theorem get?_append (t rest : Entries α) (key : String) :
    get? (t ++ rest) key = (get? t key).or (get? rest key) := by
  induction t with
  | nil => rfl
  | cons entry t ih =>
    obtain ⟨k, value⟩ := entry
    rw [List.cons_append, get?_cons, get?_cons, ih]
    split <;> rfl

theorem nodup_keys_filter {t : Entries α} (distinct : (keys t).Nodup) (p : String × α → Bool) :
    (keys (t.filter p)).Nodup :=
  List.Nodup.sublist (List.filter_sublist.map Prod.fst) distinct

theorem get?_filter {t : Entries α} (distinct : (keys t).Nodup) (p : String × α → Bool)
    (key : String) :
    get? (t.filter p) key = (get? t key).filter fun value => p (key, value) := by
  ext value
  rw [Option.filter_eq_some_iff, get?_eq_some_iff_mem distinct,
    get?_eq_some_iff_mem (nodup_keys_filter distinct p), List.mem_filter]

/-- Of several values stored under one key the last one counts. -/
theorem get?_putAll (t news : Entries α) (key : String) :
    get? (putAll t news) key = (get? news.reverse key).or (get? t key) := by
  induction news using List.reverseRecOn with
  | nil => rfl
  | append_singleton news entry ih =>
    obtain ⟨k, value⟩ := entry
    have step : putAll t (news ++ [(k, value)]) = put (putAll t news) k value := by
      simp [putAll, List.foldl_append]
    rw [step, get?_put, ih, List.reverse_append, List.reverse_singleton, List.singleton_append,
      get?_cons]
    split <;> rfl

/-- Where no key comes twice, it does not matter from which end a table is searched. -/
theorem get?_reverse {t : Entries α} (distinct : (keys t).Nodup) (key : String) :
    get? t.reverse key = get? t key := by
  ext value
  have distinct' : (keys t.reverse).Nodup := by
    rw [keys, List.map_reverse, List.nodup_reverse]
    exact distinct
  rw [get?_eq_some_iff_mem distinct, get?_eq_some_iff_mem distinct', List.mem_reverse]

theorem get?_putAll_of_nodup {news : Entries α} (distinct : (keys news).Nodup) (t : Entries α)
    (key : String) : get? (putAll t news) key = (get? news key).or (get? t key) := by
  rw [get?_putAll, get?_reverse distinct]

theorem get?_map_of_mem {keys' : List String} (f : String → α) {key : String} :
    get? (keys'.map fun k => (k, f k)) key = if key ∈ keys' then some (f key) else none := by
  induction keys' with
  | nil => rfl
  | cons k rest ih =>
    rw [List.map_cons, get?_cons, ih]
    by_cases same : k = key
    · simp [same]
    · simp [same, Ne.symm same]

/-- A group holds the members of the list that have its key. -/
theorem get?_group (label : α → String) (xs : List α) (key : String) :
    get? (group label xs) key =
      if key ∈ xs.map label then some (xs.filter fun x => label x = key) else none := by
  rw [group, get?_map_of_mem (fun k => xs.filter fun x => label x = k)]
  simp only [List.mem_eraseDups]

/-- A key without a group has no members. -/
theorem getD_get?_group (label : α → String) (xs : List α) (key : String) :
    (get? (group label xs) key).getD [] = xs.filter fun x => label x = key := by
  rw [get?_group]
  split
  · rfl
  · rename_i absent
    refine (List.filter_eq_nil_iff.2 fun x hx here => absent ?_).symm
    exact List.mem_map.2 ⟨x, hx, of_decide_eq_true here⟩

/-! ## Members -/

theorem mem_put {t : Entries α} {key : String} {value : α} {entry : String × α}
    (h : entry ∈ put t key value) : entry ∈ t ∨ entry = (key, value) := by
  induction t with
  | nil => exact .inr (List.mem_singleton.1 h)
  | cons head rest ih =>
    obtain ⟨k, old⟩ := head
    rw [put] at h
    split at h
    · subst k
      rcases List.mem_cons.1 h with same | later
      · exact .inr same
      · exact .inl (List.mem_cons_of_mem _ later)
    · rcases List.mem_cons.1 h with same | later
      · exact .inl (same ▸ List.mem_cons_self)
      · exact (ih later).imp_left (List.mem_cons_of_mem _)

theorem mem_erase_iff {t : Entries α} {key : String} {entry : String × α} :
    entry ∈ erase t key ↔ entry ∈ t ∧ entry.1 ≠ key := by
  simp [erase]

theorem nodup_keys_put {t : Entries α} (distinct : (keys t).Nodup) (key : String) (value : α) :
    (keys (put t key value)).Nodup := by
  cases h : contains t key with
  | true => rwa [keys_put_of_contains value h]
  | false =>
    rw [keys_put_of_not_contains value h, List.nodup_append]
    refine ⟨distinct, List.nodup_singleton key, fun a ha b hb => ?_⟩
    rintro rfl
    rw [List.mem_singleton] at hb
    subst hb
    rw [(contains_iff_mem_keys t a).2 ha] at h
    cases h

/-- Keys that arrived in the order of a list are still in its order after one more of them. -/
theorem keys_put_of_eraseDups {t : Entries α} {arrived : List String}
    (h : keys t = arrived.eraseDups) (key : String) (value : α) :
    keys (put t key value) = (arrived ++ [key]).eraseDups := by
  rw [List.eraseDups_append, ← h]
  cases there : contains t key with
  | true =>
    have known : key ∈ arrived := by
      rw [← List.mem_eraseDups, ← h]
      exact (contains_iff_mem_keys t key).1 there
    rw [keys_put_of_contains value there]
    simp [List.removeAll, known]
  | false =>
    have new : key ∉ arrived := by
      rw [← List.mem_eraseDups, ← h, ← contains_iff_mem_keys, there]
      exact Bool.false_ne_true
    rw [keys_put_of_not_contains value there]
    simp [List.removeAll, new, List.eraseDups_cons]

/-- Keys come in the order in which they are first stored. -/
theorem keys_putAll_nil (news : Entries α) : keys (putAll [] news) = (keys news).eraseDups := by
  induction news using List.reverseRecOn with
  | nil => rfl
  | append_singleton news entry ih =>
    have step : putAll [] (news ++ [entry]) = put (putAll [] news) entry.1 entry.2 := by
      simp [putAll, List.foldl_append]
    have arrived : keys (news ++ [entry]) = keys news ++ [entry.1] := List.map_append
    rw [step, arrived, keys_put_of_eraseDups ih]

/-- Values under new keys, no two of them equal, go to the end in their order. -/
theorem putAll_of_nodup {t news : Entries α} (distinct : (keys (t ++ news)).Nodup) :
    putAll t news = t ++ news := by
  induction news generalizing t with
  | nil => exact (List.append_nil t).symm
  | cons entry rest ih =>
    obtain ⟨k, value⟩ := entry
    have new : contains t k = false := by
      rw [keys, List.map_append, List.nodup_append] at distinct
      rw [← Bool.not_eq_true, contains_iff_mem_keys]
      exact fun old => distinct.2.2 k old k List.mem_cons_self rfl
    have step : putAll t ((k, value) :: rest) = putAll (put t k value) rest := rfl
    have assoc : t ++ [(k, value)] ++ rest = t ++ (k, value) :: rest := List.append_assoc _ _ _
    rw [step, put_of_not_contains value new, ih, assoc]
    rwa [assoc]

theorem mem_putAll {t news : Entries α} {entry : String × α} (h : entry ∈ putAll t news) :
    entry ∈ t ∨ entry ∈ news := by
  induction news generalizing t with
  | nil => exact .inl h
  | cons new rest ih =>
    rcases ih h with stored | later
    · rcases mem_put stored with old | rfl
      · exact .inl old
      · exact .inr List.mem_cons_self
    · exact .inr (List.mem_cons_of_mem _ later)

theorem nodup_keys_putAll {t : Entries α} (distinct : (keys t).Nodup) (news : Entries α) :
    (keys (putAll t news)).Nodup := by
  induction news generalizing t with
  | nil => exact distinct
  | cons new rest ih => exact ih (nodup_keys_put distinct new.1 new.2)

theorem nodup_keys_erase {t : Entries α} (distinct : (keys t).Nodup) (key : String) :
    (keys (erase t key)).Nodup :=
  nodup_keys_filter distinct _

/-- A value under a key that is present takes the place of the one before it. -/
theorem exists_put_eq {t : Entries α} {key : String} {old : α} (found : get? t key = some old)
    (value : α) : ∃ front back, t = front ++ (key, old) :: back ∧
      put t key value = front ++ (key, value) :: back := by
  induction t with
  | nil => cases found
  | cons entry rest ih =>
    obtain ⟨k, first⟩ := entry
    rw [get?_cons] at found
    rw [put]
    split at found
    · obtain ⟨rfl⟩ := found
      subst k
      exact ⟨[], rest, rfl, if_pos rfl⟩
    · rename_i other
      obtain ⟨front, back, rfl, stored⟩ := ih found
      exact ⟨(k, first) :: front, back, rfl, by rw [if_neg other, stored, List.cons_append]⟩

/-- A key that is dropped leaves nothing behind, and what was around it keeps its order. -/
theorem exists_erase_eq {t : Entries α} (distinct : (keys t).Nodup) {key : String} {old : α}
    (found : get? t key = some old) : ∃ front back, t = front ++ (key, old) :: back ∧
      erase t key = front ++ back := by
  obtain ⟨front, back, rfl⟩ := List.append_of_mem (mem_of_get? found)
  rw [keys, List.map_append, List.map_cons, List.nodup_middle, List.nodup_cons] at distinct
  have others : ∀ entry ∈ front ++ back, entry.1 ≠ key := by
    rintro entry mem rfl
    rw [← List.map_append] at distinct
    exact distinct.1 (List.mem_map.2 ⟨entry, mem, rfl⟩)
  refine ⟨front, back, rfl, ?_⟩
  have kept : erase (front ++ back) key = front ++ back :=
    List.filter_eq_self.2 fun entry mem => decide_eq_true (others entry mem)
  rw [← kept]
  simp [erase]

theorem contains_put (t : Entries α) (key other : String) (value : α) :
    contains (put t key value) other = (decide (key = other) || contains t other) := by
  rw [contains, get?_put]
  by_cases same : key = other <;> simp [same, contains]

/-- Of two values stored under one key the later one is left. -/
theorem put_put (t : Entries α) (key : String) (value later : α) :
    put (put t key value) key later = put t key later := by
  induction t with
  | nil => simp [put]
  | cons entry rest ih =>
    obtain ⟨k, old⟩ := entry
    by_cases same : k = key
    · simp [put, same]
    · simp [put, same, ih]

/-- Values under two keys may be stored in either order once one of the keys is there. -/
theorem put_comm {t : Entries α} {key other : String} (there : contains t key = true)
    (ne : key ≠ other) (value new : α) :
    put (put t key value) other new = put (put t other new) key value := by
  induction t with
  | nil => cases there
  | cons entry rest ih =>
    obtain ⟨k, old⟩ := entry
    by_cases same : k = key
    · simp [put, same, ne]
    · have later : contains rest key = true := by
        rwa [contains, get?_cons, if_neg same] at there
      by_cases first : k = other
      · simp [put, first, ne.symm]
      · simp [put, same, first, ih later]

/-- Tables that hold the same values under the same keys differ in their order only. -/
theorem perm_of_get?_eq {t u : Entries α} (distinct : (keys t).Nodup) (distinct' : (keys u).Nodup)
    (same : ∀ key, get? t key = get? u key) : t.Perm u := by
  refine (List.perm_ext_iff_of_nodup (.of_map _ distinct) (.of_map _ distinct')).2 ?_
  rintro ⟨key, value⟩
  rw [← get?_eq_some_iff_mem distinct, ← get?_eq_some_iff_mem distinct', same]

/-! ## Groups -/

/-- One more key is left out if it has come up before. -/
theorem eraseDups_append_singleton (keys : List String) (key : String) :
    (keys ++ [key]).eraseDups = if key ∈ keys then keys.eraseDups else keys.eraseDups ++ [key] := by
  rw [List.eraseDups_append]
  by_cases known : key ∈ keys
  · simp [List.removeAll, known]
  · simp [List.removeAll, known, List.eraseDups_cons]

/-- What is left without repetitions comes in the order of first occurrence. -/
theorem pairwise_idxOf_eraseDups (keys : List String) :
    keys.eraseDups.Pairwise fun a b => keys.idxOf a < keys.idxOf b := by
  induction keys using List.reverseRecOn with
  | nil => exact List.Pairwise.nil
  | append_singleton keys key ih =>
    have before : keys.eraseDups.Pairwise fun a b =>
        (keys ++ [key]).idxOf a < (keys ++ [key]).idxOf b := by
      refine ih.imp_of_mem fun ha hb earlier => ?_
      rwa [List.idxOf_append_of_mem (List.mem_eraseDups.1 ha),
        List.idxOf_append_of_mem (List.mem_eraseDups.1 hb)]
    rw [eraseDups_append_singleton]
    split
    · exact before
    · rename_i new
      rw [List.pairwise_append]
      refine ⟨before, List.pairwise_singleton _ _, fun a ha b hb => ?_⟩
      have ha := List.mem_eraseDups.1 ha
      rw [List.mem_singleton.1 hb, List.idxOf_append_of_mem ha, List.idxOf_append_of_notMem new]
      exact Nat.lt_of_lt_of_le (List.idxOf_lt_length_of_mem ha) (Nat.le_add_right _ _)

theorem nodup_eraseDups (keys : List String) : keys.eraseDups.Nodup :=
  (pairwise_idxOf_eraseDups keys).imp fun earlier same => by
    rw [same] at earlier
    exact Nat.lt_irrefl _ earlier

/-- The members of a list, put together again from under their labels, are all there. -/
theorem perm_flatMap_filter [DecidableEq β] (label : α → β) {labels : List β}
    (distinct : labels.Nodup) {xs : List α} (labelled : ∀ x ∈ xs, label x ∈ labels) :
    (labels.flatMap fun l => xs.filter fun x => label x = l).Perm xs := by
  induction labels generalizing xs with
  | nil =>
    have empty : xs = [] :=
      List.eq_nil_iff_forall_not_mem.2 fun x hx => List.not_mem_nil (labelled x hx)
    rw [empty]
    exact List.Perm.nil
  | cons l rest ih =>
    obtain ⟨new, distinct⟩ := List.nodup_cons.1 distinct
    -- What has one of the other labels is in the rest of the list.
    let others := xs.filter fun x => !decide (label x = l)
    have later : (rest.flatMap fun k => xs.filter fun x => label x = k) =
        rest.flatMap fun k => others.filter fun x => label x = k := by
      refine List.flatMap_congr fun k hk => ?_
      rw [List.filter_filter]
      refine List.filter_congr fun x _ => ?_
      by_cases same : label x = k
      · have ne : k ≠ l := fun e => new (e ▸ hk)
        simp [same, ne]
      · simp [same]
    have all : ∀ x ∈ others, label x ∈ rest := by
      intro x hx
      obtain ⟨here, other⟩ := List.mem_filter.1 hx
      rcases List.mem_cons.1 (labelled x here) with same | there
      · simp [same] at other
      · exact there
    rw [List.flatMap_cons, later]
    refine ((ih distinct all).append_left _).trans ?_
    exact List.filter_append_perm (fun x => decide (label x = l)) xs

end PlanCompiler.Entries
