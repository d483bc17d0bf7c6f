import Mathlib.Data.List.Perm.Basic
import PlanCompiler.Browse
import PlanCompiler.Proofs.Entries
import PlanCompiler.Proofs.Section.Order
import PlanCompiler.Proofs.Text.Order

/-!
# What browsing shows

Strategies that are organized for browsing are all of those that were selected, each in one place:
in the group of its section, and there in its subsection or directly. Groups come in the order of
the report, subsections by name, and in each of them strategies by title.

* `perm_sortedBy`, `pairwise_sortedBy`, `filter_sortedBy`: sorting loses nothing, puts names in
  order, and keeps the order of equal names;
* `perm_members_groupOf`: a group has the members that it is made of;
* `InTitleOrder`, `Group.Lists`, `Organizes`: what lists, groups and all groups together look like;
* `organize_organizes`: the selected strategies are organized so.
-/

namespace PlanCompiler.Browse

open Text

/-! ## Sorting by name -/

section Sorting

variable {α : Type} (name : α → String) (items : List α)

theorem perm_sortedBy : (sortedBy name items).Perm items :=
  List.mergeSort_perm _ _

theorem not_isBefore_comes_first (a b c : α)
    (h : (!isBefore (name b).toList (name a).toList) = true)
    (h' : (!isBefore (name c).toList (name b).toList) = true) :
    (!isBefore (name c).toList (name a).toList) = true := by
  rw [Bool.not_eq_true'] at *
  exact not_isBefore_trans h h'

theorem one_comes_first (a b : α) : (!isBefore (name b).toList (name a).toList ||
    !isBefore (name a).toList (name b).toList) = true := by
  rw [Bool.or_eq_true, Bool.not_eq_true', Bool.not_eq_true']
  exact not_isBefore_total _ _

/-- No name comes before an earlier one. -/
theorem pairwise_sortedBy : (sortedBy name items).Pairwise fun a b =>
    isBefore (name b).toList (name a).toList = false := by
  have sorted :=
    List.pairwise_mergeSort (not_isBefore_comes_first name) (one_comes_first name) items
  exact sorted.imp fun h => Bool.not_eq_true' _ ▸ h

/-- Items with one name stand in the order in which they stood before. -/
theorem filter_sortedBy (n : String) :
    (sortedBy name items).filter (fun a => name a = n) = items.filter fun a => name a = n := by
  have equal : (items.filter fun a => name a = n).Pairwise fun a b =>
      (!isBefore (name b).toList (name a).toList) = true := by
    refine List.pairwise_of_forall_mem_list fun a ha b hb => ?_
    have named (c : α) (hc : c ∈ items.filter fun a => name a = n) : name c = n :=
      of_decide_eq_true (List.mem_filter.1 hc).2
    rw [named a ha, named b hb, isBefore_irrefl, Bool.not_false]
  have kept := (List.sublist_mergeSort (not_isBefore_comes_first name) (one_comes_first name) equal
    List.filter_sublist).filter fun a => decide (name a = n)
  rw [List.filter_filter] at kept
  simp only [Bool.and_self] at kept
  exact (kept.eq_of_length ((perm_sortedBy name items).symm.filter _).length_eq).symm

end Sorting

/-- Names that are all different come strictly one after another. -/
theorem pairwise_isBefore_sortedBy {names : List String} (distinct : names.Nodup) :
    (sortedBy id names).Pairwise fun a b => isBefore a.toList b.toList = true := by
  have apart : (sortedBy id names).Nodup := (perm_sortedBy id names).nodup_iff.2 distinct
  refine (apart.and (pairwise_sortedBy id names)).imp fun {a b} ⟨ne, notAfter⟩ => ?_
  by_contra notBefore
  exact ne (String.toList_inj.1 (eq_of_not_isBefore (Bool.eq_false_iff.2 notBefore) notAfter))

/-! ## Groups -/

/-- Strategies are listed by title, and those with one title as they were supplied. -/
structure InTitleOrder (supplied listed : List Strategy) : Prop where
  complete : listed.Perm supplied
  ascending : listed.Pairwise fun a b => isBefore b.title.toList a.title.toList = false
  stable : ∀ title, listed.filter (fun s => s.title = title) =
    supplied.filter fun s => s.title = title

theorem inTitleOrder_byTitle (strategies : List Strategy) :
    InTitleOrder strategies (byTitle strategies) where
  complete := perm_sortedBy _ _
  ascending := pairwise_sortedBy _ _
  stable := filter_sortedBy _ _

/-- The subsections of strategies, each once. -/
def namesOf (members : List Strategy) : List String :=
  (members.filterMap groupingKey).eraseDups

theorem mem_namesOf_iff {members : List Strategy} {name : String} :
    name ∈ namesOf members ↔ ∃ s ∈ members, groupingKey s = some name := by
  rw [namesOf, List.mem_eraseDups, List.mem_filterMap]

theorem keys_groupOf (key : String) (members : List Strategy) :
    Entries.keys (groupOf key members).subsections = sortedBy id (namesOf members) := by
  rw [groupOf, Entries.keys, List.map_map]
  exact List.map_id _

/-- A group has the members that it is made of. -/
theorem perm_members_groupOf (key : String) (members : List Strategy) :
    (groupOf key members).members.Perm members := by
  let labels := none :: (sortedBy id (namesOf members)).map some
  have distinct : labels.Nodup := by
    have names : (sortedBy id (namesOf members)).Nodup :=
      (perm_sortedBy id _).nodup_iff.2 (Entries.nodup_eraseDups _)
    exact List.nodup_cons.2 ⟨by simp, names.map fun _ _ => Option.some.inj⟩
  have labelled : ∀ s ∈ members, groupingKey s ∈ labels := by
    intro s hs
    cases name : groupingKey s with
    | none => exact List.mem_cons_self
    | some n =>
      refine List.mem_cons_of_mem _ (List.mem_map_of_mem ?_)
      exact (perm_sortedBy id _).mem_iff.2 (mem_namesOf_iff.2 ⟨s, hs, name⟩)
  have sorted : (groupOf key members).members.Perm
      (labels.flatMap fun l => members.filter fun s => groupingKey s = l) := by
    rw [Group.members, List.flatMap_cons, List.flatMap_map, Entries.values, groupOf, List.map_map,
      ← List.flatMap_def]
    exact (perm_sortedBy _ _).append (List.Perm.flatMap_left _ fun _ _ => perm_sortedBy _ _)
  exact sorted.trans (Entries.perm_flatMap_filter groupingKey distinct labelled)

theorem Group.count_eq (g : Group) : g.count = g.members.length := by
  have sum (start : Nat) (lists : List (List Strategy)) :
      lists.foldl (fun n members => n + members.length) start = start + lists.flatten.length := by
    induction lists generalizing start with
    | nil => rfl
    | cons members rest ih => rw [List.foldl_cons, ih, List.flatten_cons, List.length_append,
        Nat.add_assoc]
  rw [count, members, sum, List.length_append]

/-- The strategies that belong to a section and, within it, to a subsection or to none. -/
def listedUnder (selected : List Strategy) (key : String) (name : Option String) : List Strategy :=
  (selected.filter fun s => Section.keyOf s.sectionKey = key).filter fun s => groupingKey s = name

/-- A group lists what belongs to its section. -/
structure Group.Lists (selected : List Strategy) (g : Group) : Prop where
  direct : InTitleOrder (listedUnder selected g.key none) g.direct
  filed : ∀ entry ∈ g.subsections,
    InTitleOrder (listedUnder selected g.key (some entry.1)) entry.2
  /-- Subsections come by name, and no name twice. -/
  names : (Entries.keys g.subsections).Pairwise fun a b => isBefore a.toList b.toList = true
  filled : g.members ≠ [] ∧ ∀ entry ∈ g.subsections, entry.2 ≠ []
  counted : g.count = g.members.length

theorem lists_groupOf {selected : List Strategy} {key : String}
    (used : ∃ s ∈ selected, Section.keyOf s.sectionKey = key) :
    (groupOf key (selected.filter fun s => Section.keyOf s.sectionKey = key)).Lists selected where
  direct := inTitleOrder_byTitle _
  filed entry hentry := by
    obtain ⟨name, -, rfl⟩ := List.mem_map.1 hentry
    exact inTitleOrder_byTitle _
  names := by
    rw [keys_groupOf]
    exact pairwise_isBefore_sortedBy (Entries.nodup_eraseDups _)
  filled := by
    refine ⟨fun empty => ?_, fun entry hentry empty => ?_⟩
    · obtain ⟨s, hs, here⟩ := used
      have member : s ∈ selected.filter fun s => Section.keyOf s.sectionKey = key :=
        List.mem_filter.2 ⟨hs, decide_eq_true here⟩
      rw [← (perm_members_groupOf key _).mem_iff, empty] at member
      cases member
    · obtain ⟨name, hname, rfl⟩ := List.mem_map.1 hentry
      obtain ⟨s, hs, here⟩ := mem_namesOf_iff.1 ((perm_sortedBy id _).mem_iff.1 hname)
      have member : s ∈ listedUnder selected key (some name) :=
        List.mem_filter.2 ⟨hs, decide_eq_true here⟩
      have none : byTitle (listedUnder selected key (some name)) = [] := empty
      rw [← (inTitleOrder_byTitle _).complete.mem_iff, none] at member
      cases member
  counted := Group.count_eq _

/-! ## All groups -/

theorem map_key_organize (search section? : Option String) (strategies : List Strategy) :
    (organize search section? strategies).map (·.key) =
      Section.ordered
        ((select search section? strategies).map fun s => Section.keyOf s.sectionKey) := by
  rw [organize, List.map_map]
  exact List.map_id _

theorem select_none (strategies : List Strategy) : select none none strategies = strategies :=
  List.filter_eq_self.2 fun _ _ => rfl

/-- A group has the selected strategies of its section. -/
theorem perm_members_of_mem_organize {search section? : Option String}
    {strategies : List Strategy} {g : Group} (h : g ∈ organize search section? strategies) :
    g.members.Perm
      ((select search section? strategies).filter fun s => Section.keyOf s.sectionKey = g.key) := by
  obtain ⟨key, -, rfl⟩ := List.mem_map.1 h
  exact perm_members_groupOf key _

/-- Selected strategies are organized in groups. -/
structure Organizes (selected : List Strategy) (groups : List Group) : Prop where
  complete : (groups.flatMap (·.members)).Perm selected
  lists : ∀ g ∈ groups, g.Lists selected
  distinct : (groups.map (·.key)).Nodup
  ordered : (groups.map (·.key)).Pairwise
    (Section.Precedes (selected.map fun s => Section.keyOf s.sectionKey))

/-- Whatever is searched for, the strategies that are selected are organized. Names and titles come
in the order of their code points. -/
theorem organize_organizes (search section? : Option String) (strategies : List Strategy) :
    Organizes (select search section? strategies) (organize search section? strategies) ∧
    ∀ p q : List (Fin codeBound), isBefore (kept (p.map (·.val))) (kept (q.map (·.val))) = true ↔
      p.map (·.val) < q.map (·.val) := by
  let selected := select search section? strategies
  let keys := Section.ordered (selected.map fun s => Section.keyOf s.sectionKey)
  have sections : (organize search section? strategies).map (·.key) = keys := by
    rw [organize, List.map_map]
    exact List.map_id _
  refine ⟨?_, isBefore_kept_iff⟩
  exact
    { complete := by
        rw [organize, List.flatMap_map]
        refine (List.Perm.flatMap_left _ fun key _ => perm_members_groupOf key _).trans ?_
        refine Entries.perm_flatMap_filter (fun s : Strategy => Section.keyOf s.sectionKey)
          (Section.nodup_ordered _) fun s hs => ?_
        exact Section.mem_ordered_iff.2 (List.mem_map_of_mem hs)
      lists := by
        intro g hg
        obtain ⟨key, hkey, rfl⟩ := List.mem_map.1 hg
        exact lists_groupOf (List.mem_map.1 (Section.mem_ordered_iff.1 hkey))
      distinct := by
        rw [sections]
        exact Section.nodup_ordered _
      ordered := by
        rw [sections]
        exact Section.pairwise_ordered _ }

end PlanCompiler.Browse
