import PlanCompiler.Proofs.Section.Order

/-!
# One order for the same sections

The order of the report (`Precedes`) leaves no choice: the keys of a list can be put into it in one
way only, which is what `ordered` does. Two lists are put into the same order exactly if they have
the same keys and the unknown ones come up in the same order. How often a key comes up does not
matter, nor where it does if its section is a fixed one or the last one.

* `Orders`: the keys of a list, each once and in the order of the report;
* `place`, `Precedes.asymm`, `Orders.unique`: there is no more than one such list;
* `Alike`, `Orders.alike`: what the order of a list depends on is kept when it is ordered;
* `ordered_is_canonical`: `ordered` picks one list out of those that are alike.
-/

namespace PlanCompiler.Section

variable {keys keys' keys'' listed listed' : List String} {a b : String}

/-! ## One order -/

/-- The keys of a list, each once and in the order of the report. -/
structure Orders (keys listed : List String) : Prop where
  distinct : listed.Nodup
  complete : ∀ key, key ∈ listed ↔ key ∈ keys
  ascending : listed.Pairwise (Precedes keys)

theorem orders_ordered (keys : List String) : Orders keys (ordered keys) where
  distinct := nodup_ordered keys
  complete _ := mem_ordered_iff
  ascending := pairwise_ordered keys

/-- The place of a section among all that can come up: those that are fixed, then the unknown ones,
then the last one. -/
def place (keys : List String) (key : String) : Nat :=
  if key ∈ canonical then canonical.idxOf key
  -- One more than the place of an unknown key that does not come up, whose index is the length.
  else if key = uncategorized then canonical.length + keys.length + 1
  else canonical.length + keys.idxOf key

theorem place_of_mem (here : a ∈ canonical) : place keys a = canonical.idxOf a :=
  if_pos here

theorem place_of_isUnknown (new : isUnknown a = true) :
    place keys a = canonical.length + keys.idxOf a := by
  obtain ⟨out, sectioned⟩ := isUnknown_iff.1 new
  rw [place, if_neg out, if_neg sectioned]

theorem place_uncategorized : place keys uncategorized = canonical.length + keys.length + 1 := by
  rw [place, if_neg (by decide), if_pos rfl]

theorem length_le_place (out : a ∉ canonical) : canonical.length ≤ place keys a := by
  rw [place, if_neg out]
  split <;> omega

/-- An earlier section has the lower place. -/
theorem Precedes.place_lt (h : Precedes keys a b) : place keys a < place keys b := by
  cases h with
  | fixed here there earlier => rwa [place_of_mem here, place_of_mem there]
  | fixedFirst here there =>
    rw [place_of_mem here]
    exact Nat.lt_of_lt_of_le (List.idxOf_lt_length_of_mem here) (length_le_place there)
  | unknown here there earlier =>
    rw [place_of_isUnknown here, place_of_isUnknown there]
    exact Nat.add_lt_add_left earlier _
  | uncategorizedLast here there =>
    subst there
    have bounded : keys.idxOf a ≤ keys.length := List.idxOf_le_length
    rw [place_of_isUnknown here, place_uncategorized]
    omega

theorem Precedes.asymm (h : Precedes keys a b) : ¬ Precedes keys b a :=
  fun h' => Nat.lt_asymm h.place_lt h'.place_lt

/-- There is one way to put keys into the order of the report. -/
theorem Orders.unique (h : Orders keys listed) (h' : Orders keys listed') : listed = listed' := by
  have same : listed.Perm listed' := by
    refine (List.perm_ext_iff_of_nodup h.distinct h'.distinct).2 fun key => ?_
    rw [h.complete, h'.complete]
  exact same.eq_of_pairwise (fun _ _ _ _ before after => absurd after before.asymm)
    h.ascending h'.ascending

theorem orders_iff : Orders keys listed ↔ listed = ordered keys := by
  constructor
  · exact fun h => h.unique (orders_ordered keys)
  · rintro rfl
    exact orders_ordered keys

example : ordered ["insurance", "uncategorized", "leavingALegacy", "insurance", "savings",
    "recommendations"] =
    ["recommendations", "leavingALegacy", "insurance", "savings", "uncategorized"] := by
  decide

/-! ## Lists with one order -/

/-- Two lists have the same keys, and the unknown ones come up in the same order. -/
structure Alike (keys keys' : List String) : Prop where
  same : ∀ key, key ∈ keys ↔ key ∈ keys'
  firsts : ∀ a ∈ keys, ∀ b ∈ keys, isUnknown a = true → isUnknown b = true →
    (keys.idxOf a < keys.idxOf b ↔ keys'.idxOf a < keys'.idxOf b)

theorem Alike.symm (h : Alike keys keys') : Alike keys' keys where
  same key := (h.same key).symm
  firsts a ha b hb newA newB :=
    (h.firsts a ((h.same a).2 ha) b ((h.same b).2 hb) newA newB).symm

theorem Alike.trans (h : Alike keys keys') (h' : Alike keys' keys'') : Alike keys keys'' where
  same key := (h.same key).trans (h'.same key)
  firsts a ha b hb newA newB := by
    rw [h.firsts a ha b hb newA newB]
    exact h'.firsts a ((h.same a).1 ha) b ((h.same b).1 hb) newA newB

theorem Alike.precedes (h : Alike keys keys') (ha : a ∈ keys) (hb : b ∈ keys)
    (before : Precedes keys a b) : Precedes keys' a b := by
  cases before with
  | fixed here there earlier => exact .fixed here there earlier
  | fixedFirst here there => exact .fixedFirst here there
  | unknown here there earlier =>
    exact .unknown here there ((h.firsts a ha b hb here there).1 earlier)
  | uncategorizedLast here there => exact .uncategorizedLast here there

/-- The order of one list is that of a list that is alike. -/
theorem Alike.orders (h : Alike keys keys') (o : Orders keys listed) : Orders keys' listed where
  distinct := o.distinct
  complete key := (o.complete key).trans (h.same key)
  ascending := o.ascending.imp_of_mem fun ha hb before =>
    h.precedes ((o.complete _).1 ha) ((o.complete _).1 hb) before

theorem Orders.precedes_of_idxOf_lt (o : Orders keys listed) (ha : a ∈ keys) (hb : b ∈ keys)
    (earlier : listed.idxOf a < listed.idxOf b) : Precedes keys a b := by
  have ha := List.idxOf_lt_length_of_mem ((o.complete a).2 ha)
  have hb := List.idxOf_lt_length_of_mem ((o.complete b).2 hb)
  have before := List.pairwise_iff_getElem.1 o.ascending _ _ ha hb earlier
  rwa [List.getElem_idxOf, List.getElem_idxOf] at before

/-- A key comes before another one in the ordered list if and only if it has to. -/
theorem Orders.idxOf_lt_iff (o : Orders keys listed) (ha : a ∈ keys) (hb : b ∈ keys) :
    listed.idxOf a < listed.idxOf b ↔ Precedes keys a b := by
  refine ⟨o.precedes_of_idxOf_lt ha hb, fun before => ?_⟩
  -- All keys are listed, so that the two would be one or stand the other way round.
  by_contra notEarlier
  rcases Nat.lt_or_eq_of_le (Nat.not_lt.1 notEarlier) with later | same
  · exact before.asymm (o.precedes_of_idxOf_lt hb ha later)
  · exact before.ne ((List.idxOf_inj ((o.complete b).2 hb)).1 same).symm

theorem precedes_iff_of_isUnknown (newA : isUnknown a = true) (newB : isUnknown b = true) :
    Precedes keys a b ↔ keys.idxOf a < keys.idxOf b := by
  refine ⟨fun h => ?_, .unknown newA newB⟩
  cases h with
  | fixed here _ _ => exact absurd here (isUnknown_iff.1 newA).1
  | fixedFirst here _ => exact absurd here (isUnknown_iff.1 newA).1
  | unknown _ _ earlier => exact earlier
  | uncategorizedLast _ last => exact absurd last (isUnknown_iff.1 newB).2

/-- Ordering a list keeps what its order depends on. -/
theorem Orders.alike (o : Orders keys listed) : Alike listed keys where
  same := o.complete
  firsts a ha b hb newA newB := by
    rw [o.idxOf_lt_iff ((o.complete a).1 ha) ((o.complete b).1 hb)]
    exact precedes_iff_of_isUnknown newA newB

theorem ordered_eq_ordered_iff : ordered keys = ordered keys' ↔ Alike keys keys' := by
  constructor
  · intro same
    have alike' : Alike (ordered keys) keys' := same ▸ (orders_ordered keys').alike
    exact (orders_ordered keys).alike.symm.trans alike'
  · intro alike
    exact (alike.orders (orders_ordered keys)).unique (orders_ordered keys')

/-- The list that `ordered` makes is the only one with the keys in the order of the report, it is
left as it is when it is ordered again, and it is made from another list exactly if that one is
alike. -/
theorem ordered_is_canonical (keys : List String) :
    (∀ listed, Orders keys listed ↔ listed = ordered keys) ∧
      ordered (ordered keys) = ordered keys ∧
      ∀ keys', ordered keys = ordered keys' ↔ Alike keys keys' := by
  refine ⟨fun _ => orders_iff, ?_, fun _ => ordered_eq_ordered_iff⟩
  exact ordered_eq_ordered_iff.2 (orders_ordered keys).alike

end PlanCompiler.Section
