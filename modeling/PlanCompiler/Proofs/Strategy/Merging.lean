import PlanCompiler.Proofs.Strategy.Revision

/-!
# Revisions as merges

What a revision changes is told by its payload alone: a field that is given takes the new value, but
null counts only for section and subsection. So two revisions made one after the other come down to
one, whose changes are those of the second one over those of the first one, and there is always a
payload that asks for these.

* `effective?`: the change that a payload asks for; `nullable_iff_effective`,
  `readChange_iff_effective`: a revision is made of nothing else;
* `Merges`: a strategy has the changes of a payload and is the same otherwise; `merges_apply`;
* `Overrides`: the changes of one payload over those of another one; `apply_of_overrides`,
  `exists_overrides`.
-/

namespace PlanCompiler.Revision

open Schema Schema.Key

variable {α : Type} {given first second : Entries Payload} {key : Key}
  {read : Payload → Checked α} {v v₁ v₂ : Revision} {s : Strategy}

/-- The payload is accepted as a revision. -/
def Accepts (given : Entries Payload) : Prop :=
  ∃ v, Revision.read (.record given) = .valid v

/-- The change of a field that a payload asks for: what is given for it, but null only where the
field may be changed to nothing. -/
def effective? (given : Entries Payload) (key : Key) : Option Payload :=
  ((find? given key).map Prod.snd).filter fun p => p ≠ .null || clearable.contains key.plain

/-! ## Reading the changes -/

/-- Where null asks for no change, a field is accepted when its change is. -/
theorem nullable_iff_effective (plainField : clearable.contains key.plain = false) {a? : Option α} :
    nullable given key read = .valid a? ↔ (effective? given key).map read = a?.map .valid := by
  rw [nullable_eq_valid_iff, effective?, plainField]
  cases found : find? given key with
  | none => cases a? <;> simp
  | some entry =>
    obtain ⟨name, p⟩ := entry
    by_cases null : p = .null
    · cases a? <;> simp [readNullable_eq_valid_iff, null, Option.filter]
    · cases a? <;> simp [readNullable_eq_valid_iff, null, Option.filter]

/-- Where null asks for a change to nothing, the same holds of a value that may be null. -/
theorem readChange_iff_effective (clears : clearable.contains key.plain = true)
    {a? : Option (Option α)} :
    readChange given key read = .valid a? ↔
      (effective? given key).map (readNullable read) = a?.map .valid := by
  rw [readChange, optional_eq_valid_iff, effective?, clears]
  cases found : find? given key with
  | none => cases a? <;> simp
  | some entry =>
    obtain ⟨name, p⟩ := entry
    cases a? <;> simp [Checked.map_eq_valid_iff, Option.filter]

/-- A revision holds the changes that its payload asks for, each as it was read. -/
structure HasEffect (given : Entries Payload) (v : Revision) : Prop where
  title : (effective? given Key.title).map readNonEmpty = v.title.map .valid
  description : (effective? given Key.description).map readText = v.description.map .valid
  category : (effective? given Key.category).map readText = v.category.map .valid
  sectionKey :
    (effective? given Key.sectionKey).map (readNullable readText) = v.sectionKey.map .valid
  subsection :
    (effective? given Key.subsection).map (readNullable readText) = v.subsection.map .valid
  content : (effective? given Key.content).map readText = v.content.map .valid
  inputFields : (effective? given Key.inputFields).map (readList InputField.read) =
    v.inputFields.map .valid

theorem readFrom_iff_hasEffect : ReadFrom given v ↔ HasEffect given v ∧ v.given = given := by
  constructor
  · intro h
    exact ⟨⟨(nullable_iff_effective rfl).1 h.title, (nullable_iff_effective rfl).1 h.description,
      (nullable_iff_effective rfl).1 h.category, (readChange_iff_effective rfl).1 h.sectionKey,
      (readChange_iff_effective rfl).1 h.subsection, (nullable_iff_effective rfl).1 h.content,
      (nullable_iff_effective rfl).1 h.inputFields⟩, h.given⟩
  · rintro ⟨h, same⟩
    exact ⟨(nullable_iff_effective rfl).2 h.title, (nullable_iff_effective rfl).2 h.description,
      (nullable_iff_effective rfl).2 h.category, (readChange_iff_effective rfl).2 h.sectionKey,
      (readChange_iff_effective rfl).2 h.subsection, (nullable_iff_effective rfl).2 h.content,
      (nullable_iff_effective rfl).2 h.inputFields, same⟩

theorem hasEffect_of_read (h : Revision.read (.record given) = .valid v) : HasEffect given v := by
  obtain ⟨_, same, fields⟩ := read_eq_valid_iff.1 h
  obtain rfl := Payload.record.inj same
  exact (readFrom_iff_hasEffect.1 fields).1

/-- A payload is accepted once its changes can be read. -/
theorem read_of_hasEffect (h : HasEffect given v) :
    Revision.read (.record given) = .valid { v with given } :=
  read_eq_valid_iff.2 ⟨given, rfl, readFrom_iff_hasEffect.2
    ⟨⟨h.title, h.description, h.category, h.sectionKey, h.subsection, h.content, h.inputFields⟩,
      rfl⟩⟩

/-! ## One merge -/

/-- A field takes the change that the payload asks for, and keeps its value if there is none. -/
def Takes (given : Entries Payload) (key : Key) (read : Payload → Checked α) (old new : α) : Prop :=
  match effective? given key with
  | some p => read p = .valid new
  | none => new = old

/-- A strategy with exactly the changes of a payload; id and origin stay. -/
structure Merges (given : Entries Payload) (s s' : Strategy) : Prop where
  id : s'.id = s.id
  isCustom : s'.isCustom = s.isCustom
  title : Takes given Key.title readNonEmpty s.title s'.title
  description : Takes given Key.description readText s.description s'.description
  category : Takes given Key.category readText s.category s'.category
  sectionKey : Takes given Key.sectionKey (readNullable readText) s.sectionKey s'.sectionKey
  subsection : Takes given Key.subsection (readNullable readText) s.subsection s'.subsection
  content : Takes given Key.content readText s.content s'.content
  inputFields :
    Takes given Key.inputFields (readList InputField.read) s.inputFields s'.inputFields

theorem takes_getD {a? : Option α} (h : (effective? given key).map read = a?.map .valid)
    (old : α) : Takes given key read old (a?.getD old) := by
  rw [Takes]
  split
  · rename_i p asked
    rw [asked] at h
    obtain ⟨a, rfl, same⟩ := Option.map_eq_some_iff.1 h.symm
    exact same.symm
  · rename_i unasked
    rw [unasked] at h
    rw [Option.map_eq_none_iff.1 h.symm, Option.getD_none]

theorem merges_apply (h : HasEffect given v) (s : Strategy) : Merges given s (v.apply s) where
  id := rfl
  isCustom := rfl
  title := takes_getD h.title _
  description := takes_getD h.description _
  category := takes_getD h.category _
  sectionKey := takes_getD h.sectionKey _
  subsection := takes_getD h.subsection _
  content := takes_getD h.content _
  inputFields := takes_getD h.inputFields _

/-! ## Two merges -/

/-- The change of a field is that of the second payload, or else that of the first one. -/
def Prevails (first second given : Entries Payload) (key : Key) (read : Payload → Checked α) :
    Prop :=
  (effective? given key).map read =
    ((effective? second key).or (effective? first key)).map read

/-- The changes of a payload are those of the second one over those of the first one. They are told
apart only as far as they are read as different values. -/
structure Overrides (first second given : Entries Payload) : Prop where
  title : Prevails first second given Key.title readNonEmpty
  description : Prevails first second given Key.description readText
  category : Prevails first second given Key.category readText
  sectionKey : Prevails first second given Key.sectionKey (readNullable readText)
  subsection : Prevails first second given Key.subsection (readNullable readText)
  content : Prevails first second given Key.content readText
  inputFields : Prevails first second given Key.inputFields (readList InputField.read)

/-- The fields of the second revision over those of the first one. -/
def followedBy (v₁ v₂ : Revision) : Revision where
  title := v₂.title.or v₁.title
  description := v₂.description.or v₁.description
  category := v₂.category.or v₁.category
  sectionKey := v₂.sectionKey.or v₁.sectionKey
  subsection := v₂.subsection.or v₁.subsection
  content := v₂.content.or v₁.content
  inputFields := v₂.inputFields.or v₁.inputFields

/-- Two revisions one after the other are one. -/
theorem apply_followedBy (v₁ v₂ : Revision) (s : Strategy) :
    (v₁.followedBy v₂).apply s = v₂.apply (v₁.apply s) := by
  simp only [apply, followedBy, Option.getD_or]

theorem map_or_effective {a₁ a₂ : Option α}
    (h₁ : (effective? first key).map read = a₁.map .valid)
    (h₂ : (effective? second key).map read = a₂.map .valid) :
    ((effective? second key).or (effective? first key)).map read = (a₂.or a₁).map .valid := by
  rw [Option.map_or, Option.map_or, h₁, h₂]

theorem hasEffect_followedBy (h₁ : HasEffect first v₁) (h₂ : HasEffect second v₂)
    (h : Overrides first second given) : HasEffect given (v₁.followedBy v₂) where
  title := h.title.trans (map_or_effective h₁.title h₂.title)
  description := h.description.trans (map_or_effective h₁.description h₂.description)
  category := h.category.trans (map_or_effective h₁.category h₂.category)
  sectionKey := h.sectionKey.trans (map_or_effective h₁.sectionKey h₂.sectionKey)
  subsection := h.subsection.trans (map_or_effective h₁.subsection h₂.subsection)
  content := h.content.trans (map_or_effective h₁.content h₂.content)
  inputFields := h.inputFields.trans (map_or_effective h₁.inputFields h₂.inputFields)

theorem eq_of_map_valid {a? b? : Option α} (h : a?.map Checked.valid = b?.map Checked.valid) :
    a? = b? :=
  Option.map_injective (fun _ _ => Checked.valid.inj) h

/-- What a revision does is settled by its changes. -/
theorem HasEffect.apply_eq (h : HasEffect given v) (h' : HasEffect given v₁) (s : Strategy) :
    v.apply s = v₁.apply s := by
  rw [apply, apply, eq_of_map_valid (h.title.symm.trans h'.title),
    eq_of_map_valid (h.description.symm.trans h'.description),
    eq_of_map_valid (h.category.symm.trans h'.category),
    eq_of_map_valid (h.sectionKey.symm.trans h'.sectionKey),
    eq_of_map_valid (h.subsection.symm.trans h'.subsection),
    eq_of_map_valid (h.content.symm.trans h'.content),
    eq_of_map_valid (h.inputFields.symm.trans h'.inputFields)]

/-- A revision whose changes are those of the second one over those of the first one does what the
two do one after the other. -/
theorem apply_of_overrides (h₁ : HasEffect first v₁) (h₂ : HasEffect second v₂)
    (h : HasEffect given v) (overrides : Overrides first second given) (s : Strategy) :
    v.apply s = v₂.apply (v₁.apply s) := by
  rw [← apply_followedBy]
  exact h.apply_eq (hasEffect_followedBy h₁ h₂ overrides) s

/-! ## A payload for both -/

theorem lookup_filterMap (f : Key → Option Payload) (keys : List Key) (key : Key) :
    (keys.filterMap fun k => (f k).map (k, ·)).lookup key = if key ∈ keys then f key else none := by
  induction keys with
  | nil => rfl
  | cons k rest ih =>
    rw [List.filterMap_cons]
    by_cases same : key = k
    · subst k
      cases asked : f key with
      | none => simp [ih, asked]
      | some p => simp
    · have ne : (key == k) = false := beq_eq_false_iff_ne.2 same
      cases asked : f k with
      | none => simp [ih, same]
      | some p => simp [List.lookup_cons, ne, ih, same]

/-- A payload that asks for the given changes. -/
def asking (f : Key → Option Payload) : Entries Payload :=
  spelled wire (changeable.filterMap fun key => (f key).map (key, ·))

theorem effective?_asking {f : Key → Option Payload} (hk : key ∈ changeable)
    (effective : ∀ p ∈ f key, (p ≠ .null || clearable.contains key.plain) = true) :
    effective? (asking f) key = f key := by
  have known : (changeable.filterMap fun key => (f key).map (key, ·)).map Prod.fst ⊆ all := by
    intro k mem
    obtain ⟨entry, there, rfl⟩ := List.mem_map.1 mem
    obtain ⟨k, hk, asked⟩ := List.mem_filterMap.1 there
    obtain ⟨p, -, rfl⟩ := Option.map_eq_some_iff.1 asked
    exact (apart_of_changeable k hk).1
  rw [effective?, asking, find?_spelled isSpelling_wire known (apart_of_changeable key hk).1,
    lookup_filterMap, if_pos hk, Option.map_map]
  cases asked : f key with
  | none => rfl
  | some p => exact Option.filter_eq_some_iff.2 ⟨rfl, effective p asked⟩

/-- The changes of one payload over those of another one can be asked for in one payload. -/
theorem exists_overrides (h₁ : Accepts first) (h₂ : Accepts second) :
    ∃ given, Accepts given ∧ Overrides first second given := by
  obtain ⟨v₁, hread₁⟩ := h₁
  obtain ⟨v₂, hread₂⟩ := h₂
  let both : Key → Option Payload := fun key => (effective? second key).or (effective? first key)
  have asked {key : Key} (hk : key ∈ changeable) : effective? (asking both) key = both key := by
    refine effective?_asking hk fun p there => ?_
    rcases Option.or_eq_some_iff.1 there with later | ⟨-, earlier⟩
    · exact (Option.filter_eq_some_iff.1 later).2
    · exact (Option.filter_eq_some_iff.1 earlier).2
  have overrides : Overrides first second (asking both) :=
    { title := congrArg _ (asked (by decide))
      description := congrArg _ (asked (by decide))
      category := congrArg _ (asked (by decide))
      sectionKey := congrArg _ (asked (by decide))
      subsection := congrArg _ (asked (by decide))
      content := congrArg _ (asked (by decide))
      inputFields := congrArg _ (asked (by decide)) }
  have effect :=
    hasEffect_followedBy (hasEffect_of_read hread₁) (hasEffect_of_read hread₂) overrides
  exact ⟨asking both, ⟨_, read_of_hasEffect effect⟩, overrides⟩

end PlanCompiler.Revision
