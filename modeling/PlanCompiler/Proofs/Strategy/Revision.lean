import PlanCompiler.Proofs.Strategy.Validity

/-!
# Revised strategies read again

A revision is merged into the record of a strategy field by field, and input fields only as far as
they were given. The merged record is always read, and as the strategy with exactly the changes of
the revision (`Revision.restored_mergedRecord`).
-/

namespace PlanCompiler

open Schema Schema.Key

namespace Revision

/-- The fields of a record are those of the revision. -/
structure ReadFrom (r : Entries Payload) (v : Revision) : Prop where
  title : nullable r Key.title readNonEmpty = .valid v.title
  description : nullable r Key.description readText = .valid v.description
  category : nullable r Key.category readText = .valid v.category
  sectionKey : readChange r Key.sectionKey readText = .valid v.sectionKey
  subsection : readChange r Key.subsection readText = .valid v.subsection
  content : nullable r Key.content readText = .valid v.content
  inputFields : nullable r Key.inputFields (readList InputField.read) = .valid v.inputFields
  given : v.given = r

theorem read_eq_valid_iff {p : Payload} {v : Revision} :
    read p = .valid v ↔ ∃ r, p = .record r ∧ ReadFrom r v := by
  simp only [read, Checked.andThen_eq_valid_iff, readRecord_eq_valid_iff, Checked.functor_map_eq,
    Checked.applicative_seq_eq, Checked.seq_eq_valid_iff, Checked.map_eq_valid_iff,
    Checked.valid_inj, ↓existsAndEq, and_true, true_and, and_assoc]
  constructor
  · rintro ⟨r, rfl, _, _, _, _, _, _, _, h1, h2, h3, h4, h5, h6, h7, rfl⟩
    exact ⟨r, rfl, h1, h2, h3, h4, h5, h6, h7, rfl⟩
  · rintro ⟨r, rfl, h1, h2, h3, h4, h5, h6, h7, rfl⟩
    exact ⟨_, rfl, _, _, _, _, _, _, _, h1, h2, h3, h4, h5, h6, h7, rfl⟩

/-- The fields that a revision may change. -/
def changeable : List Key :=
  [Key.title, Key.description, Key.category, Key.sectionKey, Key.subsection, Key.content,
    Key.inputFields]

/-- A revision changes neither id nor origin. -/
theorem apart_of_changeable : ∀ key ∈ changeable,
    key ∈ all ∧ Key.id.plain ≠ key.plain ∧ Key.isCustom.plain ≠ key.plain := by
  decide

theorem known (v : Revision) : (v.keyed plain).map Prod.fst ⊆ all :=
  fun key mem => (apart_of_changeable key mem).1

theorem nodup_keys_recordAs (v : Revision) : (Entries.keys (v.recordAs plain)).Nodup :=
  show ["title", "description", "category", "section", "subsection", "content",
    "input_fields"].Nodup by decide

/-! ## The changes -/

variable {α : Type} {v : Revision} {s : Strategy} {r : Entries Payload} {key : Key}
  {read : Payload → Checked α}

theorem get?_changes (v : Revision) (hk : key ∈ all) :
    Entries.get? v.changes key.plain =
      ((find? v.given key).bind fun source =>
        ((v.keyed plain).lookup key).map (onlyGiven plain source.2)).filter fun p =>
          p ≠ .null || clearable.contains key.plain := by
  rw [changes, Entries.get?_filter (nodup_keys_onlyGivenFields v.nodup_keys_recordAs),
    get?_onlyGivenFields, ofSpelling_spell isSpelling_plain hk, recordAs,
    get?_spelled isSpelling_plain v.known hk]

theorem nodup_keys_changes (v : Revision) : (Entries.keys v.changes).Nodup :=
  Entries.nodup_keys_filter (nodup_keys_onlyGivenFields v.nodup_keys_recordAs) _

/-- The changes say of a field what the revision says of it: nothing, or a payload that is read as
the new value. -/
def Changed (v : Revision) (key : Key) (read : Payload → Checked α) (a? : Option α) : Prop :=
  match Entries.get? v.changes key.plain with
  | none => a? = none
  | some p => ∃ a, a? = some a ∧ read p = .valid a

/-- Null asks for no change. -/
theorem changed_of_nullable (write : α → Payload) {a? : Option α}
    (h : nullable v.given key read = .valid a?)
    (hk : key ∈ changeable) (there : (v.keyed plain).lookup key = some (.ofOption write a?))
    (plainField : clearable.contains key.plain = false)
    (back : WritesGiven plain read write) : v.Changed key read a? := by
  rw [Changed, get?_changes v (apart_of_changeable key hk).1, there, plainField]
  rcases nullable_eq_valid_iff.1 h with ⟨absent, rfl⟩ | ⟨name, source, found, hread⟩
  · rw [absent]
    rfl
  · rw [found]
    rcases readNullable_eq_valid_iff.1 hread with ⟨-, rfl⟩ | ⟨-, a, hread', rfl⟩
    · simp [Payload.ofOption, Option.filter]
    · obtain ⟨ne, again⟩ := back source a hread'
      simpa [Payload.ofOption, Option.filter, ne] using again

/-- Null asks for a change to nothing where a field may be cleared. -/
theorem changed_of_readChange (write : α → Payload) {a? : Option (Option α)}
    (h : readChange v.given key read = .valid a?) (hk : key ∈ changeable)
    (there : (v.keyed plain).lookup key = some (.ofOption write a?.join))
    (clears : clearable.contains key.plain = true) (back : WritesGiven plain read write) :
    v.Changed key (readNullable read) a? := by
  rw [Changed, get?_changes v (apart_of_changeable key hk).1, there, clears]
  rcases optional_eq_valid_iff.1 h with ⟨absent, rfl⟩ | ⟨name, source, found, hread⟩
  · rw [absent]
    rfl
  · obtain ⟨b?, hb, rfl⟩ := Checked.map_eq_valid_iff.1 hread
    rw [found]
    simpa [Option.filter] using readNullable_onlyGiven back hb

/-! ## The merged record -/

theorem get?_mergedRecord (v : Revision) (s : Strategy) (id name : String) :
    Entries.get? (v.mergedRecord s id) name =
      if Key.isCustom.plain = name then some (.boolean s.isCustom)
      else if Key.id.plain = name then some (.text id)
      else (Entries.get? v.changes name).or (Entries.get? (s.recordAs plain) name) := by
  rw [mergedRecord, Entries.get?_put, Entries.get?_put,
    Entries.get?_putAll_of_nodup v.nodup_keys_changes]

theorem keyed_mergedRecord (v : Revision) (s : Strategy) (id : String) :
    IsKeyed plain (v.mergedRecord s id) := by
  have base : IsKeyed plain (s.recordAs plain) := isKeyed_spelled (s.known _)
  have changed : IsKeyed plain v.changes := fun name mem => by
    obtain ⟨entry, hentry, rfl⟩ := List.mem_map.1 mem
    exact isKeyed_spelled v.known _ (mem_keys_of_mem_onlyGivenFields
      (Entries.mem_keys_of_mem (List.mem_filter.1 hentry).1))
  intro name mem
  rw [← Entries.contains_iff_mem_keys, Entries.contains, get?_mergedRecord] at mem
  split at mem
  · exact ⟨Key.isCustom, by decide, ‹_›⟩
  · split at mem
    · exact ⟨Key.id, by decide, ‹_›⟩
    · rw [Option.isSome_or, Bool.or_eq_true] at mem
      exact mem.elim (fun h => changed name ((Entries.contains_iff_mem_keys _ _).1 h))
        fun h => base name ((Entries.contains_iff_mem_keys _ _).1 h)

/-- A field of the merged record is read as the new value, if there is one, or as the old one. -/
theorem exists_find?_mergedRecord {a? : Option α} {b : α} {w : Payload} {id : String}
    (changed : v.Changed key read a?) (hk : key ∈ changeable)
    (there : ((Key.id, Payload.text s.id) :: s.keyed plain).lookup key = some w)
    (old : read w = .valid b) :
    ∃ name p, find? (v.mergedRecord s id) key = some (name, p) ∧ read p = .valid (a?.getD b) := by
  obtain ⟨known, ne_id, ne_isCustom⟩ := apart_of_changeable key hk
  rw [find?_of_keyed isSpelling_plain (keyed_mergedRecord v s id) known, get?_mergedRecord,
    if_neg ne_isCustom, if_neg ne_id, Strategy.recordAs,
    get?_spelled isSpelling_plain (s.known _) known, there]
  rw [Changed] at changed
  cases found : Entries.get? v.changes key.plain with
  | none =>
    rw [found] at changed
    subst changed
    exact ⟨key.plain, w, rfl, old⟩
  | some p =>
    rw [found] at changed
    obtain ⟨a, rfl, hread⟩ := changed
    exact ⟨key.plain, p, rfl, hread⟩

theorem mandatory_mergedRecord {a? : Option α} {b : α} {w : Payload} {id : String}
    (changed : v.Changed key read a?) (hk : key ∈ changeable)
    (there : ((Key.id, Payload.text s.id) :: s.keyed plain).lookup key = some w)
    (old : read w = .valid b) :
    mandatory (v.mergedRecord s id) key read = .valid (a?.getD b) :=
  mandatory_eq_valid_iff.2 (exists_find?_mergedRecord changed hk there old)

theorem optional_mergedRecord {a? : Option α} {b d : α} {w : Payload} {id : String}
    (changed : v.Changed key read a?) (hk : key ∈ changeable)
    (there : ((Key.id, Payload.text s.id) :: s.keyed plain).lookup key = some w)
    (old : read w = .valid b) :
    optional (v.mergedRecord s id) key d read = .valid (a?.getD b) :=
  optional_eq_valid_iff.2 (.inr (exists_find?_mergedRecord changed hk there old))

/-! ## Field by field -/

theorem changed_title (h : v.ReadFrom r) : v.Changed Key.title readNonEmpty v.title := by
  refine changed_of_nullable .text (h.given ▸ h.title) (by decide) rfl (by decide) ?_
  intro source a hread
  obtain ⟨-, whole, titled⟩ := readNonEmpty_eq_valid_iff.1 hread
  rw [onlyGiven_text]
  exact ⟨Payload.noConfusion, readNonEmpty_eq_valid_iff.2 ⟨rfl, whole, titled⟩⟩

theorem changed_text {a? : Option String} (h : nullable v.given key readText = .valid a?)
    (hk : key ∈ changeable) (there : (v.keyed plain).lookup key = some (.ofOption .text a?))
    (plainField : clearable.contains key.plain = false) : v.Changed key readText a? :=
  changed_of_nullable .text h hk there plainField writesGiven_text

theorem changed_clearable {a? : Option (Option String)}
    (h : readChange v.given key readText = .valid a?) (hk : key ∈ changeable)
    (there : (v.keyed plain).lookup key = some (.ofOption .text a?.join))
    (clears : clearable.contains key.plain = true) : v.Changed key (readNullable readText) a? :=
  changed_of_readChange .text h hk there clears writesGiven_text

theorem changed_inputFields (h : v.ReadFrom r) :
    v.Changed Key.inputFields (readList InputField.read) v.inputFields := by
  refine changed_of_nullable (InputField.writeAll plain) (h.given ▸ h.inputFields) (by decide)
    rfl (by decide) ?_
  intro source fields hread
  refine ⟨?_, InputField.readList_onlyGiven_writeAll isSpelling_plain hread⟩
  cases source <;> exact Payload.noConfusion

/-- The merged record is read as the strategy with the changes of the revision. -/
theorem readFrom_mergedRecord (h : v.ReadFrom r) (valid : s.toStrategyBody.IsValid) (id : String) :
    (v.apply s).toStrategyBody.ReadFrom (v.mergedRecord s id) := by
  have given := h.given
  subst given
  exact
    { title := mandatory_mergedRecord (changed_title h) (by decide) rfl valid.readNonEmpty_title
      description := optional_mergedRecord (changed_text h.description (by decide) rfl (by decide))
        (by decide) rfl rfl
      category := optional_mergedRecord (changed_text h.category (by decide) rfl (by decide))
        (by decide) rfl rfl
      sectionKey := optional_mergedRecord
        (changed_clearable h.sectionKey (by decide) rfl (by decide)) (by decide) rfl
        (readNullable_ofText _)
      subsection := optional_mergedRecord
        (changed_clearable h.subsection (by decide) rfl (by decide)) (by decide) rfl
        (readNullable_ofText _)
      content := mandatory_mergedRecord (changed_text h.content (by decide) rfl (by decide))
        (by decide) rfl rfl
      inputFields := optional_mergedRecord (changed_inputFields h) (by decide) rfl
        (InputField.readList_writeAll isSpelling_plain valid.inputFields)
      isCustom := by
        rw [optional_eq_valid_iff, find?_of_keyed isSpelling_plain (keyed_mergedRecord v s id)
          (by decide), get?_mergedRecord, if_pos rfl]
        exact .inr ⟨_, _, rfl, rfl⟩ }

/-- A revised strategy is accepted: it is the strategy with the changes of the revision, under its
old id. -/
theorem restored_mergedRecord {p : Payload} (h : Revision.read p = .valid v)
    (valid : s.toStrategyBody.IsValid) (id : String) :
    Service.restored (v.mergedRecord s id) = .ok { v.apply s with id } := by
  obtain ⟨r, -, fields⟩ := read_eq_valid_iff.1 h
  refine Checked.named_eq_ok_iff.2 (Strategy.read_eq_valid_iff.2
    ⟨_, rfl, ?_, readFrom_mergedRecord fields valid id⟩)
  rw [mandatory_eq_valid_iff, find?_of_keyed isSpelling_plain (keyed_mergedRecord v s id)
    (by decide), get?_mergedRecord, if_neg (by decide), if_pos rfl]
  exact ⟨_, _, rfl, rfl⟩

theorem isValid_apply {p : Payload} (h : Revision.read p = .valid v)
    (valid : s.toStrategyBody.IsValid) : (v.apply s).toStrategyBody.IsValid := by
  obtain ⟨r, -, fields⟩ := read_eq_valid_iff.1 h
  exact (readFrom_mergedRecord fields valid s.id).isValid

end Revision

end PlanCompiler
