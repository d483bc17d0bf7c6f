import PlanCompiler.Proofs.Strategy.InputField
import PlanCompiler.Service.Strategies

/-!
# Strategies read again

A strategy is stored only after the record that it is made from has been read as a strategy, though
a draft was read under its own schema before. That second reading never refuses anything and changes
nothing:

* `Draft.isValid_of_read`: what a draft that was read fulfils;
* `Strategy.read_recordAs`: a written strategy is read as it was, in any spelling;
* `Draft.restored_storedRecord`, `Draft.restored_importedRecord`: the strategy of a draft.
-/

namespace PlanCompiler

open Schema Schema.Key

variable {spell : Key → String}

namespace StrategyBody

/-- What is checked of a strategy beyond the types of its fields. -/
structure IsValid (b : StrategyBody) : Prop where
  /-- There is a title. -/
  titled : b.title.isEmpty = false
  /-- The title holds no lone surrogate. -/
  whole : Text.isWhole b.title.toList = true
  inputFields : ∀ f ∈ b.inputFields, f.IsValid

instance (b : StrategyBody) : Decidable b.IsValid :=
  decidable_of_iff (b.title.isEmpty = false ∧ Text.isWhole b.title.toList = true ∧
      ∀ f ∈ b.inputFields, f.IsValid)
    ⟨fun h => ⟨h.1, h.2.1, h.2.2⟩, fun h => ⟨h.titled, h.whole, h.inputFields⟩⟩

/-- The fields of a record are those of the strategy. -/
structure ReadFrom (r : Entries Payload) (b : StrategyBody) : Prop where
  title : mandatory r Key.title readNonEmpty = .valid b.title
  description : optional r Key.description "" readText = .valid b.description
  category : optional r Key.category "" readText = .valid b.category
  sectionKey : nullable r Key.sectionKey readText = .valid b.sectionKey
  subsection : nullable r Key.subsection readText = .valid b.subsection
  content : mandatory r Key.content readText = .valid b.content
  inputFields : optional r Key.inputFields [] (readList InputField.read) = .valid b.inputFields
  isCustom : optional r Key.isCustom false readBoolean = .valid b.isCustom

theorem read_eq_valid_iff {r : Entries Payload} {b : StrategyBody} :
    read r = .valid b ↔ ReadFrom r b := by
  simp only [read, Checked.functor_map_eq, Checked.applicative_seq_eq, Checked.seq_eq_valid_iff,
    Checked.map_eq_valid_iff, ↓existsAndEq, and_true, and_assoc]
  constructor
  · rintro ⟨_, _, _, _, _, _, _, _, h1, h2, h3, h4, h5, h6, h7, h8, rfl⟩
    exact ⟨h1, h2, h3, h4, h5, h6, h7, h8⟩
  · rintro ⟨h1, h2, h3, h4, h5, h6, h7, h8⟩
    exact ⟨_, _, _, _, _, _, _, _, h1, h2, h3, h4, h5, h6, h7, h8, rfl⟩

theorem ReadFrom.isValid {r : Entries Payload} {b : StrategyBody} (h : ReadFrom r b) :
    b.IsValid := by
  obtain ⟨name, p, -, htitle⟩ := mandatory_eq_valid_iff.1 h.title
  obtain ⟨-, whole, titled⟩ := readNonEmpty_eq_valid_iff.1 htitle
  refine ⟨titled, whole, ?_⟩
  rcases optional_eq_valid_iff.1 h.inputFields with ⟨-, none⟩ | ⟨name, q, -, hfields⟩
  · rw [← none]
    simp
  · exact InputField.isValid_of_readList hfields

theorem IsValid.readNonEmpty_title {b : StrategyBody} (h : b.IsValid) :
    readNonEmpty (.text b.title) = .valid b.title :=
  readNonEmpty_eq_valid_iff.2 ⟨rfl, h.whole, h.titled⟩

/-- The keys of a strategy with its id. -/
theorem known (b : StrategyBody) (p : Payload) :
    ((Key.id, p) :: b.keyed spell).map Prod.fst ⊆ all :=
  show [Key.id, Key.title, Key.description, Key.category, Key.sectionKey, Key.subsection,
    Key.content, Key.inputFields, Key.isCustom] ⊆ all by decide

/-- A written strategy is accepted, whatever stands for its id. -/
theorem readFrom_spelled (hs : IsSpelling spell) {b : StrategyBody} (h : b.IsValid) (p : Payload) :
    ReadFrom (spelled spell ((Key.id, p) :: b.keyed spell)) b where
  title := mandatory_spelled hs (b.known p) (by decide) rfl h.readNonEmpty_title
  description := optional_spelled hs (b.known p) (by decide) rfl rfl
  category := optional_spelled hs (b.known p) (by decide) rfl rfl
  sectionKey := optional_spelled hs (b.known p) (by decide) rfl (readNullable_ofText b.sectionKey)
  subsection := optional_spelled hs (b.known p) (by decide) rfl (readNullable_ofText b.subsection)
  content := mandatory_spelled hs (b.known p) (by decide) rfl rfl
  inputFields := optional_spelled hs (b.known p) (by decide) rfl
    (InputField.readList_writeAll hs h.inputFields)
  isCustom := optional_spelled hs (b.known p) (by decide) rfl rfl

end StrategyBody

/-- The built-in strategies are not read from anywhere, but would be accepted. -/
theorem BuiltIn.isValid_of_mem : ∀ s ∈ all, s.toStrategyBody.IsValid := by
  decide

theorem BuiltIn.id_ne_empty_of_mem : ∀ s ∈ all, s.id ≠ "" := by
  decide

namespace Strategy

theorem read_eq_valid_iff {p : Payload} {s : Strategy} :
    read p = .valid s ↔ ∃ r, p = .record r ∧ mandatory r Key.id readText = .valid s.id ∧
      s.toStrategyBody.ReadFrom r := by
  simp only [read, Checked.andThen_eq_valid_iff, readRecord_eq_valid_iff, Checked.functor_map_eq,
    Checked.applicative_seq_eq, Checked.seq_eq_valid_iff, Checked.map_eq_valid_iff,
    StrategyBody.read_eq_valid_iff]
  constructor
  · rintro ⟨r, rfl, _, _, ⟨_, hid, rfl⟩, hbody, rfl⟩
    exact ⟨r, rfl, hid, hbody⟩
  · rintro ⟨r, rfl, hid, hbody⟩
    exact ⟨r, rfl, _, _, ⟨_, hid, rfl⟩, hbody, rfl⟩

/-- A written strategy is read as it was. -/
theorem read_recordAs (hs : IsSpelling spell) {s : Strategy} (h : s.toStrategyBody.IsValid) :
    read (.record (s.recordAs spell)) = .valid s := by
  refine read_eq_valid_iff.2 ⟨_, rfl, ?_, StrategyBody.readFrom_spelled hs h _⟩
  exact mandatory_spelled hs (s.known _) (by decide) rfl rfl

theorem restored_recordAs {s : Strategy} (h : s.toStrategyBody.IsValid) :
    Service.restored (s.recordAs plain) = .ok s :=
  Checked.named_eq_ok_iff.2 (read_recordAs isSpelling_plain h)

end Strategy

namespace Draft

theorem read_eq_valid_iff {p : Payload} {d : Draft} :
    read p = .valid d ↔ ∃ r, p = .record r ∧ nullable r Key.id readText = .valid d.id ∧
      d.toStrategyBody.ReadFrom r := by
  simp only [read, Checked.andThen_eq_valid_iff, readRecord_eq_valid_iff, Checked.functor_map_eq,
    Checked.applicative_seq_eq, Checked.seq_eq_valid_iff, Checked.map_eq_valid_iff,
    StrategyBody.read_eq_valid_iff]
  constructor
  · rintro ⟨r, rfl, _, _, ⟨_, hid, rfl⟩, hbody, rfl⟩
    exact ⟨r, rfl, hid, hbody⟩
  · rintro ⟨r, rfl, hid, hbody⟩
    exact ⟨r, rfl, _, _, ⟨_, hid, rfl⟩, hbody, rfl⟩

theorem isValid_of_read {p : Payload} {d : Draft} (h : read p = .valid d) :
    d.toStrategyBody.IsValid := by
  obtain ⟨r, -, -, body⟩ := read_eq_valid_iff.1 h
  exact body.isValid

/-- What holds of every accepted draft holds of the drafts that were accepted together. -/
theorem forall_mem_of_readBatch {P : Draft → Prop} (item : ∀ p d, read p = .valid d → P d)
    {p : Payload} {drafts : List Draft} (h : readBatch p = .valid drafts) : ∀ d ∈ drafts, P d := by
  obtain ⟨r, -, hr⟩ := Checked.andThen_eq_valid_iff.1 h
  obtain ⟨name, source, -, hread⟩ := mandatory_eq_valid_iff.1 hr
  exact forall_mem_of_readList item hread

theorem storedRecord_eq (d : Draft) (id : String) :
    d.storedRecord id = (d.toStrategy id).recordAs plain := rfl

/-- The strategy of an imported draft. -/
def toImported (d : Draft) (id : String) : Strategy :=
  { d.toStrategy id with isCustom := true }

theorem importedRecord_eq (d : Draft) (id : String) :
    d.importedRecord id = (d.toImported id).recordAs plain := rfl

/-- The strategy of an accepted draft is accepted. -/
theorem restored_storedRecord {d : Draft} (h : d.toStrategyBody.IsValid) (id : String) :
    Service.restored (d.storedRecord id) = .ok (d.toStrategy id) := by
  rw [storedRecord_eq]
  exact Strategy.restored_recordAs h

theorem restored_importedRecord {d : Draft} (h : d.toStrategyBody.IsValid) (id : String) :
    Service.restored (d.importedRecord id) = .ok (d.toImported id) := by
  rw [importedRecord_eq]
  exact Strategy.restored_recordAs ⟨h.titled, h.whole, h.inputFields⟩

end Draft

end PlanCompiler
