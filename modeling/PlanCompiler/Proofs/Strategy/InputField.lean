import PlanCompiler.Proofs.Schema.Writing

/-!
# Input fields read again

An input field that was accepted is accepted again as it is written: with all its fields
(`InputField.read_writeAs`) and with only those that were given (`InputField.read_onlyGiven`). What
makes an input field acceptable is `InputField.IsValid`, and nothing else is lost or added.
-/

namespace PlanCompiler

open Schema Schema.Key

variable {spell : Key → String}

theorem writes_text (s : String) : Writes readText .text s :=
  ⟨Payload.noConfusion, rfl⟩

theorem readNullable_ofText (s? : Option String) :
    readNullable readText (.ofOption .text s?) = .valid s? :=
  readNullable_ofOption fun s _ => writes_text s

theorem writesGiven_text : WritesGiven spell readText .text := by
  intro source s _
  rw [onlyGiven_text]
  exact writes_text s

namespace ConditionalText

/-- The fields of a record are those of the paragraphs. -/
structure ReadFrom (r : Entries Payload) (c : ConditionalText) : Prop where
  whenTrue : nullable r Key.whenTrue readText = .valid c.whenTrue
  whenFalse : nullable r Key.whenFalse readText = .valid c.whenFalse

theorem read_eq_valid_iff {p : Payload} {c : ConditionalText} :
    read p = .valid c ↔ ∃ r, p = .record r ∧ ReadFrom r c := by
  simp only [read, Checked.andThen_eq_valid_iff, readRecord_eq_valid_iff,
    Checked.functor_map_eq, Checked.applicative_seq_eq, Checked.seq_eq_valid_iff,
    Checked.map_eq_valid_iff]
  constructor
  · rintro ⟨r, rfl, _, _, ⟨t, ht, rfl⟩, hf, rfl⟩
    exact ⟨r, rfl, ht, hf⟩
  · rintro ⟨r, rfl, ht, hf⟩
    exact ⟨r, rfl, _, _, ⟨_, ht, rfl⟩, hf, rfl⟩

theorem known (c : ConditionalText) : c.keyed.map Prod.fst ⊆ all :=
  show [Key.whenTrue, Key.whenFalse] ⊆ all by decide

theorem writes (hs : IsSpelling spell) (c : ConditionalText) :
    Writes read (writeAs spell) c := by
  refine ⟨Payload.noConfusion, read_eq_valid_iff.2 ⟨_, rfl, ?_⟩⟩
  exact
    { whenTrue := optional_spelled hs c.known (by decide) rfl (readNullable_ofText _)
      whenFalse := optional_spelled hs c.known (by decide) rfl (readNullable_ofText _) }

theorem writesGiven (hs : IsSpelling spell) : WritesGiven spell read (writeAs spell) := by
  intro source c h
  obtain ⟨given, rfl, fields⟩ := read_eq_valid_iff.1 h
  refine ⟨Payload.noConfusion, read_eq_valid_iff.2 ⟨_, rfl, ?_⟩⟩
  exact
    { whenTrue := optional_onlyGivenFields hs c.known (by decide) rfl fields.whenTrue
        fun source => readNullable_onlyGiven writesGiven_text
      whenFalse := optional_onlyGivenFields hs c.known (by decide) rfl fields.whenFalse
        fun source => readNullable_onlyGiven writesGiven_text }

end ConditionalText

/-- A word character keeps no lone surrogate. -/
theorem Text.isWhole_of_isIdentifier {s : List Char} (h : isIdentifier s = true) :
    isWhole s = true := by
  rw [isIdentifier, Bool.and_eq_true, List.all_eq_true] at h
  rw [isWhole, List.all_eq_true]
  intro c hc
  have word := h.2 c hc
  rw [Bool.not_eq_true', ← Bool.not_eq_true, isSurrogateChar_iff]
  unfold surrogateDistance
  simp only [isWordChar, Bool.or_eq_true, Bool.and_eq_true, decide_eq_true_eq, beq_iff_eq,
    Char.le_def, UInt32.le_iff_toNat_le] at word
  rcases word with ((⟨-, h⟩ | ⟨-, h⟩) | ⟨-, h⟩) | rfl
  · have : c.toNat ≤ 122 := h
    omega
  · have : c.toNat ≤ 90 := h
    omega
  · have : c.toNat ≤ 57 := h
    omega
  · decide

@[simp] theorem FieldType.read_name (type : FieldType) : read (.text type.name) = .valid type := by
  cases type <;> rfl

namespace InputField

/-- What is checked of an input field beyond the types of its fields. -/
structure IsValid (f : InputField) : Prop where
  /-- The id is an identifier. -/
  identifier : Text.isIdentifier f.id.toList = true
  /-- A field to select from has options. -/
  options : f.hasOptions = true

instance (f : InputField) : Decidable f.IsValid :=
  decidable_of_iff (Text.isIdentifier f.id.toList = true ∧ f.hasOptions = true)
    ⟨fun h => ⟨h.1, h.2⟩, fun h => ⟨h.identifier, h.options⟩⟩

/-- The fields of a record are those of the input field. -/
structure ReadFrom (r : Entries Payload) (f : InputField) : Prop where
  id : mandatory r Key.id readIdentifier = .valid f.id
  label : mandatory r Key.label readText = .valid f.label
  type : optional r Key.kind .text FieldType.read = .valid f.type
  placeholder : nullable r Key.placeholder readText = .valid f.placeholder
  required : optional r Key.required false readBoolean = .valid f.required
  options : nullable r Key.options (readList readText) = .valid f.options
  defaultValue : nullable r Key.defaultValue readScalar = .valid f.defaultValue
  conditionalText : nullable r Key.conditionalText ConditionalText.read = .valid f.conditionalText
  hasOptions : f.hasOptions = true

theorem read_eq_valid_iff {p : Payload} {f : InputField} :
    read p = .valid f ↔ ∃ r, p = .record r ∧ ReadFrom r f := by
  simp only [read, Checked.andThen_eq_valid_iff, readRecord_eq_valid_iff,
    Checked.functor_map_eq, Checked.applicative_seq_eq, Checked.seq_eq_valid_iff,
    Checked.map_eq_valid_iff, ↓existsAndEq, and_true, and_assoc]
  constructor
  · rintro ⟨r, rfl, _, _, _, _, _, _, _, _, h1, h2, h3, h4, h5, h6, h7, h8, rule⟩
    split at rule
    · obtain rfl := Checked.valid_inj.1 rule
      exact ⟨r, rfl, h1, h2, h3, h4, h5, h6, h7, h8, ‹_›⟩
    · cases rule
  · rintro ⟨r, rfl, h1, h2, h3, h4, h5, h6, h7, h8, rule⟩
    exact ⟨r, rfl, _, _, _, _, _, _, _, _, h1, h2, h3, h4, h5, h6, h7, h8, if_pos rule⟩

theorem isValid_of_read {p : Payload} {f : InputField} (h : read p = .valid f) : f.IsValid := by
  obtain ⟨r, -, fields⟩ := read_eq_valid_iff.1 h
  obtain ⟨name, q, -, hid⟩ := mandatory_eq_valid_iff.1 fields.id
  exact ⟨(readIdentifier_eq_valid_iff.1 hid).2.2, fields.hasOptions⟩

theorem known (f : InputField) : (f.keyed spell).map Prod.fst ⊆ all :=
  show [Key.id, Key.label, Key.kind, Key.placeholder, Key.required, Key.options, Key.defaultValue,
    Key.conditionalText] ⊆ all by decide

theorem readIdentifier_text {s : String} (h : Text.isIdentifier s.toList = true) :
    readIdentifier (.text s) = .valid s :=
  readIdentifier_eq_valid_iff.2 ⟨rfl, Text.isWhole_of_isIdentifier h, h⟩

theorem writes_ofTexts (texts : List String) : Writes (readList readText) .ofTexts texts :=
  ⟨Payload.noConfusion, readList_map fun _ _ => rfl⟩

theorem writes_toPayload (v : Scalar) : Writes readScalar Scalar.toPayload v :=
  ⟨by cases v <;> exact Payload.noConfusion, readScalar_toPayload v⟩

/-- A written input field is accepted, and nothing in it is changed. -/
theorem read_writeAs (hs : IsSpelling spell) {f : InputField} (h : f.IsValid) :
    read (f.writeAs spell) = .valid f := by
  refine read_eq_valid_iff.2 ⟨_, rfl, ?_⟩
  exact
    { id := mandatory_spelled hs f.known (by decide) rfl (readIdentifier_text h.identifier)
      label := mandatory_spelled hs f.known (by decide) rfl rfl
      type := optional_spelled hs f.known (by decide) rfl (FieldType.read_name f.type)
      placeholder := optional_spelled hs f.known (by decide) rfl
        (readNullable_ofText f.placeholder)
      required := optional_spelled hs f.known (by decide) rfl rfl
      options := optional_spelled hs f.known (by decide) rfl
        (readNullable_ofOption fun texts _ => writes_ofTexts texts)
      defaultValue := optional_spelled hs f.known (by decide) rfl
        (readNullable_ofOption fun v _ => writes_toPayload v)
      conditionalText := optional_spelled hs f.known (by decide) rfl
        (readNullable_ofOption fun c _ => ConditionalText.writes hs c)
      hasOptions := h.options }

/-- What is left of a written input field when only the given fields are kept is read as the same
input field: what was left out stands for its default. -/
theorem read_onlyGiven (hs : IsSpelling spell) {source : Payload} {f : InputField}
    (h : read source = .valid f) : read (onlyGiven spell source (f.writeAs spell)) = .valid f := by
  have valid := isValid_of_read h
  obtain ⟨given, rfl, fields⟩ := read_eq_valid_iff.1 h
  refine read_eq_valid_iff.2 ⟨_, rfl, ?_⟩
  exact
    { id := mandatory_onlyGivenFields hs f.known (by decide) rfl fields.id fun source _ => by
        rw [onlyGiven_text]
        exact readIdentifier_text valid.identifier
      label := mandatory_onlyGivenFields hs f.known (by decide) rfl fields.label fun source _ => by
        rw [onlyGiven_text]
        rfl
      type := optional_onlyGivenFields hs f.known (by decide) rfl fields.type fun source _ => by
        rw [onlyGiven_text, FieldType.read_name]
      placeholder := optional_onlyGivenFields hs f.known (by decide) rfl fields.placeholder
        fun source => readNullable_onlyGiven writesGiven_text
      required := optional_onlyGivenFields hs f.known (by decide) rfl fields.required
        fun source _ => by
          rw [onlyGiven_boolean]
          rfl
      options := optional_onlyGivenFields hs f.known (by decide) rfl fields.options
        fun source => readNullable_onlyGiven fun source texts _ => by
          rw [onlyGiven_ofTexts]
          exact writes_ofTexts texts
      defaultValue := optional_onlyGivenFields hs f.known (by decide) rfl fields.defaultValue
        fun source => readNullable_onlyGiven fun source v _ => by
          rw [onlyGiven_toPayload]
          exact writes_toPayload v
      conditionalText := optional_onlyGivenFields hs f.known (by decide) rfl fields.conditionalText
        fun source => readNullable_onlyGiven (ConditionalText.writesGiven hs)
      hasOptions := fields.hasOptions }

theorem readList_writeAll (hs : IsSpelling spell) {fields : List InputField}
    (h : ∀ f ∈ fields, f.IsValid) : readList read (writeAll spell fields) = .valid fields :=
  readList_map fun f hf => read_writeAs hs (h f hf)

theorem readList_onlyGiven_writeAll (hs : IsSpelling spell) {source : Payload}
    {fields : List InputField} (h : readList read source = .valid fields) :
    readList read (onlyGiven spell source (writeAll spell fields)) = .valid fields :=
  readList_onlyGiven (fun _ _ => read_onlyGiven hs) h

theorem isValid_of_readList {source : Payload} {fields : List InputField}
    (h : readList read source = .valid fields) : ∀ f ∈ fields, f.IsValid :=
  forall_mem_of_readList (fun _ _ => isValid_of_read) h

end InputField

end PlanCompiler
