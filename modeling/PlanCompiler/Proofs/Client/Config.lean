import PlanCompiler.Client.Data
import PlanCompiler.Proofs.Schema.Writing

/-!
# Configurations read again

A configuration that was accepted is accepted again as it is written. The keys of the entered values
were made whole when they were read, and no two of them are equal, so that nothing happens to them
the second time; the values are scalars, which are never converted.

* `readTable_eq_valid_iff`, `readTable_mapValues`: tables with free keys;
* `ClientConfig.IsValid`: what holds of a configuration that was read;
* `ClientConfig.read_write`: a written configuration is read as it was.
-/

namespace PlanCompiler

open Schema Schema.Key

namespace Text

theorem replaced_of_isWhole {s : List Char} (h : isWhole s = true) : replaced s = s := by
  induction s with
  | nil => rfl
  | cons c rest ih =>
    rw [isWhole, List.all_cons, Bool.and_eq_true, Bool.not_eq_true'] at h
    have step : replaced (c :: rest) =
        (if isSurrogateChar c then List.replicate 3 '\ufffd' else [c]) ++ replaced rest := rfl
    rw [step, h.1, ih h.2]
    rfl

/-- A replacement character is no surrogate. -/
theorem isWhole_replaced (s : List Char) : isWhole (replaced s) = true := by
  rw [isWhole, List.all_eq_true]
  intro c hc
  obtain ⟨old, -, hold⟩ := List.mem_flatMap.1 hc
  split at hold
  · rw [List.eq_of_mem_replicate hold]
    decide
  · rename_i whole
    rw [List.mem_singleton.1 hold, Bool.not_eq_true', ← Bool.not_eq_true]
    exact whole

end Text

namespace Schema

/-- No key holds a lone surrogate, and no two are equal. -/
structure WholeKeys (keys : List String) : Prop where
  whole : ∀ key ∈ keys, Text.isWhole key.toList = true
  distinct : keys.Nodup

theorem wholeKey_of_isWhole {key : String} (h : Text.isWhole key.toList = true) :
    wholeKey key = key := by
  rw [wholeKey, Text.replaced_of_isWhole h, String.ofList_toList]

theorem isWhole_wholeKey (key : String) : Text.isWhole (wholeKey key).toList = true := by
  rw [wholeKey, String.toList_ofList]
  exact Text.isWhole_replaced _

variable {α : Type} {read : Payload → Checked α} {write : α → Payload}

/-- A table is accepted when every value is. -/
theorem readTable_eq_valid_iff {p : Payload} {t : Entries α} :
    readTable read p = .valid t ↔ ∃ fields, p = .record fields ∧ ∃ items,
      List.Forall₂ (fun field item => read field.2 = .valid item.2 ∧ wholeKey field.1 = item.1)
        fields items ∧ Entries.putAll [] items = t := by
  cases p with
  | record fields =>
    have field (name : String) (p : Payload) (item : String × α) :
        ((read p).under (.field (wholeKey name))).map (fun a => (wholeKey name, a)) =
            .valid item ↔ read p = .valid item.2 ∧ wholeKey name = item.1 := by
      rw [Checked.map_eq_valid_iff]
      simp only [Checked.under_eq_valid_iff]
      constructor
      · rintro ⟨a, hread, rfl⟩
        exact ⟨hread, rfl⟩
      · rintro ⟨hread, same⟩
        exact ⟨item.2, hread, Prod.ext same rfl⟩
    rw [readTable, Checked.map_eq_valid_iff]
    simp only [Checked.all_eq_valid_iff, List.forall₂_map_left_iff, field]
    simp
  | _ => simp [readTable, Checked.fail]

/-- The keys of an accepted table are whole and distinct, whatever they were before. -/
theorem wholeKeys_of_readTable {p : Payload} {t : Entries α} (h : readTable read p = .valid t) :
    WholeKeys (Entries.keys t) := by
  obtain ⟨fields, -, items, accepted, rfl⟩ := readTable_eq_valid_iff.1 h
  refine ⟨fun key hkey => ?_, Entries.nodup_keys_putAll (t := []) List.nodup_nil items⟩
  obtain ⟨item, hitem, rfl⟩ := List.mem_map.1 hkey
  have given := (Entries.mem_putAll hitem).resolve_left List.not_mem_nil
  obtain ⟨field, -, -, same⟩ := exists_of_forall₂ accepted given
  rw [← same]
  exact isWhole_wholeKey field.1

/-- A written table is read as it was. -/
theorem readTable_mapValues {t : Entries α} (keys : WholeKeys (Entries.keys t))
    (back : ∀ a, read (write a) = .valid a) :
    readTable read (.record (Entries.mapValues write t)) = .valid t := by
  refine readTable_eq_valid_iff.2 ⟨_, rfl, t, ?_, Entries.putAll_of_nodup keys.distinct⟩
  rw [Entries.mapValues, List.forall₂_map_left_iff, List.forall₂_same]
  intro entry hentry
  exact ⟨back entry.2, wholeKey_of_isWhole (keys.whole _ (Entries.mem_keys_of_mem hentry))⟩

end Schema

namespace ClientConfig

/-- What holds of a configuration that was read, beyond the types of its fields. -/
def IsValid (c : ClientConfig) : Prop :=
  WholeKeys (Entries.keys c.inputValues)

/-- The fields of a record are those of the configuration. -/
structure ReadFrom (r : Entries Payload) (c : ClientConfig) : Prop where
  strategyId : mandatory r Key.strategyId readText = .valid c.strategyId
  isEnabled : mandatory r Key.isEnabled readBoolean = .valid c.isEnabled
  inputValues : optional r Key.inputValues [] (readTable readScalar) = .valid c.inputValues

theorem read_eq_valid_iff {p : Payload} {c : ClientConfig} :
    read p = .valid c ↔ ∃ r, p = .record r ∧ ReadFrom r c := by
  simp only [read, Checked.andThen_eq_valid_iff, readRecord_eq_valid_iff,
    Checked.functor_map_eq, Checked.applicative_seq_eq, Checked.seq_eq_valid_iff,
    Checked.map_eq_valid_iff, ↓existsAndEq, and_true, and_assoc]
  constructor
  · rintro ⟨r, rfl, _, _, _, h1, h2, h3, rfl⟩
    exact ⟨r, rfl, h1, h2, h3⟩
  · rintro ⟨r, rfl, h1, h2, h3⟩
    exact ⟨r, rfl, _, _, _, h1, h2, h3, rfl⟩

theorem isValid_of_read {p : Payload} {c : ClientConfig} (h : read p = .valid c) : c.IsValid := by
  obtain ⟨r, -, fields⟩ := read_eq_valid_iff.1 h
  rcases optional_eq_valid_iff.1 fields.inputValues with ⟨-, none⟩ | ⟨name, q, -, hread⟩
  · rw [IsValid, ← none]
    exact ⟨nofun, List.nodup_nil⟩
  · exact wholeKeys_of_readTable hread

/-- The fields of a configuration. -/
def keyed (c : ClientConfig) : List (Key × Payload) :=
  [(Key.strategyId, .text c.strategyId), (Key.isEnabled, .boolean c.isEnabled),
    (Key.inputValues, .record (Entries.mapValues Scalar.toPayload c.inputValues))]

theorem known (c : ClientConfig) : c.keyed.map Prod.fst ⊆ all :=
  show [Key.strategyId, Key.isEnabled, Key.inputValues] ⊆ all by decide

/-- A written configuration is read as it was. -/
theorem read_write {c : ClientConfig} (h : c.IsValid) : read c.write = .valid c := by
  refine read_eq_valid_iff.2 ⟨_, rfl, ?_⟩
  exact
    { strategyId := mandatory_spelled isSpelling_wire c.known (by decide) rfl rfl
      isEnabled := mandatory_spelled isSpelling_wire c.known (by decide) rfl rfl
      inputValues := optional_spelled isSpelling_wire c.known (by decide) rfl
        (readTable_mapValues h readScalar_toPayload) }

end ClientConfig

end PlanCompiler
