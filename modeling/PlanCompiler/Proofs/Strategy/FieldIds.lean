import PlanCompiler.Proofs.Strategy.InputField
import PlanCompiler.Proofs.Template.Dependence

/-!
# Field ids and placeholders

A field is filled in where its id stands between braces, so the ids that a field may have and the
identifiers that a placeholder may have must be the same. The schema checks a whole text and the
template looks for a part of one, and yet they agree on every text, also on one with braces in it.

* `placeholders_braced_iff`: the texts that are found between braces;
* `InputField.takesId_iff`: the texts that are accepted as ids;
* `fill_around`: a placeholder between texts without braces;
* `declarable_ids_are_placeholders`: all of it.
-/

namespace PlanCompiler

open Schema Text

namespace Template

/-! ## One placeholder -/

theorem toList_braced (id : String) :
    ("\x7b\x7b" ++ id ++ "\x7d\x7d").toList = brace id.toList := by
  simp [brace]

/-- Between braces a text is found exactly if it is an identifier. -/
theorem placeholders_braced_iff (id : String) :
    placeholders ("\x7b\x7b" ++ id ++ "\x7d\x7d") = [id] ↔ isIdentifier id.toList = true := by
  constructor
  · intro only
    have listed : id ∈ placeholders ("\x7b\x7b" ++ id ++ "\x7d\x7d") :=
      only ▸ List.mem_singleton_self id
    obtain ⟨position, occurs⟩ := mem_placeholders_iff.1 listed
    exact occurs.1
  · intro word
    have alone := pieces_brace_append word []
    rw [List.append_nil] at alone
    rw [placeholders, toList_braced, alone]
    simp [pieces, piecesAfter, Piece.id?, List.eraseDups_cons]

/-- Without an opening brace every character stands for itself. -/
theorem pieces_append_of_not_mem {text : List Char} (opening : '\x7b' ∉ text) (rest : List Char) :
    pieces (text ++ rest) = text.map .verbatim ++ pieces rest := by
  induction text with
  | nil => rfl
  | cons c text ih =>
    rw [List.mem_cons, not_or] at opening
    have none : leading? (c :: (text ++ rest)) = none := by
      rw [leading?_eq_none_iff]
      intro id tail _ same
      exact opening.1 (List.cons.inj same).1.symm
    rw [List.cons_append, pieces_cons none, ih opening.2]
    rfl

theorem flatMap_fill_verbatim (values : String → Option String) (text : List Char) :
    (text.map Piece.verbatim).flatMap (Piece.fill values) = text := by
  induction text with
  | nil => rfl
  | cons c text ih => exact congrArg (c :: ·) ih

theorem fill_around {values : String → Option String} {id value : String}
    (word : isIdentifier id.toList = true) (found : values id = some value) {front back : String}
    (before : '\x7b' ∉ front.toList) (behind : '\x7b' ∉ back.toList) :
    fill values (front ++ ("\x7b\x7b" ++ id ++ "\x7d\x7d") ++ back) = front ++ value ++ back := by
  have last := pieces_append_of_not_mem behind []
  rw [List.append_nil] at last
  have cut : pieces (front ++ ("\x7b\x7b" ++ id ++ "\x7d\x7d") ++ back).toList =
      front.toList.map .verbatim ++
        .placeholder id.toList :: (back.toList.map .verbatim ++ pieces []) := by
    rw [String.toList_append, String.toList_append, toList_braced, List.append_assoc,
      pieces_append_of_not_mem before, pieces_brace_append word, last]
  have own : Piece.fill values (.placeholder id.toList) = value.toList := by
    rw [Piece.fill, String.ofList_toList, found]
  rw [fill, cut, List.flatMap_append, List.flatMap_cons, List.flatMap_append,
    flatMap_fill_verbatim, flatMap_fill_verbatim, own]
  simp [pieces, piecesAfter, String.append_assoc]

theorem textIn_own (id : String) {value : Payload} (there : value ≠ .null) :
    textIn [(id, value)] id = some value.entryText := by
  simp [textIn, Entries.get?_cons, there]

end Template

namespace InputField

/-! ## One id -/

/-- The record is accepted as an input field when its id is this text. -/
def TakesId (r : Entries Payload) (id : String) : Prop :=
  ∃ f, read (.record (Entries.put r Key.id.wire (.text id))) = .valid f ∧ f.id = id

variable {r : Entries Payload} {id other : String}

/-- Another identifier in the place of the id makes the same field with another id. -/
theorem ReadFrom.put {f : InputField} (h : ReadFrom r f) (word : isIdentifier id.toList = true) :
    ReadFrom (Entries.put r Key.id.wire (.text id)) { f with id } := by
  obtain ⟨_, _, found, label⟩ := mandatory_eq_valid_iff.1 h.label
  exact {
    id := mandatory_eq_valid_iff.2 ⟨_, _, find?_put_wire _ _ _, readIdentifier_text word⟩
    label := mandatory_eq_valid_iff.2 ⟨_, _, (find?_put_of_apart (by decide)).trans found, label⟩
    type := (optional_put_of_apart (by decide) _ _).trans h.type
    placeholder := (nullable_put_of_apart (by decide) _).trans h.placeholder
    required := (optional_put_of_apart (by decide) _ _).trans h.required
    options := (nullable_put_of_apart (by decide) _).trans h.options
    defaultValue := (nullable_put_of_apart (by decide) _).trans h.defaultValue
    conditionalText := (nullable_put_of_apart (by decide) _).trans h.conditionalText
    hasOptions := h.hasOptions }

theorem isIdentifier_of_takesId (h : TakesId r id) : isIdentifier id.toList = true := by
  obtain ⟨f, accepted, rfl⟩ := h
  exact (isValid_of_read accepted).identifier

/-- What else an input field has does not matter to its id. -/
theorem takesId_iff (h : TakesId r other) : TakesId r id ↔ isIdentifier id.toList = true := by
  refine ⟨isIdentifier_of_takesId, fun word => ?_⟩
  obtain ⟨f, accepted, -⟩ := h
  obtain ⟨_, same, fields⟩ := read_eq_valid_iff.1 accepted
  obtain rfl := Payload.record.inj same
  have again := fields.put word
  rw [Entries.put_put] at again
  exact ⟨_, read_eq_valid_iff.2 ⟨_, rfl, again⟩, rfl⟩

theorem takesId_label : TakesId [(Key.label.wire, .text "")] "a" :=
  ⟨{ id := "a", label := "" }, rfl, rfl⟩

end InputField

open Template InputField

/-- A text is accepted as the id of an input field, whatever else the field has, exactly if it is
found between braces. Then the placeholder is filled with every value but null, and what stands
around it stays. -/
theorem declarable_ids_are_placeholders :
    (∀ id, (∃ r, TakesId r id) ↔ placeholders ("\x7b\x7b" ++ id ++ "\x7d\x7d") = [id]) ∧
    (∀ r other id, TakesId r other →
      (TakesId r id ↔ placeholders ("\x7b\x7b" ++ id ++ "\x7d\x7d") = [id])) ∧
    ∀ r id, TakesId r id → ∀ front back : String,
      '\x7b' ∉ front.toList → '\x7b' ∉ back.toList → ∀ value, value ≠ .null →
        fill (textIn [(id, value)]) (front ++ ("\x7b\x7b" ++ id ++ "\x7d\x7d") ++ back) =
          front ++ value.entryText ++ back := by
  refine ⟨fun id => ?_, fun r other id h => ?_,
    fun r id h front back before behind value there => ?_⟩
  · rw [placeholders_braced_iff]
    exact ⟨fun ⟨r, h⟩ => isIdentifier_of_takesId h,
      fun word => ⟨_, (takesId_iff takesId_label).2 word⟩⟩
  · rw [placeholders_braced_iff, takesId_iff h]
  · exact fill_around (isIdentifier_of_takesId h) (textIn_own id there) before behind

/-- Neither a line end nor a second placeholder makes a text an id, and a value is not looked at for
placeholders. -/
theorem declarable_ids_are_placeholders_sample :
    let r : Entries Payload := [("label", .text ""), ("type", .text "number")]
    TakesId r "rate_1" ∧ ¬ TakesId r "rate_1\n" ∧ ¬ TakesId r "a\x7d\x7d\x7b\x7ba" ∧
      fill (textIn [("rate_1", .text "\x7b\x7brate_1\x7d\x7d")])
        ("5% \x7d " ++ ("\x7b\x7b" ++ "rate_1" ++ "\x7d\x7d") ++ "!") =
          "5% \x7d " ++ "\x7b\x7brate_1\x7d\x7d" ++ "!" := by
  intro r
  obtain ⟨-, others, filled⟩ := declarable_ids_are_placeholders
  have taken : TakesId r "rate_1" := ⟨{ id := "rate_1", label := "", type := .number }, rfl, rfl⟩
  refine ⟨taken, (others r _ _ taken).not.2 (by decide), (others r _ _ taken).not.2 (by decide), ?_⟩
  exact filled r _ taken _ _ (by decide) (by decide) _ (by decide)

end PlanCompiler
