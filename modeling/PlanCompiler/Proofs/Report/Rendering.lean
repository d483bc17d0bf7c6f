import PlanCompiler.Proofs.Entries
import PlanCompiler.Proofs.Template.Filling
import PlanCompiler.Report.Compilation

/-!
# Rendering a strategy

A rendered strategy is its content, filled in, and the paragraphs of its toggles below. Both are
told here field by field: what goes in for an id is the text of the last field with this id that has
a value, and what is appended for a toggle depends on its own value alone.

* `InputField.given?`, `InputField.textOf`, `textFor`: the value of a field, its text, and the text
  for an id;
* `InputField.appended`: the line that a field adds at the end;
* `get?_resolveAll`, `withParagraphs_resolveAll`: the values and paragraphs of all fields are these;
* `Strategy.render_filled`: the rendered strategy.
-/

namespace PlanCompiler

open Text Template

namespace InputField

/-- The value of a field: what was supplied, unless that is null, or else the default. -/
def given? (f : InputField) (supplied : Entries Payload) : Option Payload :=
  ((Entries.get? supplied f.id).filter (· ≠ .null)).or (f.defaultValue.map Scalar.toPayload)

/-- The text of a value: that of a toggle tells its state. -/
def textOf (f : InputField) (value : Payload) : String :=
  if f.type = .toggle then (if value.isOn then "true" else "false") else value.entryText

/-- What a field adds below the content: the paragraph for its state, if it is a toggle with a value
and there is one. -/
def appended (f : InputField) (supplied : Entries Payload) : String :=
  match f.type, f.given? supplied, f.conditionalText with
  | .toggle, some value, some halves =>
    match if value.isOn then halves.whenTrue else halves.whenFalse with
    | some half => if half = "" then "" else "\n" ++ half
    | none => ""
  | _, _, _ => ""

end InputField

/-- The text for an id: that of the last field with this id that has a value. -/
def textFor (fields : List InputField) (supplied : Entries Payload) (id : String) : Option String :=
  (fields.reverse.filter (·.id = id)).findSome? fun f => (f.given? supplied).map f.textOf

/-! ## One field -/

namespace InputField

theorem entered?_eq_given? (f : InputField) (supplied : Entries Payload) :
    f.entered? supplied = f.given? supplied := by
  rw [entered?, given?]
  cases Entries.get? supplied f.id with
  | none => rfl
  | some p =>
    by_cases null : p = .null
    · subst null
      rfl
    · rw [Option.filter_some, if_pos (decide_eq_true null), Option.some_or]
      split
      · cases ‹some p = none›
      · exact absurd (Option.some.inj ‹_›) null
      · exact ‹some p = _›.symm

theorem raw_valueOf (f : InputField) (p : Payload) : (f.type.valueOf p).raw = f.textOf p := by
  rw [textOf, FieldType.valueOf]
  cases f.type <;> rfl

/-- The state of a toggle can be told from its text. -/
theorem isOn_valueOf_toggle (p : Payload) : (FieldType.valueOf .toggle p).isOn = p.isOn := by
  rw [FieldType.valueOf, FieldType.valueKind, FieldValue.isOn]
  cases p.isOn <;> rfl

theorem value_resolve (f : InputField) (supplied : Entries Payload) :
    (f.resolve supplied).value = (f.given? supplied).map f.type.valueOf := by
  rw [resolve, entered?_eq_given?]
  cases f.given? supplied <;> rfl

theorem fieldId_resolve (f : InputField) (supplied : Entries Payload) :
    (f.resolve supplied).fieldId = f.id := by
  rw [resolve]
  split <;> rfl

/-- A paragraph is never empty. -/
theorem isEmpty_of_paragraph {f : InputField} {supplied : Entries Payload} {half : String}
    (h : (f.resolve supplied).paragraph = some half) : half.isEmpty = false := by
  rw [resolve] at h
  split at h
  · cases h
  · dsimp only at h
    rw [paragraph?] at h
    split at h
    · simpa using (Option.filter_eq_some_iff.1 h).2
    · cases h

/-- What a field adds is its paragraph on a line of its own. -/
theorem appended_eq (f : InputField) (supplied : Entries Payload) : f.appended supplied =
    String.join ((f.resolve supplied).paragraph.toList.map ("\n" ++ ·)) := by
  rw [appended, resolve, entered?_eq_given?]
  cases f.given? supplied with
  | none => cases f.type <;> rfl
  | some p =>
    dsimp only [paragraph?]
    cases f.conditionalText with
    | none => cases f.type <;> rfl
    | some halves =>
      cases f.type with
      | toggle =>
        dsimp only
        rw [isOn_valueOf_toggle]
        cases (if p.isOn then halves.whenTrue else halves.whenFalse) with
        | none => rfl
        | some half => by_cases empty : half = "" <;> simp [Option.filter, empty]
      | _ => rfl

end InputField

/-! ## All fields -/

/-- Of the values stored for an id, the last one counts. -/
theorem get?_resolveAll (fields : List InputField) (supplied : Entries Payload) (id : String) :
    (Entries.get? (resolveAll fields supplied).values id).map (·.raw) =
      textFor fields supplied id := by
  have news : ((fields.map (·.resolve supplied)).filterMap fun r =>
      r.value.map fun v => (r.fieldId, v)).reverse = fields.reverse.filterMap fun f =>
        (f.given? supplied).map fun p => (f.id, f.type.valueOf p) := by
    rw [← List.filterMap_reverse, ← List.map_reverse, List.filterMap_map]
    refine List.filterMap_congr fun f _ => ?_
    rw [Function.comp, InputField.value_resolve, InputField.fieldId_resolve, Option.map_map]
    rfl
  rw [resolveAll, Entries.get?_putAll, news, Entries.get?_nil, Option.or_none, textFor]
  induction fields.reverse with
  | nil => rfl
  | cons f rest ih =>
    cases value : f.given? supplied with
    | none => by_cases same : f.id = id <;> simp [same, value, ih]
    | some p =>
      by_cases same : f.id = id <;>
        simp [same, value, ih, Entries.get?_cons, InputField.raw_valueOf]

theorem withParagraphs_eq (text : String) (paragraphs : List String) :
    withParagraphs text paragraphs =
      text ++ String.join ((paragraphs.filter (!·.isEmpty)).map ("\n" ++ ·)) := by
  rw [withParagraphs]
  generalize paragraphs.filter (!·.isEmpty) = filled
  induction filled generalizing text with
  | nil => simp
  | cons paragraph rest ih =>
    rw [List.foldl_cons, ih, List.map_cons, String.join_cons, String.append_assoc,
      String.append_assoc, String.append_assoc]

/-- The paragraphs below a content are what its fields add, one after another. -/
theorem withParagraphs_resolveAll (text : String) (fields : List InputField)
    (supplied : Entries Payload) :
    withParagraphs text (resolveAll fields supplied).paragraphs =
      text ++ String.join (fields.map (·.appended supplied)) := by
  rw [withParagraphs_eq, resolveAll]
  refine congrArg (text ++ ·) ?_
  dsimp only
  induction fields with
  | nil => rfl
  | cons f rest ih =>
    rw [List.map_cons, List.map_cons, String.join_cons, ← ih, InputField.appended_eq]
    cases paragraph : (f.resolve supplied).paragraph with
    | none => simp [paragraph]
    | some half => simp [paragraph, InputField.isEmpty_of_paragraph paragraph]

/-! ## The strategy -/

/-- A rendered strategy is the content with each placeholder replaced by the text for its id, where
there is one, and then what each of its fields adds, in their order. -/
theorem Strategy.render_filled (s : Strategy) (supplied : Entries Payload) :
    ∃ text : List Char,
      (∀ other, Filled (textFor s.inputFields supplied) s.content.toList other ↔ other = text) ∧
      s.render supplied =
        String.ofList text ++ String.join (s.inputFields.map (·.appended supplied)) := by
  refine ⟨(fill (textFor s.inputFields supplied) s.content).toList, fun other => filled_iff, ?_⟩
  have values : (fun id =>
      (Entries.get? (resolveAll s.inputFields supplied).values id).map (·.raw)) =
        textFor s.inputFields supplied :=
    funext (get?_resolveAll s.inputFields supplied)
  rw [render, values, withParagraphs_resolveAll, String.ofList_toList]

/-- The first of two fields with one id has a value, the other one has none. The value looks like a
placeholder that could be filled, and stays. -/
example : Strategy.render
    { id := "s", title := "S", content := "\x7b\x7bx\x7d\x7d, \x7b\x7by\x7d\x7d"
      inputFields :=
        [{ id := "x", label := "", defaultValue := some (.text "\x7b\x7by\x7d\x7d") },
          { id := "x", label := "" }, { id := "y", label := "", type := .number }] }
    [("y", .integer 1)] = "\x7b\x7by\x7d\x7d, 1" := by
  decide

end PlanCompiler
