import PlanCompiler.Proofs.Schema.Indifference

/-!
# What was given, respelled

Which fields of a written payload were given is told by looking for their keys in the payload that
it was read from. So it does not depend on the spelling there, as long as the written payload has
fields where its schema has some (`Along`).

* `find?_of_unknown`: names that no field of a shape has are found in both payloads alike;
* `onlyGiven_eq`: the same part of a written payload was given;
* `along_record_append`, `Along.map`: payloads that are written along a shape.
-/

namespace PlanCompiler.Schema

open Key

/-- A payload that is written along a shape: in its records the fields of the shape stand under the
spelling in use, and all other names are names that no field has. -/
inductive Along (spell : Key → String) : Shape → Payload → Prop
  | free (p : Payload) : Along spell .free p
  | null (shape : Shape) : Along spell shape .null
  | list {item : Shape} {ps : List Payload} (items : ∀ p ∈ ps, Along spell item p) :
    Along spell (.list item) (.list ps)
  | record {fields : List (Key × Shape)} {w : Entries Payload} (distinct : Shape.Distinct fields)
    (names : ∀ entry ∈ w, (∃ field ∈ fields, entry.1 = spell field.1) ∨
      ∀ field ∈ fields, field.1.spells entry.1 = false)
    (values : ∀ entry ∈ w, Along spell (Shape.under fields entry.1) entry.2) :
    Along spell (.record fields) (.record w)

variable {spell : Key → String} {fields : List (Key × Shape)} {r t : Entries Payload}
  {shape item : Shape} {key : Key} {name : String}

theorem Key.spells_spell (hs : IsSpelling spell) (key : Key) : key.spells (spell key) = true :=
  spells_iff.2 (hs key)

/-! ## The same part was given -/

theorem get?_of_unknown (beside : List.Forall₂ (Beside fields) r t)
    (distinct : Shape.Distinct fields) (unknown : ∀ field ∈ fields, field.1.spells name = false) :
    Entries.get? r name = Entries.get? t name := by
  induction beside with
  | nil => rfl
  | @cons e f r t here _ ih =>
    have own : e.1 = name ∨ f.1 = name → e = f := by
      intro named
      refine here.eq_of_unknown fun field mem => ?_
      rcases named with rfl | rfl
      · exact unknown field mem
      · rw [← here.spells_eq distinct (distinct.1 (List.mem_map_of_mem mem))]
        exact unknown field mem
    rw [Entries.get?_cons, Entries.get?_cons, ih]
    by_cases he : e.1 = name
    · rw [own (.inl he)]
    · rw [if_neg he, if_neg fun hf => he (own (.inr hf) ▸ hf)]

/-- A name that no field has is found in both records alike, whatever key it has elsewhere. -/
theorem find?_of_unknown (h : Counterparts fields r t) (hs : IsSpelling spell)
    (unknown : ∀ field ∈ fields, field.1.spells name = false) :
    find? r (ofSpelling spell name) = find? t (ofSpelling spell name) := by
  have apart (other : String) (own : (ofSpelling spell name).spells other = true) :
      ∀ field ∈ fields, field.1.spells other = false := by
    intro field mem
    rw [ofSpelling] at own
    cases found : all.find? fun k => spell k = name with
    | none =>
      rw [found] at own
      obtain rfl : other = name := by simpa [spells_iff, single] using own
      exact unknown field mem
    | some k =>
      rw [found] at own
      obtain rfl : spell k = name := by simpa using List.find?_some found
      rw [← Bool.not_eq_true]
      intro taken
      have same := eq_of_spells (h.distinct.1 (List.mem_map_of_mem mem))
        (List.mem_of_find?_eq_some found) taken own
      exact Bool.false_ne_true ((unknown field mem).symm.trans (same ▸ spells_spell hs k))
  rw [find?, find?, get?_of_unknown h.beside h.distinct (apart _ (spells_iff.2 (.inl rfl))),
    get?_of_unknown h.beside h.distinct (apart _ (spells_iff.2 (.inr rfl)))]

/-- Of the written payload the same is left for both payloads, wherever they have the shape. -/
def GivenAlike (spell : Key → String) (shape : Shape) (w : Payload) : Prop :=
  ∀ p q : Payload, p.respelled shape q = true → p.spelledOnce shape = true →
    onlyGiven spell p w = onlyGiven spell q w

theorem onlyGivenItems_eq {ws ps qs : List Payload} (ih : ∀ w ∈ ws, GivenAlike spell item w)
    (beside : List.Forall₂ (fun p q => p.respelled item q = true ∧ p.spelledOnce item = true)
      ps qs) :
    onlyGivenItems spell ps ws = onlyGivenItems spell qs ws := by
  induction beside generalizing ws with
  | nil => rfl
  | @cons p q ps qs here _ rest =>
    cases ws with
    | nil => rfl
    | cons w ws =>
      rw [List.forall_mem_cons] at ih
      rw [onlyGivenItems, onlyGivenItems, ih.1 p q here.1 here.2, rest ih.2]

theorem onlyGivenFields_eq (hs : IsSpelling spell) (h : Counterparts fields r t)
    {ws : Entries Payload}
    (names : ∀ entry ∈ ws, (∃ field ∈ fields, entry.1 = spell field.1) ∨
      ∀ field ∈ fields, field.1.spells entry.1 = false)
    (ih : ∀ entry ∈ ws, GivenAlike spell (Shape.under fields entry.1) entry.2) :
    onlyGivenFields spell r ws = onlyGivenFields spell t ws := by
  induction ws with
  | nil => rfl
  | cons entry ws rest =>
    obtain ⟨name, w⟩ := entry
    rw [List.forall_mem_cons] at names ih
    rw [onlyGivenFields, onlyGivenFields, rest names.2 ih.2]
    rcases names.1 with ⟨⟨key, shape⟩, mem, rfl⟩ | unknown
    · rw [ofSpelling_spell hs (h.distinct.1 (List.mem_map_of_mem mem))]
      rcases h.find?_cases mem with ⟨inR, inT⟩ | ⟨_, p, _, q, inR, inT, same, once, -⟩
      · rw [inR, inT]
      · rw [← Shape.under_eq h.distinct mem (spells_spell hs key)] at same once
        rw [inR, inT]
        exact congrArg (fun p => (spell key, p) :: onlyGivenFields spell t ws) (ih.1 p q same once)
    · rw [find?_of_unknown h hs unknown]

/-- Of a payload that is written along a shape the same fields were given, however the payload that
it was read from was spelled. -/
theorem onlyGiven_eq (hs : IsSpelling spell) {w : Payload} (along : Along spell shape w) :
    GivenAlike spell shape w := by
  induction along with
  | free w =>
    intro p q same _
    obtain rfl : p = q := by simpa [Payload.respelled] using same
    rfl
  | null shape =>
    intro p q _ _
    cases p <;> cases q <;> rfl
  | @list item ws _ ih =>
    intro p q same once
    cases p with
    | list ps =>
      cases q with
      | list qs =>
        have beside := forall₂_respelledItems (by simpa [Payload.respelled] using same)
          (by simpa [Payload.spelledOnce] using once)
        exact congrArg Payload.list (onlyGivenItems_eq ih beside)
      | _ => simp [Payload.respelled] at same
    | _ =>
      obtain rfl : _ = q := by simpa [Payload.respelled] using same
      rfl
  | @record fields ws distinct names _ ih =>
    intro p q same once
    rcases counterparts_of_respelled distinct same once with ⟨r, t, rfl, rfl, h⟩ | ⟨-, rfl⟩
    · exact congrArg Payload.record (onlyGivenFields_eq hs h names ih)
    · rfl

/-! ## What is written along a shape -/

theorem Along.ofOption {α : Type} {write : α → Payload} (h : ∀ a, Along spell shape (write a))
    (a? : Option α) : Along spell shape (.ofOption write a?) := by
  cases a? with
  | none => exact .null shape
  | some a => exact h a

theorem Along.map {α : Type} {write : α → Payload} (h : ∀ a, Along spell item (write a))
    (as : List α) : Along spell (.list item) (.list (as.map write)) :=
  .list fun _ mem => by
    obtain ⟨a, -, rfl⟩ := List.mem_map.1 mem
    exact h a

/-- Every field of the shape in its place, and behind them what the shape does not know. -/
theorem along_record_append (hs : IsSpelling spell) (distinct : Shape.Distinct fields)
    {w others : Entries Payload}
    (own : List.Forall₂ (fun field entry => entry.1 = spell field.1 ∧ Along spell field.2 entry.2)
      fields w)
    (unknown : ∀ entry ∈ others, ∀ field ∈ fields, field.1.spells entry.1 = false) :
    Along spell (.record fields) (.record (w ++ others)) := by
  refine .record distinct (fun entry mem => ?_) fun entry mem => ?_
  all_goals rcases List.mem_append.1 mem with here | behind
  · obtain ⟨field, hf, name, -⟩ := exists_of_forall₂ own here
    exact .inl ⟨field, hf, name⟩
  · exact .inr (unknown entry behind)
  · obtain ⟨field, hf, name, value⟩ := exists_of_forall₂ own here
    rw [name, Shape.under_eq distinct hf (spells_spell hs field.1)]
    exact value
  · rw [Shape.under_eq_free (unknown entry behind)]
    exact .free _

theorem along_record (hs : IsSpelling spell) (distinct : Shape.Distinct fields)
    {w : Entries Payload}
    (own : List.Forall₂ (fun field entry => entry.1 = spell field.1 ∧ Along spell field.2 entry.2)
      fields w) :
    Along spell (.record fields) (.record w) := by
  have none : ∀ entry ∈ ([] : Entries Payload), ∀ field ∈ fields,
      field.1.spells entry.1 = false := by simp
  have h := along_record_append hs distinct own none
  rwa [List.append_nil] at h

/-- A record whose fields all hold data. -/
theorem forall₂_plainFields {keys : List Key} {w : Entries Payload}
    (names : Entries.keys w = keys.map spell) :
    List.Forall₂ (fun field entry => entry.1 = spell field.1 ∧ Along spell field.2 entry.2)
      (Shape.plainFields keys) w := by
  induction keys generalizing w with
  | nil =>
    cases w with
    | nil => exact .nil
    | cons entry w => simp [Entries.keys] at names
  | cons key keys ih =>
    cases w with
    | nil => simp [Entries.keys] at names
    | cons entry w =>
      rw [Entries.keys, List.map_cons, List.map_cons, List.cons.injEq] at names
      exact .cons ⟨names.1, .free _⟩ (ih names.2)

end PlanCompiler.Schema
