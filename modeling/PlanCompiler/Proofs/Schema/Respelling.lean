import PlanCompiler.Proofs.Schema.Spelling
import PlanCompiler.Schema.Model

/-!
# Payloads respelled

Whoever sends a payload chooses a spelling for each of its fields, at every depth. Only the schema
can tell a field from data: a record of entered values has keys that look like names, and they are
not to be touched. So a schema has a shape, which says where records with fields are, and a payload
is respelled along the shape.

* `Shape`, `Model.shape`: where a payload that fits a schema has fields;
* `respelled`: the second payload is the first one with some of its fields under their other
  spelling, each in its place;
* `spelledOnce`: no field stands in the payload under both spellings, or twice under one;
* `Payload.at?`, `followed`: what stands at the end of a path, and where the same place is in a
  payload that was respelled;
* `Counterparts.find?_cases`: a field is found in both payloads or in neither.
-/

namespace PlanCompiler

namespace Schema

/-- The name is one of the spellings of the key. -/
def Key.spells (key : Key) (name : String) : Bool :=
  name = key.wire || name = key.plain

/-- What a payload that fits a schema consists of. Where it is free it is data and has no fields. -/
inductive Shape
  | free
  | list (item : Shape)
  | record (fields : List (Key × Shape))

namespace Shape

/-- The shape of what stands under a name in a record: a name that no field has is data. -/
def under (fields : List (Key × Shape)) (name : String) : Shape :=
  match fields.find? fun field => field.1.spells name with
  | some field => field.2
  | none => .free

/-! ## The shapes of the schemas -/

/-- Fields that hold data. -/
def plainFields (keys : List Key) : List (Key × Shape) :=
  keys.map fun key => (key, .free)

/-- The fields of a conditional text. -/
def conditionalText : List (Key × Shape) :=
  plainFields [Key.whenTrue, Key.whenFalse]

/-- The fields of an input field. -/
def inputField : List (Key × Shape) :=
  plainFields [Key.id, Key.label, Key.kind, Key.placeholder, Key.required, Key.options,
    Key.defaultValue] ++ [(Key.conditionalText, .record conditionalText)]

/-- The fields of a strategy, with or without a given id. -/
def strategy : List (Key × Shape) :=
  plainFields [Key.id, Key.title, Key.description, Key.category, Key.sectionKey, Key.subsection,
    Key.content] ++ [(Key.inputFields, .list (.record inputField)), (Key.isCustom, .free)]

/-- The fields of a revision. -/
def revision : List (Key × Shape) :=
  plainFields [Key.title, Key.description, Key.category, Key.sectionKey, Key.subsection,
    Key.content] ++ [(Key.inputFields, .list (.record inputField))]

/-- The fields of a strategy in the short form. -/
def customDraft : List (Key × Shape) :=
  plainFields [Key.title, Key.content, Key.sectionKey]

/-- The fields of several drafts sent together. -/
def draftBatch : List (Key × Shape) :=
  [(Key.strategies, .list (.record strategy))]

/-- The fields of a configuration. The values entered for a strategy are under names of its own. -/
def clientConfig : List (Key × Shape) :=
  plainFields [Key.strategyId, Key.isEnabled, Key.inputValues]

/-- The fields of client data. -/
def clientData : List (Key × Shape) :=
  plainFields ClientData.formKeys

/-- The fields of a request. -/
def reportRequest : List (Key × Shape) :=
  [(Key.clientData, .record clientData), (Key.clientId, .free),
    (Key.strategyConfigurations, .list (.record clientConfig))] ++
    plainFields [Key.selectedStrategyIds, Key.selectedCustomStrategyIds]

/-- The fields of a compiled report. -/
def compiledReport : List (Key × Shape) :=
  plainFields [Key.report, Key.reportId]

/-- The fields of a report as it is shown. The data and the configurations in it are not looked
into. -/
def reportView : List (Key × Shape) :=
  plainFields [Key.id, Key.clientId, Key.clientData, Key.strategyConfigurations,
    Key.generatedReport, Key.createdAt]

end Shape

/-- The fields of what a schema accepts. -/
def Model.fields : Model → List (Key × Shape)
  | .conditionalText => Shape.conditionalText
  | .inputField => Shape.inputField
  | .draft | .strategy => Shape.strategy
  | .revision => Shape.revision
  | .customDraft => Shape.customDraft
  | .draftBatch => Shape.draftBatch
  | .clientConfig => Shape.clientConfig
  | .clientData => Shape.clientData
  | .reportRequest => Shape.reportRequest
  | .compiledReport => Shape.compiledReport
  | .reportView => Shape.reportView

/-- The shape of what a schema accepts. -/
def Model.shape (model : Model) : Shape :=
  .record model.fields

end Schema

namespace Payload

open Schema

/-! ## Two payloads -/

mutual

/-- The second payload is the first one with some of the fields of the shape under their other
spelling. -/
def respelled : Shape → (p q : Payload) → Bool
  | .list item, .list ps, .list qs => respelledItems item ps qs
  | .record fields, .record r, .record t => respelledFields fields r t
  | _, p, q => p = q

/-- `respelled` for items side by side. -/
def respelledItems (item : Shape) : (ps qs : List Payload) → Bool
  | [], [] => true
  | p :: ps, q :: qs => respelled item p q && respelledItems item ps qs
  | _, _ => false

/-- `respelled` for entries side by side. A name that no field has stays. -/
def respelledFields (fields : List (Key × Shape)) : (r t : List (String × Payload)) → Bool
  | [], [] => true
  | (name, p) :: r, (other, q) :: t =>
    (name = other || fields.any fun field => field.1.spells name && field.1.spells other) &&
      respelled (Shape.under fields name) p q && respelledFields fields r t
  | _, _ => false

end

mutual

/-- No field of the shape stands in the payload twice, under one spelling or under both. -/
def spelledOnce : Shape → Payload → Bool
  | .list item, .list ps => spelledOnceItems item ps
  | .record fields, .record r =>
    (fields.all fun field => (r.countP fun entry => field.1.spells entry.1) ≤ 1) &&
      spelledOnceFields fields r
  | _, _ => true

/-- `spelledOnce` for every item. -/
def spelledOnceItems (item : Shape) : List Payload → Bool
  | [] => true
  | p :: ps => spelledOnce item p && spelledOnceItems item ps

/-- `spelledOnce` for what stands in every entry. -/
def spelledOnceFields (fields : List (Key × Shape)) : List (String × Payload) → Bool
  | [] => true
  | (name, p) :: r => spelledOnce (Shape.under fields name) p && spelledOnceFields fields r

end

/-- What stands at the end of a path. -/
def at? (p : Payload) : List Step → Option Payload
  | [] => some p
  | .field name :: path =>
    match p with
    | .record r => (Entries.get? r name).bind fun q => q.at? path
    | _ => none
  | .item i :: path =>
    match p with
    | .list ps => ps[i]?.bind fun q => q.at? path
    | _ => none

/-- The path in the second payload to the place where the path in the first one leads: by names that
stand beside each other. Where the path leaves the first payload, the rest of it stays. -/
def followed (p q : Payload) : List Step → List Step
  | [] => []
  | .field name :: path =>
    match p, q with
    | .record r, .record t =>
      match (r.zip t).find? fun pair => pair.1.1 = name with
      | some ((_, p), (other, q)) => .field other :: followed p q path
      | none => .field name :: path
    | _, _ => .field name :: path
  | .item i :: path =>
    match p, q with
    | .list ps, .list qs =>
      match ps[i]?, qs[i]? with
      | some p, some q => .item i :: followed p q path
      | _, _ => .item i :: path
    | _, _ => .item i :: path

/-! ## Paths -/

/-- A step into two payloads, in each by its own name, from a place to another one. -/
structure Leads (p q : Payload) (step other : Step) (p' q' : Payload) : Prop where
  left : ∀ path, p.at? (step :: path) = p'.at? path
  right : ∀ path, q.at? (other :: path) = q'.at? path
  followed : ∀ path, p.followed q (step :: path) = other :: p'.followed q' path

theorem followed_self (p : Payload) (path : List Step) : p.followed p path = path := by
  induction path generalizing p with
  | nil => rfl
  | cons step path ih =>
    cases step with
    | field name =>
      cases p with
      | record r =>
        have itself (pair) (found : (r.zip r).find? (fun pair => pair.1.1 = name) = some pair) :
            pair.2 = pair.1 ∧ pair.1.1 = name := by
          refine ⟨?_, by simpa using List.find?_some found⟩
          have mem := List.mem_of_find?_eq_some found
          rw [List.zip, List.zipWith_self, List.mem_map] at mem
          obtain ⟨entry, -, rfl⟩ := mem
          rfl
        rw [followed]
        split
        · rename_i n p other q found
          obtain ⟨same, rfl⟩ := itself _ found
          cases same
          rw [ih]
        · rfl
      | _ => rfl
    | item i =>
      cases p with
      | list ps =>
        rw [followed]
        cases ps[i]? with
        | some q => exact congrArg _ (ih q)
        | none => rfl
      | _ => rfl

theorem leads_item {ps qs : List Payload} {i : Nat} {p q : Payload} (hp : ps[i]? = some p)
    (hq : qs[i]? = some q) : Leads (.list ps) (.list qs) (.item i) (.item i) p q := by
  constructor
  · intro path
    rw [at?, hp, Option.bind_some]
  · intro path
    rw [at?, hq, Option.bind_some]
  · intro path
    simp only [Payload.followed, hp, hq]

end Payload

namespace Schema

open Key

variable {fields : List (Key × Shape)} {r t : Entries Payload} {key k l : Key} {shape : Shape}
  {name : String}

/-! ## The field of a name -/

theorem Key.spells_iff : key.spells name = true ↔ name = key.wire ∨ name = key.plain := by
  rw [spells, Bool.or_eq_true, decide_eq_true_iff, decide_eq_true_iff]

/-- A name is the name of one field at most. -/
theorem Key.eq_of_spells (hk : k ∈ all) (hl : l ∈ all) (h : k.spells name = true)
    (h' : l.spells name = true) : k = l := by
  by_contra ne
  obtain ⟨ww, wp, pw, pp⟩ := apart_of_ne hk hl ne
  rcases spells_iff.1 h with rfl | rfl <;> rcases spells_iff.1 h' with same | same
  · exact ww same
  · exact wp same
  · exact pw same
  · exact pp same

namespace Shape

/-- The fields have keys of the schemas, each its own. -/
def Distinct (fields : List (Key × Shape)) : Prop :=
  fields.map Prod.fst ⊆ all ∧ (fields.map Prod.fst).Nodup

instance (fields : List (Key × Shape)) : Decidable (Distinct fields) :=
  inferInstanceAs (Decidable (_ ∧ _))

theorem under_eq (distinct : Distinct fields) (there : (key, shape) ∈ fields)
    (h : key.spells name = true) : under fields name = shape := by
  have unique (field : Key × Shape) (mem : field ∈ fields) (h' : field.1.spells name = true) :
      field = (key, shape) := by
    have same : field.1 = key :=
      eq_of_spells (distinct.1 (List.mem_map_of_mem mem)) (distinct.1 (List.mem_map_of_mem there))
        h' h
    exact List.inj_on_of_nodup_map distinct.2 mem there same
  rw [under]
  cases found : fields.find? fun field => field.1.spells name with
  | none => exact absurd h (List.find?_eq_none.1 found _ there)
  | some field =>
    rw [unique field (List.mem_of_find?_eq_some found) (by simpa using List.find?_some found)]

theorem under_eq_free (unknown : ∀ field ∈ fields, field.1.spells name = false) :
    under fields name = .free := by
  rw [under, List.find?_eq_none.2 fun field mem => by simp [unknown field mem]]

end Shape

set_option maxRecDepth 4000 in
theorem Model.distinct_fields (model : Model) : Shape.Distinct model.fields := by
  cases model <;> decide

theorem mem_of_lookup (there : fields.lookup key = some shape) : (key, shape) ∈ fields := by
  obtain ⟨before, after, split, -⟩ := List.lookup_eq_some_iff.1 there
  exact split ▸ List.mem_append_right _ List.mem_cons_self

/-! ## Records beside each other -/

/-- An entry of a record and the one in its place in the respelled record. -/
structure Beside (fields : List (Key × Shape)) (e f : String × Payload) : Prop where
  name : e.1 = f.1 ∨ ∃ field ∈ fields, field.1.spells e.1 = true ∧ field.1.spells f.1 = true
  value : Payload.respelled (Shape.under fields e.1) e.2 f.2 = true
  once : Payload.spelledOnce (Shape.under fields e.1) e.2 = true

/-- A record in which no field stands twice, and the respelled record. -/
structure Counterparts (fields : List (Key × Shape)) (r t : Entries Payload) : Prop where
  distinct : Shape.Distinct fields
  once : ∀ field ∈ fields, (r.countP fun entry => field.1.spells entry.1) ≤ 1
  beside : List.Forall₂ (Beside fields) r t

theorem forall₂_beside (h : Payload.respelledFields fields r t = true)
    (once : Payload.spelledOnceFields fields r = true) : List.Forall₂ (Beside fields) r t := by
  induction r generalizing t with
  | nil =>
    cases t with
    | nil => exact .nil
    | cons f t => simp [Payload.respelledFields] at h
  | cons e r ih =>
    cases t with
    | nil => simp [Payload.respelledFields] at h
    | cons f t =>
      simp only [Payload.respelledFields, Bool.and_eq_true, Bool.or_eq_true, decide_eq_true_iff,
        List.any_eq_true] at h
      rw [Payload.spelledOnceFields, Bool.and_eq_true] at once
      exact .cons ⟨h.1.1, h.1.2, once.1⟩ (ih h.2 once.2)

/-- A payload is respelled as a record, or it is no record and stays as it is. -/
theorem counterparts_of_respelled {p q : Payload} (distinct : Shape.Distinct fields)
    (h : p.respelled (.record fields) q = true) (once : p.spelledOnce (.record fields) = true) :
    (∃ r t, p = .record r ∧ q = .record t ∧ Counterparts fields r t) ∨
      ((∀ r, p ≠ .record r) ∧ p = q) := by
  cases p with
  | record r =>
    cases q with
    | record t =>
      rw [Payload.respelled] at h
      rw [Payload.spelledOnce, Bool.and_eq_true, List.all_eq_true] at once
      exact .inl ⟨r, t, rfl, rfl, distinct, fun field mem => by simpa using once.1 field mem,
        forall₂_beside h once.2⟩
    | _ => simp [Payload.respelled] at h
  | _ => exact .inr ⟨nofun, by simpa [Payload.respelled] using h⟩

/-- A name keeps its field when it is respelled. -/
theorem Beside.spells_eq {e f : String × Payload} (h : Beside fields e f)
    (distinct : Shape.Distinct fields) (known : key ∈ all) :
    key.spells f.1 = key.spells e.1 := by
  rcases h.name with same | ⟨field, mem, he, hf⟩
  · rw [same]
  · have own (name : String) (hn : field.1.spells name = true) :
        key.spells name = true ↔ field.1 = key :=
      ⟨eq_of_spells (distinct.1 (List.mem_map_of_mem mem)) known hn, fun same => same ▸ hn⟩
    rw [Bool.eq_iff_iff, own _ he, own _ hf]

/-- Under a name that no field has nothing is respelled. -/
theorem Beside.eq_of_unknown {e f : String × Payload} (h : Beside fields e f)
    (unknown : ∀ field ∈ fields, field.1.spells e.1 = false) : e = f := by
  have data := h.value
  rw [Shape.under_eq_free unknown] at data
  refine Prod.ext ?_ (by simpa [Payload.respelled] using data)
  rcases h.name with same | ⟨field, mem, spelled, -⟩
  · exact same
  · simp [unknown field mem] at spelled

theorem find?_eq_none_iff :
    find? r key = none ↔ Entries.get? r key.wire = none ∧ Entries.get? r key.plain = none := by
  rw [find?]
  cases Entries.get? r key.wire <;> simp

/-- A field that does not stand in a record twice is found where its key is spelled first. -/
theorem find?_eq_find?_spells (once : (r.countP fun entry => key.spells entry.1) ≤ 1) :
    find? r key = r.find? fun entry => key.spells entry.1 := by
  induction r with
  | nil => rfl
  | cons entry rest ih =>
    obtain ⟨name, p⟩ := entry
    rw [List.countP_cons] at once
    rw [List.find?_cons]
    by_cases h : key.spells name = true
    · -- The rest has the field under no spelling.
      rw [if_pos h] at once
      have none_left : find? rest key = none := by
        rw [ih (by omega), List.find?_eq_none]
        exact List.countP_eq_zero.1 (by omega)
      obtain ⟨noWire, noPlain⟩ := find?_eq_none_iff.1 none_left
      rw [h, find?, Entries.get?_cons, Entries.get?_cons, noWire, noPlain]
      rcases spells_iff.1 h with rfl | rfl
      · simp
      · by_cases same : key.plain = key.wire <;> simp [same]
    · have apart := (not_congr spells_iff).1 h
      rw [not_or] at apart
      rw [Bool.not_eq_true] at h
      rw [h, ← ih (by simpa [h] using once), find?, find?, Entries.get?_cons, Entries.get?_cons,
        if_neg apart.1, if_neg apart.2]

theorem get?_of_find? {p : Payload} (found : find? r key = some (name, p)) :
    Entries.get? r name = some p := by
  rw [find?] at found
  split at found
  · rename_i q hq
    cases found
    exact hq
  · obtain ⟨q, hq, same⟩ := Option.map_eq_some_iff.1 found
    cases same
    exact hq

theorem spells_of_find? {p : Payload} (found : find? r key = some (name, p)) :
    key.spells name = true := by
  rw [find?] at found
  rw [spells_iff]
  split at found
  · cases found
    exact .inl rfl
  · obtain ⟨q, -, same⟩ := Option.map_eq_some_iff.1 found
    cases same
    exact .inr rfl

theorem spelledOnceFields_iff : Payload.spelledOnceFields fields r = true ↔
    ∀ entry ∈ r, entry.2.spelledOnce (Shape.under fields entry.1) = true := by
  induction r with
  | nil => simp [Payload.spelledOnceFields]
  | cons entry r ih => rw [Payload.spelledOnceFields, Bool.and_eq_true, ih, List.forall_mem_cons]

/-- What stands under a field of a record has no field twice either. -/
theorem spelledOnce_of_find? (distinct : Shape.Distinct fields)
    (once : (Payload.record r).spelledOnce (.record fields) = true) (mem : (key, shape) ∈ fields)
    {p : Payload} (found : find? r key = some (name, p)) : p.spelledOnce shape = true := by
  rw [Payload.spelledOnce, Bool.and_eq_true, spelledOnceFields_iff] at once
  have there := once.2 _ (Entries.mem_of_get? (get?_of_find? found))
  rwa [Shape.under_eq distinct mem (spells_of_find? found)] at there

namespace Counterparts

theorem countP_spells (beside : List.Forall₂ (Beside fields) r t)
    (distinct : Shape.Distinct fields) (known : key ∈ all) :
    (t.countP fun f => key.spells f.1) = r.countP fun e => key.spells e.1 := by
  induction beside with
  | nil => rfl
  | cons here _ ih => rw [List.countP_cons, List.countP_cons, here.spells_eq distinct known, ih]

/-- The first entries under a key stand beside each other, if there are any. -/
theorem find?_spells (beside : List.Forall₂ (Beside fields) r t)
    (distinct : Shape.Distinct fields) (known : key ∈ all) :
    (r.find? (fun e => key.spells e.1) = none ∧ t.find? (fun f => key.spells f.1) = none) ∨
      ∃ e f, r.find? (fun e => key.spells e.1) = some e ∧
        t.find? (fun f => key.spells f.1) = some f ∧ Beside fields e f ∧
        (r.zip t).find? (fun pair => pair.1.1 = e.1) = some (e, f) := by
  induction beside with
  | nil => exact .inl ⟨rfl, rfl⟩
  | @cons e f r t here rest ih =>
    have same := here.spells_eq distinct known
    simp only [List.find?_cons, List.zip_cons_cons, same]
    by_cases h : key.spells e.1 = true
    · exact .inr ⟨e, f, by simp [h], by simp [h], here, by simp⟩
    · rw [Bool.not_eq_true] at h
      simp only [h]
      rcases ih with neither | ⟨e', f', he, hf, there, both⟩
      · exact .inl neither
      · refine .inr ⟨e', f', he, hf, there, ?_⟩
        have later : e.1 ≠ e'.1 := fun same => by
          have := List.find?_some he
          simp [← same, h] at this
        simp [later, both]

/-- A field is in neither record, or in both of them, its value respelled. -/
theorem find?_cases (h : Counterparts fields r t) (mem : (key, shape) ∈ fields) :
    (find? r key = none ∧ find? t key = none) ∨
      ∃ name p other q, find? r key = some (name, p) ∧ find? t key = some (other, q) ∧
        p.respelled shape q = true ∧ p.spelledOnce shape = true ∧
        Payload.Leads (.record r) (.record t) (.field name) (.field other) p q := by
  have known : key ∈ all := h.distinct.1 (List.mem_map_of_mem mem)
  have once := h.once _ mem
  have once' : (t.countP fun entry => key.spells entry.1) ≤ 1 :=
    countP_spells h.beside h.distinct known ▸ once
  rw [find?_eq_find?_spells once, find?_eq_find?_spells once']
  rcases find?_spells h.beside h.distinct known with neither | ⟨e, f, he, hf, beside, both⟩
  · exact .inl neither
  · have shaped : Shape.under fields e.1 = shape :=
      Shape.under_eq h.distinct mem (by simpa using List.find?_some he)
    refine .inr ⟨e.1, e.2, f.1, f.2, he, hf, shaped ▸ beside.value, shaped ▸ beside.once, ?_⟩
    have getR := get?_of_find? ((find?_eq_find?_spells once).trans he)
    have getT := get?_of_find? ((find?_eq_find?_spells once').trans hf)
    constructor
    · intro path
      rw [Payload.at?, getR, Option.bind_some]
    · intro path
      rw [Payload.at?, getT, Option.bind_some]
    · intro path
      simp only [Payload.followed, both]

end Counterparts

end Schema

end PlanCompiler
