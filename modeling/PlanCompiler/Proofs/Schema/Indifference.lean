import PlanCompiler.Proofs.Schema.Reading
import PlanCompiler.Proofs.Schema.Respelling

/-!
# Readers that do not mind the spelling

A payload and its respelled form are read side by side. Either both are accepted, as the same value,
or both are rejected with the same faults at the same places, where each place is named as the
payload at hand names it.

* `Issue.Corresponds`: the same fault at the same place of two payloads;
* `Checked.Alike`: two outcomes, and what putting checks together makes of them;
* `Indifferent`: a reader that makes no difference between a payload and a respelled one, for every
  way of reading a value, a list or a field.
-/

namespace PlanCompiler.Schema

/-- The same fault at the same place of two payloads. The value shown is the same, or it is what
each of the payloads has at one place on the way. -/
structure Issue.Corresponds (p q : Payload) (i j : Issue) : Prop where
  fault : j.fault = i.fault
  path : j.path = p.followed q i.path
  value : j.value = i.value ∨ ∃ place, place <+: i.path ∧
    p.at? place = some i.value ∧ q.at? (p.followed q place) = some j.value

namespace Issue.Corresponds

variable {p q p' q' : Payload} {i j : Issue}

theorem refl (p : Payload) (i : Issue) : Issue.Corresponds p p i i :=
  ⟨rfl, (Payload.followed_self p i.path).symm, .inl rfl⟩

/-- A fault of the payloads as a whole. -/
theorem whole (p q : Payload) (fault : Fault) :
    Issue.Corresponds p q { fault, value := p } { fault, value := q } :=
  ⟨rfl, rfl, .inr ⟨[], List.nil_prefix, rfl, rfl⟩⟩

theorem under {step other : Step} (leads : Payload.Leads p q step other p' q')
    (h : Issue.Corresponds p' q' i j) :
    Issue.Corresponds p q (i.under step) (j.under other) := by
  obtain ⟨fault, path, value⟩ := h
  refine ⟨fault, ?_, ?_⟩
  · show other :: j.path = p.followed q (step :: i.path)
    rw [leads.followed, path]
  · refine value.imp id ?_
    rintro ⟨place, before, atP, atQ⟩
    refine ⟨step :: place, List.cons_prefix_cons.2 ⟨rfl, before⟩, ?_, ?_⟩
    · rw [leads.left, atP]
      rfl
    · rw [leads.followed, leads.right, atQ]
      rfl

end Issue.Corresponds

namespace Checked

/-- Two outcomes alike: values that are related, or corresponding issues in the same order. -/
inductive Alike {α β : Type} (Related : α → β → Prop) (p q : Payload) :
    Checked α → Checked β → Prop
  | valid {a : α} {b : β} (related : Related a b) : Alike Related p q (.valid a) (.valid b)
  | invalid {issues others : List Issue}
    (beside : List.Forall₂ (Issue.Corresponds p q) issues others) :
    Alike Related p q (.invalid issues) (.invalid others)

namespace Alike

variable {α β γ δ : Type} {Related : α → β → Prop} {p q p' q' : Payload}

theorem refl (p : Payload) (x : Checked α) : Alike Eq p p x x := by
  cases x with
  | valid a => exact .valid rfl
  | invalid issues =>
    exact .invalid (List.forall₂_same.2 fun i _ => Issue.Corresponds.refl p i)

theorem fail (p q : Payload) (fault : Fault) :
    Alike Related p q (Checked.fail fault p) (Checked.fail fault q) :=
  .invalid (.cons (Issue.Corresponds.whole p q fault) .nil)

theorem andThen {x y : Checked α} {f g : α → Checked γ} (h : Alike Eq p q x y)
    (next : ∀ a, Alike Eq p q (f a) (g a)) : Alike Eq p q (x.andThen f) (y.andThen g) := by
  cases h with
  | valid same => exact same ▸ next _
  | invalid beside => exact .invalid beside

theorem map {Result : γ → δ → Prop} {x : Checked α} {y : Checked β} {f : α → γ} {g : β → δ}
    (h : Alike Related p q x y) (same : ∀ a b, Related a b → Result (f a) (g b)) :
    Alike Result p q (x.map f) (y.map g) := by
  cases h with
  | valid related => exact .valid (same _ _ related)
  | invalid beside => exact .invalid beside

/-- What is known of the accepted values may be used for relating them. -/
theorem strengthen {Result : α → β → Prop} {x : Checked α} {y : Checked β}
    (h : Alike Related p q x y) (more : ∀ a b, x = .valid a → Related a b → Result a b) :
    Alike Result p q x y := by
  cases h with
  | valid related => exact .valid (more _ _ rfl related)
  | invalid beside => exact .invalid beside

theorem seq {Result : γ → δ → Prop} {f : Checked (α → γ)} {g : Checked (β → δ)} {x : Checked α}
    {y : Checked β}
    (hf : Alike (fun f g => ∀ a b, Related a b → Result (f a) (g b)) p q f g)
    (h : Alike Related p q x y) : Alike Result p q (f.seq x) (g.seq y) := by
  cases hf with
  | valid same =>
    cases h with
    | valid related => exact .valid (same _ _ related)
    | invalid beside => exact .invalid beside
  | invalid first =>
    cases h with
    | valid => exact .invalid first
    | invalid second => exact .invalid (List.rel_append first second)

/-- The value of a check, put into the same function. -/
theorem fmap (f : α → γ) {x y : Checked α} (h : Alike Eq p q x y) :
    Alike Eq p q (f <$> x) (f <$> y) :=
  h.map fun _ _ same => congrArg f same

/-- One more check beside those before it. -/
theorem ap {f g : Checked (α → γ)} {x y : Checked α} (hf : Alike Eq p q f g)
    (h : Alike Eq p q x y) : Alike Eq p q (f <*> x) (g <*> y) := by
  have applied : Alike (fun f g => ∀ a b, a = b → f a = g b) p q f g := by
    cases hf with
    | valid same => exact .valid fun a b eq => by rw [same, eq]
    | invalid beside => exact .invalid beside
  exact seq applied h

theorem ensure {x y : Checked α} (h : Alike Eq p q x y) (holds : α → Bool) (fault : Fault) :
    Alike Eq p q (x.ensure holds fault p) (y.ensure holds fault q) := by
  refine h.andThen fun a => ?_
  split
  · exact .valid rfl
  · exact fail p q fault

theorem under {step other : Step} (leads : Payload.Leads p q step other p' q') {x : Checked α}
    {y : Checked β} (h : Alike Related p' q' x y) :
    Alike Related p q (x.under step) (y.under other) := by
  cases h with
  | valid related => exact .valid related
  | invalid beside =>
    refine .invalid ?_
    rw [List.forall₂_map_left_iff, List.forall₂_map_right_iff]
    exact beside.imp fun _ _ => Issue.Corresponds.under leads

theorem all {xs ys : List (Checked α)} (h : List.Forall₂ (Alike Eq p q) xs ys) :
    Alike Eq p q (Checked.all xs) (Checked.all ys) := by
  induction h with
  | nil => exact .valid rfl
  | cons first _ ih => exact ap (first.fmap List.cons) ih

end Alike

end Checked

open Checked (Alike)

/-! ## Values and lists -/

/-- The reader makes no difference between a payload and one respelled along the shape. -/
def Indifferent {α : Type} (shape : Shape) (read : Payload → Checked α) : Prop :=
  ∀ p q : Payload, p.respelled shape q = true → p.spelledOnce shape = true →
    Alike Eq p q (read p) (read q)

variable {α : Type} {shape item : Shape} {read : Payload → Checked α}

/-- Data is never respelled. -/
theorem indifferent_free (read : Payload → Checked α) : Indifferent .free read := by
  intro p q h _
  obtain rfl : p = q := by simpa [Payload.respelled] using h
  exact Alike.refl p (read p)

theorem respelled_null_iff {p q : Payload} (h : p.respelled shape q = true) :
    p = .null ↔ q = .null := by
  cases shape <;> cases p <;> cases q <;> simp_all [Payload.respelled]

theorem Indifferent.nullable (h : Indifferent shape read) :
    Indifferent shape (readNullable read) := by
  intro p q hpq once
  by_cases null : p = .null
  · rw [null, (respelled_null_iff hpq).1 null]
    exact .valid rfl
  · have there {p : Payload} (ne : p ≠ .null) : readNullable read p = (read p).map some := by
      cases p <;> first | exact absurd rfl ne | rfl
    rw [there null, there ((respelled_null_iff hpq).not.1 null)]
    exact (h p q hpq once).fmap some

theorem forall₂_respelledItems {ps qs : List Payload}
    (h : Payload.respelledItems item ps qs = true)
    (once : Payload.spelledOnceItems item ps = true) :
    List.Forall₂ (fun p q => p.respelled item q = true ∧ p.spelledOnce item = true) ps qs := by
  induction ps generalizing qs with
  | nil =>
    cases qs with
    | nil => exact .nil
    | cons q qs => simp [Payload.respelledItems] at h
  | cons p ps ih =>
    cases qs with
    | nil => simp [Payload.respelledItems] at h
    | cons q qs =>
      rw [Payload.respelledItems, Bool.and_eq_true] at h
      rw [Payload.spelledOnceItems, Bool.and_eq_true] at once
      exact .cons ⟨h.1, once.1⟩ (ih h.2 once.2)

theorem Indifferent.list (h : Indifferent item read) :
    Indifferent (.list item) (readList read) := by
  intro p q hpq once
  cases p with
  | list ps =>
    cases q with
    | list qs =>
      rw [Payload.respelled] at hpq
      rw [Payload.spelledOnce] at once
      have beside := forall₂_respelledItems hpq once
      refine Alike.all (List.forall₂_iff_get.2 ⟨by simp [beside.length_eq], fun i hi hi' => ?_⟩)
      simp only [List.length_map, List.length_zipIdx] at hi hi'
      obtain ⟨hvalue, honce⟩ := beside.get hi hi'
      simpa using (h _ _ hvalue honce).under (Payload.leads_item (by simp) (by simp))
    | _ => simp [Payload.respelled] at hpq
  | _ =>
    obtain rfl : _ = q := by simpa [Payload.respelled] using hpq
    exact Alike.refl _ _

/-! ## Fields and records -/

variable {fields : List (Key × Shape)} {r t : Entries Payload} {key : Key}

namespace Counterparts

/-- A name that no field has leads to the same place in both records. -/
theorem followed_of_unknown (h : Counterparts fields r t) {name : String}
    (unknown : ∀ e ∈ r, e.1 = name → ∀ field ∈ fields, field.1.spells name = false)
    (path : List Step) :
    (Payload.record r).followed (.record t) (.field name :: path) = .field name :: path := by
  rw [Payload.followed]
  split
  · rename_i n p other q found
    have mem := List.mem_of_find?_eq_some found
    obtain rfl : n = name := by simpa using List.find?_some found
    have beside : Beside fields (n, p) (other, q) := (List.forall₂_iff_zip.1 h.beside).2 mem
    obtain ⟨same, rfl⟩ := Prod.mk.inj
      (beside.eq_of_unknown (unknown (n, p) (List.of_mem_zip mem).1 rfl))
    rw [← same, Payload.followed_self]
  · rfl

theorem missing (h : Counterparts fields r t) (absent : find? r key = none) :
    Issue.Corresponds (.record r) (.record t) ⟨.missing, [.field key.wire], .record r⟩
      ⟨.missing, [.field key.wire], .record t⟩ := by
  refine ⟨rfl, ?_, .inr ⟨[], List.nil_prefix, rfl, rfl⟩⟩
  have out : key.wire ∉ Entries.keys r :=
    Entries.get?_eq_none_iff.1 (find?_eq_none_iff.1 absent).1
  exact (h.followed_of_unknown (fun e he same =>
    absurd (same ▸ Entries.mem_keys_of_mem he) out) []).symm

theorem mandatory (h : Counterparts fields r t) (key : Key)
    (there : fields.lookup key = some shape) (value : Indifferent shape read) :
    Alike Eq (.record r) (.record t) (mandatory r key read) (mandatory t key read) := by
  rw [Schema.mandatory, Schema.mandatory]
  rcases h.find?_cases (mem_of_lookup there) with
    ⟨inR, inT⟩ | ⟨name, p, other, q, inR, inT, same, once, leads⟩
  · rw [inR, inT]
    exact .invalid (.cons (h.missing inR) .nil)
  · rw [inR, inT]
    exact (value p q same once).under leads

theorem optional (h : Counterparts fields r t) (key : Key)
    (there : fields.lookup key = some shape) (default : α) (value : Indifferent shape read) :
    Alike Eq (.record r) (.record t) (optional r key default read)
      (optional t key default read) := by
  rw [Schema.optional, Schema.optional]
  rcases h.find?_cases (mem_of_lookup there) with
    ⟨inR, inT⟩ | ⟨name, p, other, q, inR, inT, same, once, leads⟩
  · rw [inR, inT]
    exact .valid rfl
  · rw [inR, inT]
    exact (value p q same once).under leads

theorem nullable (h : Counterparts fields r t) (key : Key)
    (there : fields.lookup key = some shape) (value : Indifferent shape read) :
    Alike Eq (.record r) (.record t) (nullable r key read) (nullable t key read) :=
  h.optional key there none value.nullable

end Counterparts

/-- A record is read through its fields; whatever is no record is not respelled. -/
theorem alike_record {β : Type} {Related : α → β → Prop} {p q : Payload}
    {f : Entries Payload → Checked α} {g : Entries Payload → Checked β}
    (distinct : Shape.Distinct fields) (same : p.respelled (.record fields) q = true)
    (once : p.spelledOnce (.record fields) = true)
    (h : ∀ r t, p = .record r → q = .record t → Counterparts fields r t →
      Alike Related p q (f r) (g t)) :
    Alike Related p q ((readRecord p).andThen f) ((readRecord q).andThen g) := by
  rcases counterparts_of_respelled distinct same once with ⟨r, t, rfl, rfl, beside⟩ | ⟨no, rfl⟩
  · exact h r t rfl rfl beside
  · cases p with
    | record r => exact absurd rfl (no r)
    | _ => exact Alike.fail _ _ .notRecord

end PlanCompiler.Schema
