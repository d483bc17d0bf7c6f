import Mathlib.Data.List.Pairwise
import PlanCompiler.Proofs.Entries
import PlanCompiler.Schema.Record

/-!
# Fields under their spellings

No two keys of the schemas have a spelling in common, so a record whose fields stand under spellings
of their keys is looked up by key, whichever spelling each of them has:

* `find?_spelled`: the field of a key in a written record;
* `find?_onlyGivenFields`: what is left of it when only the given fields are kept;
* `find?_of_keyed`: the same for any table all of whose names are spellings of keys;
* `find?_put_wire`, `find?_put_of_apart`: the fields after one of them was put.
-/

namespace PlanCompiler.Schema

namespace Key

/-- The two keys have no spelling in common. -/
def Apart (k l : Key) : Prop :=
  k.wire ≠ l.wire ∧ k.wire ≠ l.plain ∧ k.plain ≠ l.wire ∧ k.plain ≠ l.plain

instance (k l : Key) : Decidable (Apart k l) :=
  inferInstanceAs (Decidable (_ ∧ _))

set_option maxRecDepth 4000 in
theorem pairwise_apart : all.Pairwise Apart := by decide

instance : Std.Symm Apart where
  symm _ _ := fun ⟨ww, wp, pw, pp⟩ => ⟨ww.symm, pw.symm, wp.symm, pp.symm⟩

theorem apart_of_ne {k l : Key} (hk : k ∈ all) (hl : l ∈ all) (ne : k ≠ l) : Apart k l :=
  pairwise_apart.forall hk hl ne

/-- Every key is put in one of its two spellings. -/
def IsSpelling (spell : Key → String) : Prop :=
  ∀ key, spell key = key.wire ∨ spell key = key.plain

theorem isSpelling_wire : IsSpelling wire := fun _ => .inl rfl

theorem isSpelling_plain : IsSpelling plain := fun _ => .inr rfl

variable {spell : Key → String}

theorem spell_inj (hs : IsSpelling spell) {k l : Key} (hk : k ∈ all) (hl : l ∈ all)
    (h : spell k = spell l) : k = l := by
  by_contra ne
  obtain ⟨ww, wp, pw, pp⟩ := apart_of_ne hk hl ne
  rcases hs k with ek | ek <;> rcases hs l with el | el <;> rw [ek, el] at h
  · exact ww h
  · exact wp h
  · exact pw h
  · exact pp h

theorem eq_of_spell_eq_wire (hs : IsSpelling spell) {k l : Key} (hk : k ∈ all) (hl : l ∈ all)
    (h : spell k = l.wire) : k = l := by
  by_contra ne
  obtain ⟨ww, -, pw, -⟩ := apart_of_ne hk hl ne
  rcases hs k with ek | ek <;> rw [ek] at h
  · exact ww h
  · exact pw h

theorem eq_of_spell_eq_plain (hs : IsSpelling spell) {k l : Key} (hk : k ∈ all) (hl : l ∈ all)
    (h : spell k = l.plain) : k = l := by
  by_contra ne
  obtain ⟨-, wp, -, pp⟩ := apart_of_ne hk hl ne
  rcases hs k with ek | ek <;> rw [ek] at h
  · exact wp h
  · exact pp h

/-- A name leads back to the key that it spells. -/
theorem ofSpelling_spell (hs : IsSpelling spell) {key : Key} (known : key ∈ all) :
    ofSpelling spell (spell key) = key := by
  cases h : all.find? fun k => spell k = spell key with
  | none =>
    have := List.find?_eq_none.1 h key known
    simp at this
  | some k =>
    have same : spell k = spell key := by simpa using List.find?_some h
    rw [ofSpelling, h, Option.getD_some]
    exact spell_inj hs (List.mem_of_find?_eq_some h) known same

end Key

open Key

variable {spell : Key → String} {t given : Entries Payload} {key : Key}

/-- Every name in the table is the spelling of a key. -/
def IsKeyed (spell : Key → String) (t : Entries Payload) : Prop :=
  ∀ name ∈ Entries.keys t, ∃ k ∈ all, spell k = name

theorem find?_of_keyed (hs : IsSpelling spell) (keyed : IsKeyed spell t) (known : key ∈ all) :
    find? t key = (Entries.get? t (spell key)).map fun p => (spell key, p) := by
  -- A spelling other than the one in use is no name of the table.
  have unused {name : String} (other : spell key ≠ name)
      (own : ∀ k ∈ all, spell k = name → k = key) : Entries.get? t name = none := by
    rw [Entries.get?_eq_none_iff]
    intro mem
    obtain ⟨k, hk, rfl⟩ := keyed name mem
    exact other (own k hk rfl ▸ rfl)
  rw [find?]
  by_cases hw : spell key = key.wire
  · rw [← hw]
    cases h : Entries.get? t (spell key) with
    | some p => rfl
    | none =>
      by_cases hp : spell key = key.plain
      · rw [← hp, h]
      · rw [unused hp fun k hk e => eq_of_spell_eq_plain hs hk known e]
        rfl
  · have hp : spell key = key.plain := (hs key).resolve_left hw
    rw [unused hw fun k hk e => eq_of_spell_eq_wire hs hk known e, ← hp]

/-! ## Written records -/

theorem keys_spelled (fields : List (Key × Payload)) :
    Entries.keys (spelled spell fields) = fields.map fun field => spell field.1 := by
  simp [Entries.keys, spelled]

theorem isKeyed_spelled {fields : List (Key × Payload)} (known : fields.map Prod.fst ⊆ all) :
    IsKeyed spell (spelled spell fields) := by
  intro name mem
  rw [keys_spelled] at mem
  obtain ⟨field, hf, rfl⟩ := List.mem_map.1 mem
  exact ⟨field.1, known (List.mem_map_of_mem hf), rfl⟩

theorem get?_spelled (hs : IsSpelling spell) {fields : List (Key × Payload)}
    (known : fields.map Prod.fst ⊆ all) (hk : key ∈ all) :
    Entries.get? (spelled spell fields) (spell key) = fields.lookup key := by
  induction fields with
  | nil => rfl
  | cons field rest ih =>
    obtain ⟨k, p⟩ := field
    rw [List.map_cons, List.cons_subset] at known
    have step : spelled spell ((k, p) :: rest) = (spell k, p) :: spelled spell rest := rfl
    rw [step, Entries.get?_cons, ih known.2, List.lookup_cons]
    by_cases same : k = key
    · subst k
      simp
    · have ne : spell k ≠ spell key := fun h => same (spell_inj hs known.1 hk h)
      have ne' : (key == k) = false := beq_eq_false_iff_ne.2 (Ne.symm same)
      rw [if_neg ne, ne']

/-- In a written record a key is found under the spelling in which it was written. -/
theorem find?_spelled (hs : IsSpelling spell) {fields : List (Key × Payload)}
    (known : fields.map Prod.fst ⊆ all) (hk : key ∈ all) :
    find? (spelled spell fields) key = (fields.lookup key).map fun p => (spell key, p) := by
  rw [find?_of_keyed hs (isKeyed_spelled known) hk, get?_spelled hs known hk]

/-! ## What was given of a written record -/

theorem mem_keys_of_mem_onlyGivenFields {name : String} {written : Entries Payload}
    (h : name ∈ Entries.keys (onlyGivenFields spell given written)) :
    name ∈ Entries.keys written := by
  induction written with
  | nil => simp [onlyGivenFields] at h
  | cons entry rest ih =>
    obtain ⟨n, p⟩ := entry
    rw [onlyGivenFields] at h
    rw [Entries.keys_cons]
    split at h
    · rw [Entries.keys_cons] at h
      rcases List.mem_cons.1 h with same | later
      · exact same ▸ List.mem_cons_self
      · exact List.mem_cons_of_mem _ (ih later)
    · exact List.mem_cons_of_mem _ (ih h)

theorem nodup_keys_onlyGivenFields {written : Entries Payload}
    (distinct : (Entries.keys written).Nodup) :
    (Entries.keys (onlyGivenFields spell given written)).Nodup := by
  induction written with
  | nil => simp [onlyGivenFields]
  | cons entry rest ih =>
    obtain ⟨n, p⟩ := entry
    rw [Entries.keys_cons, List.nodup_cons] at distinct
    rw [onlyGivenFields]
    split
    · rw [Entries.keys_cons, List.nodup_cons]
      exact ⟨fun h => distinct.1 (mem_keys_of_mem_onlyGivenFields h), ih distinct.2⟩
    · exact ih distinct.2

theorem get?_onlyGivenFields (written : Entries Payload) (name : String) :
    Entries.get? (onlyGivenFields spell given written) name =
      (find? given (ofSpelling spell name)).bind fun source =>
        (Entries.get? written name).map (onlyGiven spell source.2) := by
  induction written with
  | nil => cases find? given (ofSpelling spell name) <;> simp [onlyGivenFields]
  | cons entry rest ih =>
    obtain ⟨n, p⟩ := entry
    rw [onlyGivenFields, Entries.get?_cons]
    by_cases same : n = name
    · subst n
      cases h : find? given (ofSpelling spell name) with
      | none => simp [ih, h]
      | some source => simp [Entries.get?_cons]
    · rw [if_neg same, ← ih]
      split
      · rw [Entries.get?_cons, if_neg same]
      · rfl

/-- Of a written record the fields are left whose key was given. -/
theorem find?_onlyGivenFields (hs : IsSpelling spell) {fields : List (Key × Payload)}
    (known : fields.map Prod.fst ⊆ all) (hk : key ∈ all) :
    find? (onlyGivenFields spell given (spelled spell fields)) key =
      (find? given key).bind fun source =>
        (fields.lookup key).map fun p => (spell key, onlyGiven spell source.2 p) := by
  have keyed : IsKeyed spell (onlyGivenFields spell given (spelled spell fields)) :=
    fun name mem => isKeyed_spelled known name (mem_keys_of_mem_onlyGivenFields mem)
  rw [find?_of_keyed hs keyed hk, get?_onlyGivenFields, ofSpelling_spell hs hk,
    get?_spelled hs known hk]
  cases find? given key with
  | none => rfl
  | some source => cases fields.lookup key <;> rfl

/-! ## Fields that are put -/

section Put

variable {r : Entries Payload} {other : Key} {p : Payload}

/-- A field that is put under the spelling of its key on the wire is found, whether or not the other
spelling is taken. -/
theorem find?_put_wire (r : Entries Payload) (key : Key) (p : Payload) :
    find? (Entries.put r key.wire p) key = some (key.wire, p) := by
  rw [find?, Entries.get?_put, if_pos rfl]

theorem find?_put_of_apart (apart : Apart key other) :
    find? (Entries.put r key.wire p) other = find? r other := by
  rw [find?, find?, Entries.get?_put, Entries.get?_put, if_neg apart.1, if_neg apart.2.1]

theorem optional_put_of_apart {α : Type} (apart : Apart key other) (default : α)
    (read : Payload → Checked α) :
    optional (Entries.put r key.wire p) other default read = optional r other default read := by
  rw [optional, optional, find?_put_of_apart apart]

theorem nullable_put_of_apart {α : Type} (apart : Apart key other) (read : Payload → Checked α) :
    nullable (Entries.put r key.wire p) other read = nullable r other read :=
  optional_put_of_apart apart none (readNullable read)

end Put

end PlanCompiler.Schema
