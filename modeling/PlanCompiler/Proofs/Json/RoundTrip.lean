import PlanCompiler.Proofs.Entries
import PlanCompiler.Proofs.Json.Numerals
import PlanCompiler.Proofs.Json.Texts
import PlanCompiler.Proofs.Text.Run

/-!
# Written JSON reads back

A payload is read back from its written form with the same keys in the same order, the same texts,
integers and truth values, and a floating-point number wherever one was written (`readWhole_write`).
What is asked of the payload is that its texts are legible, that no record has a key twice, and that
its integers and its nesting are within the limits of the reader.
-/

namespace PlanCompiler

namespace Payload

mutual

/-- The payload with one floating-point number in the place of all. -/
def masked : Payload → Payload
  | .double _ => .double .nan
  | .list items => .list (maskedItems items)
  | .record fields => .record (maskedFields fields)
  | p => p

/-- `masked` for every item. -/
def maskedItems : List Payload → List Payload
  | [] => []
  | item :: rest => masked item :: maskedItems rest

/-- `masked` for every value. -/
def maskedFields : List (String × Payload) → List (String × Payload)
  | [] => []
  | (key, value) :: rest => (key, masked value) :: maskedFields rest

end

theorem maskedFields_eq_mapValues (fields : Entries Payload) :
    maskedFields fields = Entries.mapValues masked fields := by
  induction fields with
  | nil => rfl
  | cons field fields ih => exact congrArg ((field.1, masked field.2) :: ·) ih

/-- Fields that agree but for their floating-point numbers have the same keys in the same order. -/
theorem keys_eq_of_maskedFields {fields others : Entries Payload}
    (h : maskedFields fields = maskedFields others) :
    Entries.keys fields = Entries.keys others := by
  have keys := congrArg Entries.keys h
  rwa [maskedFields_eq_mapValues, maskedFields_eq_mapValues, Entries.keys_mapValues,
    Entries.keys_mapValues] at keys

theorem masked_eq_text_iff {p : Payload} {s : String} : masked p = .text s ↔ p = .text s := by
  cases p <;> simp [masked]

/-- Fields that agree but for their floating-point numbers hold the same texts. -/
theorem get?_text_of_maskedFields {fields others : Entries Payload} {key s : String}
    (h : maskedFields fields = maskedFields others)
    (found : Entries.get? others key = some (.text s)) :
    Entries.get? fields key = some (.text s) := by
  have values := congrArg (Entries.get? · key) h
  simp only [maskedFields_eq_mapValues, Entries.get?_mapValues, found, Option.map_some] at values
  obtain ⟨p, there, same⟩ := Option.map_eq_some_iff.1 values
  rw [there, masked_eq_text_iff.1 same]

end Payload

namespace Json

open Text
open Payload (masked maskedItems maskedFields levelsItems levelsFields longestInteger
  longestIntegerItems longestIntegerFields)

mutual

/-- A reader takes the payload apart again, as far as that does not depend on its limits: the texts
and keys are legible, and no record has a key twice. -/
def isLegible : Payload → Bool
  | .text value => Text.isLegible value.toList
  | .list items => isLegibleItems items
  | .record fields => decide (Entries.keys fields).Nodup && isLegibleFields fields
  | _ => true

/-- `isLegible` for every item. -/
def isLegibleItems : List Payload → Bool
  | [] => true
  | item :: rest => isLegible item && isLegibleItems rest

/-- `isLegible` for every value, and every key is legible. -/
def isLegibleFields : List (String × Payload) → Bool
  | [] => true
  | (key, value) :: rest =>
    Text.isLegible key.toList && isLegible value && isLegibleFields rest

end

theorem isLegibleFields_iff {fields : List (String × Payload)} :
    isLegibleFields fields = true ↔
      ∀ field ∈ fields, Text.isLegible field.1.toList = true ∧ isLegible field.2 = true := by
  induction fields with
  | nil => simp [isLegibleFields]
  | cons field fields ih =>
    simp only [isLegibleFields, Bool.and_eq_true, List.forall_mem_cons, ih]

variable {limits : Limits} {bound levels : Nat} {c : Char} {p : Payload} {rest after : List Char}

/-! ## How values begin -/

/-- What a value begins with that is neither a text nor a list nor a record. -/
def StartsPlain (c : Char) : Prop :=
  Binary64.isDigit c = true ∨ c ∈ "-ntfNI".toList

/-- What a value begins with. -/
def StartsValue (c : Char) : Prop :=
  StartsPlain c ∨ c ∈ "\"[\x7b".toList

instance (c : Char) : Decidable (StartsPlain c) :=
  inferInstanceAs (Decidable (_ ∨ _))

instance (c : Char) : Decidable (StartsValue c) :=
  inferInstanceAs (Decidable (_ ∨ _))

/-- The first character of the text is such a one. -/
def Begins (P : Char → Prop) (s : List Char) : Prop :=
  ∃ c rest, s = c :: rest ∧ P c

section Begins

variable {P Q : Char → Prop} {s : List Char}

theorem Begins.imp (h : Begins P s) (weaker : ∀ c, P c → Q c) : Begins Q s :=
  let ⟨c, rest, found, first⟩ := h
  ⟨c, rest, found, weaker c first⟩

theorem Begins.append (h : Begins P s) (t : List Char) : Begins P (s ++ t) :=
  let ⟨c, rest, found, first⟩ := h
  ⟨c, rest ++ t, congrArg (· ++ t) found, first⟩

theorem Begins.joined (h : Begins P s) (separator : List Char) (others : List (List Char)) :
    Begins P (joined separator (s :: others)) := by
  obtain ⟨c, rest, rfl, first⟩ := h
  exact ⟨c, _, joined_append_cons separator [c] rest others, first⟩

end Begins

theorem startsPlain_signed {ds : List Char} (h : Binary64.IsWhole ds) (negative : Bool)
    (more : List Char) :
    Begins StartsPlain ((if negative then ['-'] else []) ++ (ds ++ more)) := by
  obtain ⟨first, others, rfl, digit⟩ := exists_cons_of_isWhole h
  cases negative with
  | false => exact ⟨first, _, rfl, .inl digit⟩
  | true => exact ⟨'-', _, rfl, by decide⟩

theorem startsPlain_integer (value : Int) : Begins StartsPlain (toString value).toList := by
  have starts := startsPlain_signed (Binary64.isWhole_toDigits value.natAbs) (decide (value < 0)) []
  simp only [decide_eq_true_eq, List.append_nil] at starts
  rwa [Binary64.toList_toString_int]

theorem startsPlain_double (x : Binary64) : Begins StartsPlain (writeDouble x) := by
  cases x with
  | nan => exact ⟨_, _, rfl, by decide⟩
  | infinite negative => cases negative <;> exact ⟨_, _, rfl, by decide⟩
  | finite negative significand exponent =>
    obtain ⟨n, -, written⟩ := Binary64.exists_numeral_text negative significand exponent
    rw [show writeDouble (.finite negative significand exponent) = _ from written]
    exact startsPlain_signed n.isWhole negative _

theorem startsValue_write (p : Payload) : Begins StartsValue (write p) := by
  cases p with
  | null => exact ⟨_, _, rfl, by decide⟩
  | boolean value => cases value <;> exact ⟨_, _, rfl, by decide⟩
  | integer value => exact (startsPlain_integer value).imp fun _ => .inl
  | double value => exact (startsPlain_double value).imp fun _ => .inl
  | text value => exact ⟨_, _, rfl, by decide⟩
  | list items => exact ⟨_, _, rfl, by decide⟩
  | record fields => exact ⟨_, _, rfl, by decide⟩

/-- No blank stands before a value. -/
theorem skip_of_startsValue {s : List Char} (starts : Begins StartsValue s) : skip s = s := by
  obtain ⟨c, rest, rfl, h⟩ := starts
  refine List.dropWhile_cons_of_neg fun separator => ?_
  have others : ∀ d ∈ [' ', '\t', '\n', '\r'], ¬ StartsValue d :=
    forall_mem_of_all (by decide)
  refine others c ?_ h
  simpa [isSeparator, or_assoc] using separator

theorem readValue_of_startsPlain (h : StartsPlain c) (rest : List Char) :
    readValue limits (bound + 1) levels (c :: rest) = readPlain limits (c :: rest) := by
  have others : ∀ d ∈ ['"', '[', '\x7b'], ¬ StartsPlain d :=
    forall_mem_of_all (by decide)
  have ne {d : Char} {tail : List Char} (mem : d ∈ ['"', '[', '\x7b']) : c :: rest ≠ d :: tail :=
    fun same => others d mem ((List.cons.inj same).1 ▸ h)
  exact readValue.eq_7 limits levels (c :: rest) bound (fun _ => ne (by decide))
    (fun _ same _ => ne (by decide) same) (fun _ _ same _ => ne (by decide) same)
    (fun _ same _ => ne (by decide) same) (fun _ _ same _ => ne (by decide) same)

/-! ## Values -/

/-- Reading the written form of a payload within the limits gives the payload back, whatever follows
it. The written form is long enough to bound the recursion of its reading. -/
def ReadsBack (limits : Limits) (p : Payload) : Prop :=
  ∀ ⦃bound levels after⦄, p.levels 0 ≤ levels → longestInteger p ≤ limits.digits →
    (write p).length ≤ bound → EndsValue after →
    ∃ q, readValue limits bound levels (write p ++ after) = .ok (q, after) ∧ masked q = masked p

/-- What is neither a text nor a list nor a record is read by its own reader. -/
theorem readsBack_of_readPlain (starts : Begins StartsPlain (write p))
    (reads : longestInteger p ≤ limits.digits → ∀ ⦃after⦄, EndsValue after →
      ∃ q, readPlain limits (write p ++ after) = .ok (q, after) ∧ masked q = masked p) :
    ReadsBack limits p := by
  intro bound levels after _ few enough ends
  obtain ⟨c, rest, found, plain⟩ := starts
  obtain ⟨bound, rfl⟩ : ∃ n, bound = n + 1 := by
    rw [found, List.length_cons] at enough
    exact ⟨bound - 1, by omega⟩
  have step := reads few ends
  rwa [found, List.cons_append, ← readValue_of_startsPlain plain, ← List.cons_append,
    ← found] at step

theorem readsBack_null : ReadsBack limits .null :=
  readsBack_of_readPlain ⟨_, _, rfl, by decide⟩ fun _ _ _ => ⟨.null, rfl, rfl⟩

theorem readsBack_boolean (value : Bool) : ReadsBack limits (.boolean value) := by
  cases value <;> exact readsBack_of_readPlain ⟨_, _, rfl, by decide⟩ fun _ _ _ => ⟨_, rfl, rfl⟩

theorem readsBack_integer (value : Int) : ReadsBack limits (.integer value) :=
  readsBack_of_readPlain (startsPlain_integer value) fun few _ ends =>
    ⟨.integer value, readPlain_integer few ends, rfl⟩

theorem readsBack_double (value : Binary64) : ReadsBack limits (.double value) :=
  readsBack_of_readPlain (startsPlain_double value) fun _ _ ends =>
    let ⟨y, read⟩ := exists_readPlain_double value ends
    ⟨.double y, read, rfl⟩

theorem readsBack_text {value : String} (legible : Text.isLegible value.toList = true) :
    ReadsBack limits (.text value) := by
  intro bound levels after _ _ enough _
  obtain ⟨bound, rfl⟩ : ∃ n, bound = n + 1 := by
    rw [write, writeText, List.cons_append, List.length_cons] at enough
    exact ⟨bound - 1, by omega⟩
  obtain ⟨rest, written, read⟩ := exists_writeText_append_eq legible after
  refine ⟨.text value, ?_, rfl⟩
  rw [write, written, readValue, read]

/-! ## Lists -/

theorem endsValue_cons (h : c = ',' ∨ c = ']' ∨ c = '\x7d') (rest : List Char) :
    EndsValue (c :: rest) := by
  rintro _ ⟨⟩
  exact h

/-- What begins as a value is no closing bracket: there are items to read. -/
theorem readValue_bracket {s : List Char} (starts : Begins StartsValue s) :
    readValue limits (bound + 1) (levels + 1) ('[' :: s) = readItems limits bound levels [] s := by
  rw [readValue, skip_of_startsValue starts]
  obtain ⟨c, rest, rfl, h⟩ := starts
  split
  · rename_i closing
    rw [(List.cons.inj closing).1] at h
    exact absurd h (by decide)
  · rfl

theorem startsValue_items (item : Payload) (items : List Payload) (tail : List Char) :
    Begins StartsValue (joined ", ".toList (writeItems (item :: items)) ++ tail) :=
  ((startsValue_write item).joined _ _).append tail

theorem readItems_last {s : List Char} {q : Payload}
    (read : readValue limits bound levels s = .ok (q, ']' :: after)) (done : List Payload) :
    readItems limits (bound + 1) levels done s = .ok (.list (done.reverse ++ [q]), after) := by
  rw [readItems, read, ← List.reverse_cons]
  rfl

theorem readItems_next {s : List Char} {q : Payload}
    (read : readValue limits bound levels s = .ok (q, ',' :: rest)) (done : List Payload) :
    readItems limits (bound + 1) levels done s =
      readItems limits bound levels (q :: done) (skip rest) := by
  rw [readItems, read]
  rfl

/-- Items are read one after another up to the closing bracket. -/
theorem readItems_write {items : List Payload} (filled : items ≠ [])
    (reads : ∀ item ∈ items, ReadsBack limits item) (low : levelsItems 0 items ≤ levels)
    (few : longestIntegerItems items ≤ limits.digits)
    (enough : (joined ", ".toList (writeItems items)).length < bound) (done : List Payload)
    (after : List Char) :
    ∃ qs, readItems limits bound levels done
        (joined ", ".toList (writeItems items) ++ ']' :: after) =
          .ok (.list (done.reverse ++ qs), after) ∧ maskedItems qs = maskedItems items := by
  induction items generalizing bound done with
  | nil => exact absurd rfl filled
  | cons item items ih =>
    obtain ⟨here, others⟩ := List.forall_mem_cons.1 reads
    obtain ⟨bound, rfl⟩ : ∃ n, bound = n + 1 := ⟨bound - 1, by omega⟩
    rw [levelsItems, Nat.max_le] at low
    rw [longestIntegerItems, Nat.max_le] at few
    cases items with
    | nil =>
      obtain ⟨q, read, same⟩ :=
        here low.1 few.1 (Nat.le_of_lt_succ enough) (endsValue_cons (.inr (.inl rfl)) after)
      exact ⟨[q], readItems_last read done, by rw [maskedItems, same]; rfl⟩
    | cons next items =>
      let text := joined ", ".toList (writeItems (next :: items)) ++ ']' :: after
      have shape : joined ", ".toList (writeItems (item :: next :: items)) ++ ']' :: after =
          write item ++ ',' :: ' ' :: text := by simp [writeItems, joined_cons_cons, text]
      have lengths := congrArg List.length shape
      simp only [List.length_append, List.length_cons, text] at lengths
      obtain ⟨q, read, same⟩ :=
        here low.1 few.1 (by omega : _ ≤ bound) (endsValue_cons (.inl rfl) (' ' :: text))
      obtain ⟨qs, readOthers, sameOthers⟩ :=
        ih (List.cons_ne_nil _ _) others low.2 few.2 (by omega : _ < bound) (q :: done)
      have skipped : skip (' ' :: text) = text :=
        skip_of_startsValue (startsValue_items next items _)
      refine ⟨q :: qs, ?_, by rw [maskedItems, same, sameOthers]; rfl⟩
      rw [shape, readItems_next read, skipped, readOthers, List.reverse_cons, List.append_assoc]
      rfl

theorem readsBack_list {items : List Payload} (reads : ∀ item ∈ items, ReadsBack limits item) :
    ReadsBack limits (.list items) := by
  intro bound levels after low few enough _
  rw [Payload.levels] at low
  rw [longestInteger] at few
  obtain ⟨levels, rfl⟩ : ∃ n, levels = n + 1 := ⟨levels - 1, by omega⟩
  simp only [write, List.length_append, List.length_cons, List.length_nil] at enough
  obtain ⟨bound, rfl⟩ : ∃ n, bound = n + 1 := ⟨bound - 1, by omega⟩
  cases items with
  | nil => exact ⟨.list [], rfl, rfl⟩
  | cons item items =>
    have shape : write (.list (item :: items)) ++ after =
        '[' :: (joined ", ".toList (writeItems (item :: items)) ++ ']' :: after) := by
      simp [write]
    obtain ⟨qs, read, same⟩ := readItems_write (List.cons_ne_nil item items) reads
      (Nat.le_of_succ_le_succ low) few (by omega : _ < bound) [] after
    refine ⟨.list qs, ?_, by rw [masked, masked, same]⟩
    rw [shape, readValue_bracket (startsValue_items item items _), read]
    rfl

/-! ## Records -/

section Fields

variable {key : String} {s t more : List Char} {q : Payload} {done : Entries Payload}

theorem readFields_last (readKey : ∀ opening, readText opening [] t = .ok (key, ':' :: ' ' :: s))
    (skipped : skip s = s) (read : readValue limits bound levels s = .ok (q, '\x7d' :: after)) :
    readFields limits (bound + 1) levels done ('"' :: t) =
      .ok (.record (Entries.put done key q), after) := by
  have value : readValue limits bound levels (skip (' ' :: s)) = _ := skipped ▸ read
  have colon : skip (':' :: ' ' :: s) = ':' :: ' ' :: s := rfl
  simp only [readFields, readKey, colon, value]
  rfl

theorem readFields_next (readKey : ∀ opening, readText opening [] t = .ok (key, ':' :: ' ' :: s))
    (skipped : skip s = s) (read : readValue limits bound levels s = .ok (q, ',' :: more)) :
    readFields limits (bound + 1) levels done ('"' :: t) =
      readFields limits bound levels (Entries.put done key q) (skip more) := by
  have value : readValue limits bound levels (skip (' ' :: s)) = _ := skipped ▸ read
  have colon : skip (':' :: ' ' :: s) = ':' :: ' ' :: s := rfl
  simp only [readFields, readKey, colon, value]
  rfl

end Fields

theorem startsValue_fields (field : String × Payload) (fields : List (String × Payload))
    (tail : List Char) :
    Begins StartsValue (joined ", ".toList (writeFields (field :: fields)) ++ tail) := by
  have key : Begins StartsValue (writeText field.1) := ⟨'"', _, rfl, by decide⟩
  exact (((key.append _).append _).joined _ _).append tail

/-- What begins as a value is no closing brace: there are fields to read. -/
theorem readValue_brace {s : List Char} (starts : Begins StartsValue s) :
    readValue limits (bound + 1) (levels + 1) ('\x7b' :: s) =
      readFields limits bound levels [] s := by
  rw [readValue, skip_of_startsValue starts]
  obtain ⟨c, rest, rfl, h⟩ := starts
  split
  · rename_i closing
    rw [(List.cons.inj closing).1] at h
    exact absurd h (by decide)
  · rfl

/-- Fields are read one after another up to the closing brace. Their keys are new, so that each of
them goes to the end of those already read. -/
theorem readFields_write {fields : Entries Payload} (filled : fields ≠ [])
    (reads : ∀ field ∈ fields, Text.isLegible field.1.toList = true ∧ ReadsBack limits field.2)
    (low : levelsFields 0 fields ≤ levels) (few : longestIntegerFields fields ≤ limits.digits)
    (enough : (joined ", ".toList (writeFields fields)).length < bound) {done : Entries Payload}
    (distinct : (Entries.keys (done ++ fields)).Nodup) (after : List Char) :
    ∃ qs, readFields limits bound levels done
        (joined ", ".toList (writeFields fields) ++ '\x7d' :: after) =
          .ok (.record (done ++ qs), after) ∧ maskedFields qs = maskedFields fields := by
  induction fields generalizing bound done with
  | nil => exact absurd rfl filled
  | cons field fields ih =>
    obtain ⟨⟨legible, here⟩, others⟩ := List.forall_mem_cons.1 reads
    obtain ⟨bound, rfl⟩ : ∃ n, bound = n + 1 := ⟨bound - 1, by omega⟩
    obtain ⟨key, value⟩ := field
    rw [levelsFields, Nat.max_le] at low
    rw [longestIntegerFields, Nat.max_le] at few
    have skipped (tail : List Char) : skip (write value ++ tail) = write value ++ tail :=
      skip_of_startsValue ((startsValue_write value).append tail)
    have put (q : Payload) : Entries.put done key q = done ++ [(key, q)] := by
      refine Entries.put_of_not_contains q ?_
      rw [Entries.keys, List.map_append, List.nodup_append] at distinct
      rw [← Bool.not_eq_true, Entries.contains_iff_mem_keys]
      exact fun old => distinct.2.2 key old key List.mem_cons_self rfl
    cases fields with
    | nil =>
      obtain ⟨t, shape, readKey⟩ :=
        exists_writeText_append_eq legible (':' :: ' ' :: (write value ++ '\x7d' :: after))
      have written : joined ", ".toList (writeFields [(key, value)]) ++ '\x7d' :: after =
          '"' :: t := by
        rw [← shape]
        simp [writeFields, joined]
      have lengths : (write value).length ≤ bound := by
        simp only [writeFields, joined, List.length_append] at enough
        omega
      obtain ⟨q, read, same⟩ := here low.1 few.1 lengths (endsValue_cons (.inr (.inr rfl)) after)
      refine ⟨[(key, q)], ?_, by rw [maskedFields, same]; rfl⟩
      rw [written, readFields_last readKey (skipped _) read, put]
    | cons next fields =>
      let text := joined ", ".toList (writeFields (next :: fields)) ++ '\x7d' :: after
      obtain ⟨t, shape, readKey⟩ :=
        exists_writeText_append_eq legible (':' :: ' ' :: (write value ++ ',' :: ' ' :: text))
      have written : joined ", ".toList (writeFields ((key, value) :: next :: fields)) ++
          '\x7d' :: after = '"' :: t := by
        rw [← shape]
        simp [writeFields, joined_cons_cons, text]
      have lengths : (write value).length ≤ bound ∧
          (joined ", ".toList (writeFields (next :: fields))).length < bound := by
        have separator : ", ".toList.length = 2 := rfl
        have more : writeFields (next :: fields) ≠ [] := List.cons_ne_nil _ _
        rw [writeFields, joined_cons_of_ne_nil more] at enough
        simp only [List.length_append, separator] at enough
        omega
      obtain ⟨q, read, same⟩ := here low.1 few.1 lengths.1 (endsValue_cons (.inl rfl) (' ' :: text))
      have assoc (more : Entries Payload) :
          done ++ [(key, q)] ++ more = done ++ (key, q) :: more := List.append_assoc ..
      have distinct : (Entries.keys (done ++ [(key, q)] ++ next :: fields)).Nodup := by
        rw [assoc]
        simpa [Entries.keys] using distinct
      obtain ⟨qs, readOthers, sameOthers⟩ :=
        ih (List.cons_ne_nil _ _) others low.2 few.2 lengths.2 distinct
      have skippedText : skip (' ' :: text) = text :=
        skip_of_startsValue (startsValue_fields next fields _)
      refine ⟨(key, q) :: qs, ?_, by rw [maskedFields, same, sameOthers]; rfl⟩
      rw [written, readFields_next readKey (skipped _) read, put, skippedText, readOthers, assoc]

theorem readsBack_record {fields : Entries Payload}
    (reads : ∀ field ∈ fields, Text.isLegible field.1.toList = true ∧ ReadsBack limits field.2)
    (distinct : (Entries.keys fields).Nodup) : ReadsBack limits (.record fields) := by
  intro bound levels after low few enough _
  rw [Payload.levels] at low
  rw [longestInteger] at few
  obtain ⟨levels, rfl⟩ : ∃ n, levels = n + 1 := ⟨levels - 1, by omega⟩
  simp only [write, List.length_append, List.length_cons, List.length_nil] at enough
  obtain ⟨bound, rfl⟩ : ∃ n, bound = n + 1 := ⟨bound - 1, by omega⟩
  cases fields with
  | nil => exact ⟨.record [], rfl, rfl⟩
  | cons field fields =>
    have shape : write (.record (field :: fields)) ++ after =
        '\x7b' :: (joined ", ".toList (writeFields (field :: fields)) ++ '\x7d' :: after) := by
      simp [write]
    have alone : (Entries.keys ([] ++ field :: fields)).Nodup := distinct
    obtain ⟨qs, read, same⟩ := readFields_write (List.cons_ne_nil field fields) reads
      (Nat.le_of_succ_le_succ low) few (by omega : _ < bound) alone after
    refine ⟨.record qs, ?_, by rw [masked, masked, same]⟩
    rw [shape, readValue_brace (startsValue_fields field fields _), read]
    rfl

/-! ## All payloads -/

mutual

theorem readsBack_of_isLegible :
    (p : Payload) → isLegible p = true → ReadsBack limits p
  | .null, _ => readsBack_null
  | .boolean value, _ => readsBack_boolean value
  | .integer value, _ => readsBack_integer value
  | .double value, _ => readsBack_double value
  | .text _, legible => readsBack_text legible
  | .list items, legible => readsBack_list (forall_readsBack_items items legible)
  | .record fields, legible =>
    let ⟨distinct, legible⟩ := Bool.and_eq_true_iff.1 legible
    readsBack_record (forall_readsBack_fields fields legible) (of_decide_eq_true distinct)

theorem forall_readsBack_items :
    (items : List Payload) → isLegibleItems items = true →
      ∀ item ∈ items, ReadsBack limits item
  | [], _ => fun _ h => absurd h List.not_mem_nil
  | item :: rest, legible =>
    let ⟨here, others⟩ := Bool.and_eq_true_iff.1 legible
    List.forall_mem_cons.2 ⟨readsBack_of_isLegible item here, forall_readsBack_items rest others⟩

theorem forall_readsBack_fields :
    (fields : List (String × Payload)) → isLegibleFields fields = true →
      ∀ field ∈ fields, Text.isLegible field.1.toList = true ∧ ReadsBack limits field.2
  | [], _ => fun _ h => absurd h List.not_mem_nil
  | (_, value) :: rest, legible =>
    let ⟨here, others⟩ := Bool.and_eq_true_iff.1 legible
    let ⟨key, here⟩ := Bool.and_eq_true_iff.1 here
    List.forall_mem_cons.2
      ⟨⟨key, readsBack_of_isLegible value here⟩, forall_readsBack_fields rest others⟩

end

/-- A whole document that is a written payload within the limits. -/
theorem readWhole_write (legible : isLegible p = true) (fits : p.Fits limits 0) :
    ∃ q, readWhole limits (write p) = .ok q ∧ masked q = masked p := by
  have enough : (write p).length ≤ recursionBound (write p) := by
    unfold recursionBound
    omega
  have ends : EndsValue [] := fun _ none => by cases none
  obtain ⟨q, read, same⟩ := readsBack_of_isLegible p legible fits.1 fits.2 enough ends
  rw [List.append_nil] at read
  refine ⟨q, ?_, same⟩
  rw [readWhole, skip_of_startsValue (startsValue_write p), read]
  rfl

end Json

end PlanCompiler
