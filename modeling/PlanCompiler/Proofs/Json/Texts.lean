import Mathlib.Data.List.Basic
import PlanCompiler.Json.Line
import PlanCompiler.Json.Reader

/-!
# Written texts read back

A text is read from its written form exactly as it is (`readText_escapes`, `readText_writeText`),
whichever of its code points needed an escape. There is one exception: a lone high surrogate right
before a lone low one is written by the escapes of the character that the two stand for, and is read
as that character. A text without such a place is legible (`isLegible`).
-/

namespace PlanCompiler.Text

/-- No high half of a pair stands right before a low half. -/
def isApart : List Nat → Bool
  | code :: next :: rest =>
    !(isHighSurrogate code && isLowSurrogate next) && isApart (next :: rest)
  | _ => true

/-- The characters keep a text, and no two of its code points are the halves of one pair. -/
def isLegible (s : List Char) : Bool :=
  kept (codes s) = s && isApart (codes s)

theorem isLegible_iff {s : List Char} :
    isLegible s = true ↔ kept (codes s) = s ∧ isApart (codes s) = true := by
  rw [isLegible, Bool.and_eq_true, decide_eq_true_eq]

theorem singleCode_lt (c : Char) : singleCode c < codeBound := by
  have bound : c.toNat < codeBound := by
    have := c.valid
    unfold codeBound Char.toNat
    unfold UInt32.isValidChar Nat.isValidChar at this
    omega
  unfold singleCode
  split <;> omega

theorem codes_lt (s : List Char) : ∀ code ∈ codes s, code < codeBound := by
  fun_induction codes s with
  | case1 => exact fun _ h => absurd h List.not_mem_nil
  | case2 c => exact List.forall_mem_singleton.2 (singleCode_lt c)
  | case3 c next rest pair ih =>
    refine List.forall_mem_cons.2 ⟨?_, ih⟩
    rw [Bool.and_eq_true, isLead_iff, isTrail_iff] at pair
    unfold reservedCode codeBound
    unfold reservedStart at *
    omega
  | case4 c next rest _ ih => exact List.forall_mem_cons.2 ⟨singleCode_lt c, ih⟩

/-! ## ASCII -/

theorem keptCode_of_ascii {code : Nat} (ascii : code < 0x80) :
    keptCode code = [Char.ofNat code] := by
  rw [keptCode, if_neg, if_neg]
  · unfold reservedStart
    omega
  · rw [isSurrogate_iff]
    omega

theorem codes_of_ascii {s : List Char} (h : ∀ c ∈ s, c.toNat < 0x80) :
    codes s = s.map Char.toNat := by
  induction s with
  | nil => rfl
  | cons c s ih =>
    obtain ⟨here, others⟩ := List.forall_mem_cons.1 h
    have notLead : isLead c = false := by
      rw [← Bool.not_eq_true, isLead_iff, reservedStart]
      omega
    have notKept : ¬ isSurrogateChar c = true := by
      rw [isSurrogateChar_iff, surrogateDistance]
      omega
    rw [codes_cons notLead, singleCode, if_neg notKept, ih others, List.map_cons]

theorem isApart_of_ascii {points : List Nat} (h : ∀ code ∈ points, code < 0x80) :
    isApart points = true := by
  fun_induction isApart points with
  | case1 code next rest ih =>
    obtain ⟨here, others⟩ := List.forall_mem_cons.1 h
    have low : isHighSurrogate code = false := by
      simp only [isHighSurrogate, Bool.and_eq_false_iff, decide_eq_false_iff_not]
      omega
    rw [low, ih others]
    rfl
  | case2 => rfl

theorem isLegible_of_ascii {s : List Char} (h : ∀ c ∈ s, c.toNat < 0x80) : isLegible s = true := by
  rw [isLegible_iff, codes_of_ascii h]
  refine ⟨?_, isApart_of_ascii fun code mem => ?_⟩
  · have self : ∀ c ∈ s, keptCode c.toNat = [c] := fun c hc => by
      rw [keptCode_of_ascii (h c hc), Char.ofNat_toNat]
    rw [kept, List.flatMap_map, List.flatMap_congr self, List.flatMap_singleton']
  · obtain ⟨c, hc, rfl⟩ := List.mem_map.1 mem
    exact h c hc

/-! ## Hexadecimal codes -/

theorem hexValue?_hexDigit : ∀ n < 16, hexValue? (hexDigit n) = some n := by decide

end PlanCompiler.Text

namespace PlanCompiler.Json

open Text

variable {opening unit code : Nat} {done rest : List Char} {points : List Nat}

/-- The escape of a code unit is read as the unit. -/
theorem exists_unitEscape_eq (h : unit < 0x10000) : ∃ a b c d,
    unitEscape unit = ['\\', 'u', a, b, c, d] ∧ hexCode? a b c d = some unit := by
  have digit (n : Nat) := hexValue?_hexDigit (n % 16) (Nat.mod_lt _ (by decide))
  refine ⟨_, _, _, _, rfl, ?_⟩
  rw [hexCode?, digit, digit, digit, digit]
  refine congrArg some ?_
  omega

/-! ## One code point -/

/-- The ways in which a code point is written. -/
inductive IsEscape : (code : Nat) → (written : List Char) → Prop
  | short {code : Nat} {letter : Char} (ascii : code < 0x80) (ne : letter ≠ 'u')
    (back : escaped? letter = some (Char.ofNat code)) : IsEscape code ['\\', letter]
  | plain {code : Nat} (low : 0x20 ≤ code) (high : code ≤ 0x7E) (quote : code ≠ 0x22)
    (backslash : code ≠ 0x5C) : IsEscape code [Char.ofNat code]
  | unit {code : Nat} (basic : code < 0x10000) : IsEscape code (unitEscape code)
  | pair {code : Nat} (beyond : 0x10000 ≤ code) (bound : code < codeBound) :
    IsEscape code (unitEscape (highHalf code) ++ unitEscape (lowHalf code))

theorem isEscape_escapeCode (bound : code < codeBound) : IsEscape code (escapeCode code) := by
  unfold escapeCode
  split
  · rename_i letter found
    have letters : ∀ entry ∈ shortEscapes, entry.1 < 0x80 ∧ entry.2 ≠ 'u' ∧
        escaped? entry.2 = some (Char.ofNat entry.1) := by decide
    obtain ⟨_, _, split, -⟩ := List.lookup_eq_some_iff.1 found
    obtain ⟨ascii, ne, back⟩ :=
      letters (code, letter) (split ▸ List.mem_append_right _ List.mem_cons_self)
    exact .short ascii ne back
  · rename_i none
    split
    · rename_i range
      refine .plain range.1 range.2 ?_ ?_
      · rintro rfl
        cases none
      · rintro rfl
        cases none
    · split
      · exact .unit ‹_›
      · exact .pair (Nat.le_of_not_lt ‹_›) bound

/-- Where another escape follows a code unit, the two are not the halves of one pair. -/
def StandsAlone (unit : Nat) (rest : List Char) : Prop :=
  ∀ e f g h tail, rest = '\\' :: 'u' :: e :: f :: g :: h :: tail →
    ∃ next, hexCode? e f g h = some next ∧ (isHighSurrogate unit && isLowSurrogate next) = false

/-- The escape of a code unit that stands alone is read as the unit. -/
theorem readText_unitEscape (h : unit < 0x10000) (more : rest ≠ [])
    (alone : StandsAlone unit rest) :
    readText opening done (unitEscape unit ++ rest) =
      readText opening (keptReversed unit done) rest := by
  obtain ⟨a, b, c, d, escape, value⟩ := exists_unitEscape_eq h
  obtain ⟨next, rest, rfl⟩ := List.exists_cons_of_ne_nil more
  rw [escape]
  by_cases followed : ∃ e f g h first tail, next = '\\' ∧
      rest = 'u' :: e :: f :: g :: h :: first :: tail
  · obtain ⟨e, f, g, h, first, tail, rfl, rfl⟩ := followed
    obtain ⟨low, found, apart⟩ := alone e f g h _ rfl
    have read := readText.eq_4 opening done a b c d e f g h first tail
    rw [value, found] at read
    refine read.trans ?_
    dsimp only
    split
    · rename_i high
      rw [high, Bool.true_and] at apart
      rw [if_neg (by simp [apart])]
    · rfl
  · have read := readText.eq_5 opening done a b c d next rest fun e f g h first tail same shape =>
      followed ⟨e, f, g, h, first, tail, same, shape⟩
    rwa [value] at read

theorem hexCode?_of_unitEscape_append {e f g h : Char} {tail : List Char} (basic : unit < 0x10000)
    (shape : unitEscape unit ++ rest = '\\' :: 'u' :: e :: f :: g :: h :: tail) :
    hexCode? e f g h = some unit := by
  obtain ⟨a, b, c, d, escape, value⟩ := exists_unitEscape_eq basic
  rw [escape] at shape
  cases shape
  exact value

theorem halves_of_le (beyond : 0x10000 ≤ code) (bound : code < codeBound) :
    (0xD800 ≤ highHalf code ∧ highHalf code ≤ 0xDBFF) ∧
      0xDC00 ≤ lowHalf code ∧ lowHalf code ≤ 0xDFFF := by
  unfold codeBound at bound
  unfold highHalf lowHalf
  omega

/-- The escapes of both halves of a pair are read as its character. -/
theorem readText_pairEscape (beyond : 0x10000 ≤ code) (bound : code < codeBound)
    (more : rest ≠ []) :
    readText opening done (unitEscape (highHalf code) ++ unitEscape (lowHalf code) ++ rest) =
      readText opening (keptReversed code done) rest := by
  have halves := halves_of_le beyond bound
  have high : isHighSurrogate (highHalf code) = true := by
    simpa [isHighSurrogate] using halves.1
  have low : isLowSurrogate (lowHalf code) = true := by
    simpa [isLowSurrogate] using halves.2
  obtain ⟨a, b, c, d, escape, value⟩ :=
    exists_unitEscape_eq (Nat.lt_of_le_of_lt halves.1.2 (by decide))
  obtain ⟨e, f, g, h, escape', value'⟩ :=
    exists_unitEscape_eq (Nat.lt_of_le_of_lt halves.2.2 (by decide))
  obtain ⟨next, rest, rfl⟩ := List.exists_cons_of_ne_nil more
  have read := readText.eq_4 opening done a b c d e f g h next rest
  rw [value, value'] at read
  rw [escape, escape']
  refine read.trans ?_
  dsimp only
  rw [if_pos high, if_pos low, pairCode_halves beyond]

/-- The letter of a short escape is read as its character. -/
theorem readText_short {letter c : Char} (ne : letter ≠ 'u') (back : escaped? letter = some c) :
    readText opening done ('\\' :: letter :: rest) = readText opening (c :: done) rest := by
  rw [readText.eq_7, back]
  all_goals intros; exact absurd ‹_› ne

theorem ofNat_ne {c : Char} (ascii : code < 0x80) (ne : code ≠ c.toNat) : Char.ofNat code ≠ c := by
  rintro rfl
  exact ne (toNat_ofNat_of_ascii ascii).symm

/-- An ASCII character that needs no escape is read as it is. -/
theorem readText_plain (low : 0x20 ≤ code) (high : code ≤ 0x7E) (quote : code ≠ 0x22)
    (backslash : code ≠ 0x5C) : readText opening done (Char.ofNat code :: rest) =
      readText opening (Char.ofNat code :: done) rest := by
  have ascii : code < 0x80 := Nat.lt_of_le_of_lt high (by decide)
  have noSlash : Char.ofNat code ≠ '\\' := ofNat_ne ascii backslash
  rw [readText.eq_8, toNat_ofNat_of_ascii ascii, if_neg (Nat.not_lt.2 low)]
  · exact ofNat_ne ascii quote
  all_goals intros; exact absurd ‹_› noSlash

/-! ## Whole texts -/

/-- What follows the code points of a text stands apart from them as they do from each other. -/
theorem standsAlone_of_isApart (bound : ∀ code ∈ points, code < codeBound)
    (apart : isApart (unit :: points) = true) (tail : List Char) :
    StandsAlone unit (points.flatMap escapeCode ++ '"' :: tail) := by
  intro e f g h after shape
  cases points with
  | nil => cases shape
  | cons code points =>
    have next := isEscape_escapeCode (bound code List.mem_cons_self)
    rw [List.flatMap_cons] at shape
    revert shape next
    generalize escapeCode code = written
    rintro shape (⟨-, ne, -⟩ | ⟨-, high, -, backslash⟩ | basic | ⟨beyond, bound⟩)
    · exact absurd (List.cons.inj (List.cons.inj shape).2).1 ne
    · exact absurd (List.cons.inj shape).1 (ofNat_ne (by omega) backslash)
    · refine ⟨code, hexCode?_of_unitEscape_append basic shape, ?_⟩
      rw [isApart, Bool.and_eq_true, Bool.not_eq_true'] at apart
      exact apart.1
    · obtain ⟨high, -⟩ := halves_of_le beyond bound
      rw [List.append_assoc, List.append_assoc] at shape
      refine ⟨highHalf code, hexCode?_of_unitEscape_append (by omega) shape, ?_⟩
      rw [Bool.and_eq_false_iff, isLowSurrogate]
      exact .inr (by simp; omega)

theorem isApart_of_cons (apart : isApart (code :: points) = true) : isApart points = true := by
  cases points with
  | nil => rfl
  | cons next points =>
    rw [isApart, Bool.and_eq_true] at apart
    exact apart.2

/-- The induction is on the code points, whatever has been read before them. -/
theorem readText_escapes (bound : ∀ code ∈ points, code < codeBound)
    (apart : isApart points = true) (tail : List Char) :
    readText opening done (points.flatMap escapeCode ++ '"' :: tail) =
      .ok (String.ofList (done.reverse ++ kept points), tail) := by
  induction points generalizing done with
  | nil => simp [readText, kept]
  | cons code points ih =>
    obtain ⟨here, bound⟩ := List.forall_mem_cons.1 bound
    let rest := points.flatMap escapeCode ++ '"' :: tail
    have more : rest ≠ [] := List.append_ne_nil_of_right_ne_nil _ (List.cons_ne_nil _ _)
    have alone : StandsAlone code rest := standsAlone_of_isApart bound apart tail
    have step : readText opening done (escapeCode code ++ rest) =
        readText opening (keptReversed code done) rest := by
      have escape := isEscape_escapeCode here
      revert escape
      generalize escapeCode code = written
      rintro (⟨ascii, ne, back⟩ | ⟨low, high, quote, backslash⟩ | basic | ⟨beyond, bound⟩)
      · rw [keptReversed, keptCode_of_ascii ascii]
        exact readText_short ne back
      · rw [keptReversed, keptCode_of_ascii (by omega)]
        exact readText_plain low high quote backslash
      · exact readText_unitEscape basic more alone
      · exact readText_pairEscape beyond bound more
    rw [List.flatMap_cons, List.append_assoc, step, ih bound (isApart_of_cons apart)]
    simp [keptReversed, kept]

/-- A legible text is read back from its written form, and nothing after it is touched. -/
theorem exists_writeText_append_eq {s : String} (legible : isLegible s.toList = true)
    (tail : List Char) : ∃ rest, writeText s ++ tail = '"' :: rest ∧
      ∀ opening, readText opening [] rest = .ok (s, tail) := by
  obtain ⟨same, apart⟩ := isLegible_iff.1 legible
  refine ⟨(Text.codes s.toList).flatMap escapeCode ++ '"' :: tail, by simp [writeText], ?_⟩
  intro opening
  rw [readText_escapes (codes_lt _) apart, List.reverse_nil, List.nil_append, same,
    String.ofList_toList]

end PlanCompiler.Json
