import PlanCompiler.Json.Line
import PlanCompiler.Json.Reader
import PlanCompiler.Proofs.Number.Numeral

/-!
# Written numbers read back

An integer is read from its written form as it is (`readPlain_integer`). A floating-point number is
read as some floating-point number (`exists_readPlain_double`), never as an integer: its numeral has
a point or an exponent. Reading stops where the numeral ends, since what follows a value begins with
no character of a numeral (`EndsValue`).
-/

namespace PlanCompiler.Json

open Binary64 (Numeral IsWhole isDigit natOfDigits)

variable {limits : Limits} {opening : Nat} {negative : Bool} {ds rest : List Char}

/-- What may follow a value: nothing, or what begins with a comma or a closing bracket. -/
def EndsValue (rest : List Char) : Prop :=
  ∀ c ∈ rest.head?, c = ',' ∨ c = ']' ∨ c = '\x7d'

/-- What follows digits begins with no other digit. -/
def EndsDigits (rest : List Char) : Prop :=
  ∀ c ∈ rest.head?, isDigit c = false

theorem EndsValue.endsDigits (h : EndsValue rest) : EndsDigits rest := by
  intro c hc
  rcases h c hc with rfl | rfl | rfl <;> rfl

/-! ## The parts of a numeral -/

theorem digits_append (all : ∀ d ∈ ds, isDigit d = true) (ends : EndsDigits rest) :
    digits (ds ++ rest) = (ds, rest) := by
  rw [digits, List.takeWhile_append_of_pos all, List.dropWhile_append_of_pos all]
  cases rest with
  | nil => simp
  | cons c rest =>
    have stop : ¬ isDigit c = true := by simp [ends c rfl]
    rw [List.takeWhile_cons_of_neg stop, List.dropWhile_cons_of_neg stop, List.append_nil]

theorem wholePart?_append (h : IsWhole ds) (ends : EndsDigits rest) :
    wholePart? (ds ++ rest) = some (ds, rest) := by
  have read := digits_append h.isDigit ends
  rcases h with rfl | ⟨first, others, rfl, nonzero, all⟩
  · rfl
  · rw [List.cons_append, wholePart?, if_pos (all first List.mem_cons_self)]
    · exact congrArg some read
    · exact nonzero

theorem fractionPart_append (n : Numeral) (ends : EndsDigits rest) (noPoint : '.' ∉ rest.head?) :
    fractionPart (n.fractionText ++ rest) = (n.fraction, rest) := by
  obtain ⟨_, fraction, _, _, all, _⟩ := n
  unfold Numeral.fractionText
  cases fraction with
  | nil =>
    rw [if_pos rfl, List.nil_append, fractionPart]
    rintro c others rfl
    exact noPoint rfl
  | cons c others =>
    rw [if_neg (List.cons_ne_nil _ _)]
    exact (if_pos (all c List.mem_cons_self)).trans (digits_append all ends)

theorem exponentPart_append (n : Numeral) (ends : EndsValue rest) : ∃ value,
    exponentPart (n.exponentText ++ rest) = (value, rest) ∧ (value = none ↔ n.exponent = none) := by
  obtain ⟨_, _, exponent, _, _, all⟩ := n
  unfold Numeral.exponentText
  cases exponent with
  | none =>
    refine ⟨none, ?_, by simp⟩
    cases rest with
    | nil => rfl
    | cons c rest =>
      refine if_neg ?_
      rcases ends c rfl with rfl | rfl | rfl <;> decide
  | some e =>
    obtain ⟨negative, ds⟩ := e
    obtain ⟨filled, all⟩ := all _ rfl
    obtain ⟨first, others, rfl⟩ := List.exists_cons_of_ne_nil filled
    have read := digits_append all ends.endsDigits
    let amount : Int := natOfDigits (first :: others)
    refine ⟨some (if negative then -amount else amount), ?_, by simp⟩
    rw [List.cons_append] at read
    cases negative <;> simp [exponentPart, Binary64.signed, read, amount]

/-- What follows the whole part begins with no digit, and what follows the fraction with no point
either. -/
theorem endsDigits_exponentText (n : Numeral) (ends : EndsValue rest) :
    EndsDigits (n.exponentText ++ rest) ∧ '.' ∉ (n.exponentText ++ rest).head? := by
  obtain ⟨_, _, exponent, _, _, _⟩ := n
  cases exponent with
  | none =>
    refine ⟨ends.endsDigits, fun point => ?_⟩
    rcases ends '.' point with h | h | h <;> cases h
  | some e =>
    refine ⟨?_, fun point => ?_⟩
    · rintro _ ⟨⟩
      rfl
    · cases point

theorem endsDigits_fractionText (n : Numeral) (ends : EndsDigits rest) :
    EndsDigits (n.fractionText ++ rest) := by
  unfold Numeral.fractionText
  split
  · exact ends
  · rintro _ ⟨⟩
    rfl

/-! ## Numerals -/

/-- A numeral with a point or an exponent is read as a floating-point number. -/
theorem exists_readNumeral_eq_double {n : Numeral} (real : n.IsReal) (ends : EndsValue rest)
    (limits : Limits) (opening : Nat) (negative : Bool) :
    ∃ x, readNumeral limits opening negative (n.text ++ rest) = .ok (.double x, rest) := by
  obtain ⟨exponent, readExponent, same⟩ := exponentPart_append n ends
  obtain ⟨ends, noPoint⟩ := endsDigits_exponentText n ends
  have readFraction := fractionPart_append n ends noPoint
  have readWhole := wholePart?_append n.isWhole (endsDigits_fractionText n ends)
  have isReal : ¬ (n.fraction.isEmpty && exponent.isNone) = true := by
    rw [Bool.and_eq_true, List.isEmpty_iff, Option.isNone_iff_eq_none, same]
    exact fun ⟨noFraction, noExponent⟩ => real.elim (absurd noFraction) (absurd noExponent)
  unfold readNumeral
  rw [Numeral.text, List.append_assoc, List.append_assoc, readWhole]
  dsimp only
  rw [readFraction]
  dsimp only
  rw [readExponent]
  dsimp only
  rw [if_neg isReal]
  exact ⟨_, rfl⟩

/-- A numeral of digits alone is read as an integer, if the digits are not too many. -/
theorem readNumeral_toDigits {n : Nat} (few : (Nat.toDigits 10 n).length ≤ limits.digits)
    (ends : EndsValue rest) :
    readNumeral limits opening negative (Nat.toDigits 10 n ++ rest) =
      .ok (.integer (if negative then -n else n), rest) := by
  let numeral : Numeral :=
    ⟨Nat.toDigits 10 n, [], none, Binary64.isWhole_toDigits n, by simp, by simp⟩
  have value : natOfDigits (Nat.toDigits 10 n) = n := Nat.ofDigitChars_ten_toDigits
  obtain ⟨exponent, readExponent, same⟩ := exponentPart_append numeral ends
  obtain rfl : exponent = none := same.2 rfl
  have readFraction := fractionPart_append numeral ends.endsDigits
    (endsDigits_exponentText numeral ends).2
  have readExponent : exponentPart rest = (none, rest) := readExponent
  have readFraction : fractionPart rest = ([], rest) := readFraction
  unfold readNumeral
  rw [wholePart?_append numeral.isWhole ends.endsDigits]
  dsimp only
  rw [readFraction]
  dsimp only
  rw [readExponent]
  dsimp only
  exact (if_neg (Nat.not_lt.2 few)).trans (by rw [value])

/-! ## Plain values -/

theorem findSome?_wordValues_digit {c : Char} (h : isDigit c = true) (rest : List Char) :
    (wordValues.findSome? fun entry =>
      (afterWord? entry.1 (c :: rest)).map fun after => (entry.2, after)) = none := by
  have letter {d : Char} (other : isDigit d = false) : c ≠ d := by
    rintro rfl
    rw [h] at other
    cases other
  have null : c ≠ 'n' := letter rfl
  have true : c ≠ 't' := letter rfl
  have false : c ≠ 'f' := letter rfl
  have nan : c ≠ 'N' := letter rfl
  have infinity : c ≠ 'I' := letter rfl
  have minus : c ≠ '-' := letter rfl
  simp [wordValues, afterWord?, null, true, false, nan, infinity, minus]

theorem findSome?_wordValues_minus {c : Char} (h : isDigit c = true) (rest : List Char) :
    (wordValues.findSome? fun entry =>
      (afterWord? entry.1 ('-' :: c :: rest)).map fun after => (entry.2, after)) = none := by
  have other : c ≠ 'I' := by
    rintro rfl
    cases h
  simp [wordValues, afterWord?, other]

/-- What begins with a digit, after a minus or not, is read as a numeral. -/
theorem readPlain_signed {c : Char} (h : isDigit c = true) (limits : Limits) (negative : Bool)
    (rest : List Char) :
    ∃ opening, readPlain limits ((if negative then ['-'] else []) ++ c :: rest) =
      readNumeral limits opening negative (c :: rest) := by
  unfold readPlain
  cases negative with
  | false =>
    have noSign : c ≠ '-' := by
      rintro rfl
      cases h
    refine ⟨(c :: rest).length, ?_⟩
    rw [if_neg Bool.false_ne_true, List.nil_append, findSome?_wordValues_digit h]
    dsimp only
    split
    · rename_i shape
      exact absurd (List.cons.inj shape).1 noSign
    · rfl
  | true =>
    refine ⟨('-' :: c :: rest).length, ?_⟩
    rw [if_pos rfl, List.singleton_append, findSome?_wordValues_minus h]
    rfl

theorem exists_cons_of_isWhole (h : IsWhole ds) :
    ∃ first others, ds = first :: others ∧ isDigit first = true := by
  rcases h with rfl | ⟨first, others, rfl, _, all⟩
  · exact ⟨_, _, rfl, rfl⟩
  · exact ⟨_, _, rfl, all first List.mem_cons_self⟩

theorem readPlain_integer {value : Int}
    (few : (Nat.toDigits 10 value.natAbs).length ≤ limits.digits) (ends : EndsValue rest) :
    readPlain limits ((toString value).toList ++ rest) = .ok (.integer value, rest) := by
  obtain ⟨first, others, found, digit⟩ :=
    exists_cons_of_isWhole (Binary64.isWhole_toDigits value.natAbs)
  obtain ⟨opening, read⟩ :=
    readPlain_signed digit limits (decide (value < 0)) (others ++ rest)
  rw [← List.cons_append, ← found, readNumeral_toDigits few ends, ← List.append_assoc] at read
  rw [Binary64.toList_toString_int]
  simp only [decide_eq_true_eq] at read
  rw [read]
  refine congrArg (fun i => Except.ok (Payload.integer i, rest)) ?_
  split <;> omega

theorem exists_readPlain_double (x : Binary64) (ends : EndsValue rest) :
    ∃ y, readPlain limits (writeDouble x ++ rest) = .ok (.double y, rest) := by
  cases x with
  | nan => exact ⟨.nan, rfl⟩
  | infinite negative => cases negative <;> exact ⟨.infinite _, rfl⟩
  | finite negative significand exponent =>
    obtain ⟨n, real, written⟩ := Binary64.exists_numeral_text negative significand exponent
    obtain ⟨first, others, found, digit⟩ := exists_cons_of_isWhole n.isWhole
    have shape : n.text ++ rest =
        first :: (others ++ (n.fractionText ++ n.exponentText) ++ rest) := by
      rw [Numeral.text, found]
      rfl
    obtain ⟨opening, read⟩ := readPlain_signed digit limits negative
      (others ++ (n.fractionText ++ n.exponentText) ++ rest)
    obtain ⟨y, readNumeral⟩ := exists_readNumeral_eq_double real ends limits opening negative
    rw [← shape, readNumeral, ← List.append_assoc, ← written] at read
    exact ⟨y, read⟩

end PlanCompiler.Json
