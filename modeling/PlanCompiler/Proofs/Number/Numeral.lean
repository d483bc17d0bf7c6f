import Mathlib.Data.List.DropRight
import Mathlib.Tactic.Ring
import PlanCompiler.Number.Decimal

/-!
# Numbers as numerals

Every finite number is written as a JSON numeral with a point or an exponent
(`exists_numeral_text`), and every natural number as one without (`isWhole_toDigits`). What keeps
the leading zeros away is that the number is as long as its magnitude says (`magnitude_le`), so the
decimal grid that its digits are taken from is never too coarse for it (`onGrid_pos`).
-/

namespace PlanCompiler.Binary64

/-! ## Numerals -/

/-- The whole part of a numeral: a zero alone, or digits that begin with another one. -/
def IsWhole (digits : List Char) : Prop :=
  digits = ['0'] ∨
    ∃ first rest, digits = first :: rest ∧ first ≠ '0' ∧ ∀ d ∈ digits, isDigit d = true

/-- A JSON numeral without its sign. There is no point where there are no digits after it; the sign
of an exponent is always written, `true` for a minus. -/
structure Numeral where
  whole : List Char
  fraction : List Char := []
  exponent : Option (Bool × List Char) := none
  isWhole : IsWhole whole
  fractionDigits : ∀ d ∈ fraction, isDigit d = true
  exponentDigits : ∀ e ∈ exponent, e.2 ≠ [] ∧ ∀ d ∈ e.2, isDigit d = true

namespace Numeral

/-- The point and the digits after it. -/
def fractionText (n : Numeral) : List Char :=
  if n.fraction = [] then [] else '.' :: n.fraction

/-- The letter of the exponent, its sign and its digits. -/
def exponentText (n : Numeral) : List Char :=
  match n.exponent with
  | none => []
  | some (negative, digits) => 'e' :: (if negative then '-' else '+') :: digits

/-- The numeral as it is written. -/
def text (n : Numeral) : List Char :=
  n.whole ++ (n.fractionText ++ n.exponentText)

/-- The numeral has a point or an exponent. -/
def IsReal (n : Numeral) : Prop :=
  n.fraction ≠ [] ∨ n.exponent ≠ none

end Numeral

theorem isDigit_of_mem_toDigits {n : Nat} {c : Char} (h : c ∈ Nat.toDigits 10 n) :
    isDigit c = true :=
  Nat.isDigit_of_mem_toDigits (by decide) (by decide) h

theorem isDigit_zero : ∀ d ∈ ['0'], isDigit d = true :=
  List.forall_mem_singleton.2 rfl

theorem IsWhole.isDigit {digits : List Char} (h : IsWhole digits) :
    ∀ d ∈ digits, isDigit d = true := by
  rcases h with rfl | ⟨_, _, _, _, all⟩
  · exact isDigit_zero
  · exact all

/-! ## Natural numbers -/

theorem exists_toDigits_eq_cons {n : Nat} (pos : 0 < n) :
    ∃ first rest, Nat.toDigits 10 n = first :: rest ∧ first ≠ '0' := by
  induction n using Nat.strongRecOn with
  | ind n ih =>
    rw [Nat.toDigits_eq_if (by decide)]
    split
    · rename_i small
      have nonzero : ∀ m < 10, 0 < m → m.digitChar ≠ '0' := by decide
      exact ⟨_, [], rfl, nonzero n small pos⟩
    · obtain ⟨first, rest, found, nonzero⟩ := ih (n / 10) (by omega) (by omega)
      exact ⟨first, rest ++ [(n % 10).digitChar], by rw [found, List.cons_append], nonzero⟩

theorem isWhole_toDigits (n : Nat) : IsWhole (Nat.toDigits 10 n) := by
  rcases Nat.eq_zero_or_pos n with rfl | pos
  · exact .inl rfl
  · obtain ⟨first, rest, found, nonzero⟩ := exists_toDigits_eq_cons pos
    exact .inr ⟨first, rest, found, nonzero, fun d => isDigit_of_mem_toDigits⟩

theorem toList_toString_int (i : Int) :
    (toString i).toList = (if i < 0 then ['-'] else []) ++ Nat.toDigits 10 i.natAbs := by
  cases i with
  | ofNat n => exact String.toList_ofList
  | negSucc n =>
    rw [if_pos (Int.negSucc_lt_zero n)]
    exact String.toList_append.trans (congrArg _ String.toList_ofList)

/-! ## Grids -/

/-- A quotient that reaches a power of ten reaches every smaller one. Both sides of the quotient are
kept natural by moving negative exponents to the other one. -/
theorem scale_le_of_le {num den : Nat} {k j : Int} (less : k ≤ j)
    (h : den * tenTo j.toNat ≤ num * tenTo (-j).toNat) :
    den * tenTo k.toNat ≤ num * tenTo (-k).toNat := by
  simp only [tenTo, Nat.pow_eq] at *
  have exponents : (j - k).toNat + k.toNat + (-j).toNat = j.toNat + (-k).toNat := by omega
  have pos : 0 < 10 ^ (-j).toNat := Nat.pow_pos (by decide)
  refine Nat.le_of_mul_le_mul_right ?_ pos
  calc den * 10 ^ k.toNat * 10 ^ (-j).toNat
      ≤ den * 10 ^ k.toNat * 10 ^ (-j).toNat * 10 ^ (j - k).toNat :=
        Nat.le_mul_of_pos_right _ (Nat.pow_pos (by decide))
    _ = den * (10 ^ ((j - k).toNat + k.toNat + (-j).toNat)) := by
        rw [Nat.pow_add, Nat.pow_add]
        ring
    _ = den * 10 ^ j.toNat * 10 ^ (-k).toNat := by rw [exponents, Nat.pow_add, Nat.mul_assoc]
    _ ≤ num * 10 ^ (-j).toNat * 10 ^ (-k).toNat := Nat.mul_le_mul_right _ h
    _ = num * 10 ^ (-k).toNat * 10 ^ (-j).toNat := Nat.mul_right_comm _ _ _

theorem lt_pow_decimalLength (n : Nat) : n < 10 ^ decimalLength n :=
  (Nat.length_toDigits_le_iff (by decide) Nat.length_toDigits_pos).1 (Nat.le_refl _)

theorem lt_decimalLength_pow (n : Nat) : n < decimalLength (10 ^ n) := by
  rw [← Nat.not_le, decimalLength]
  intro few
  by_cases pos : 0 < n
  · exact absurd ((Nat.length_toDigits_le_iff (by decide) pos).1 few) (Nat.lt_irrefl _)
  · have := Nat.length_toDigits_pos (b := 10) (n := 10 ^ n)
    omega

theorem pow_decimalLength_le {n : Nat} (pos : 0 < n) : 10 ^ (decimalLength n - 1) ≤ n := by
  by_contra less
  have shorter : 0 < decimalLength n - 1 := by
    refine Nat.pos_of_ne_zero fun zero => ?_
    rw [zero] at less
    exact less pos
  have := (Nat.length_toDigits_le_iff (by decide) shorter).2 (Nat.lt_of_not_le less)
  unfold decimalLength at *
  omega

/-- A positive quotient is at least the power of ten below its magnitude. -/
theorem magnitude_le {num : Nat} (den : Nat) (pos : 0 < num) :
    den * tenTo (magnitude num den - 1).toNat ≤ num * tenTo (-(magnitude num den - 1)).toNat := by
  unfold magnitude
  dsimp only
  split
  · -- The lengths of the two numbers alone decide.
    have above := lt_pow_decimalLength den
    have below := pow_decimalLength_le pos
    have counted : 0 < decimalLength num := Nat.length_toDigits_pos
    simp only [tenTo, Nat.pow_eq]
    calc den * 10 ^ ((decimalLength num : Int) - decimalLength den - 1).toNat
        ≤ 10 ^ decimalLength den * 10 ^ ((decimalLength num : Int) - decimalLength den - 1).toNat :=
          Nat.mul_le_mul_right _ (Nat.le_of_lt above)
      _ = 10 ^ (decimalLength num - 1) *
            10 ^ (-((decimalLength num : Int) - decimalLength den - 1)).toNat := by
          rw [← Nat.pow_add, ← Nat.pow_add]
          congr 1
          omega
      _ ≤ num * 10 ^ (-((decimalLength num : Int) - decimalLength den - 1)).toNat :=
          Nat.mul_le_mul_right _ below
  · rename_i reached
    rw [Int.add_sub_cancel]
    exact Nat.le_of_not_lt reached

theorem onGrid_pos {significand count n : Nat} {exponent : Int} (pos : 0 < significand)
    (counted : 0 < count)
    (h : onGrid significand exponent
      (magnitude (numerator significand exponent) (denominator exponent)) count = some n) :
    0 < n := by
  have two (k : Nat) : 0 < twoTo k := Nat.pow_pos (by decide)
  have ten (k : Nat) : 0 < tenTo k := Nat.pow_pos (by decide)
  have positive : 0 < numerator significand exponent := Nat.mul_pos pos (two exponent.toNat)
  have length := magnitude_le (denominator exponent) positive
  generalize magnitude (numerator significand exponent) (denominator exponent) = point at h length
  unfold onGrid at h
  extract_lets step num den quarter range below rest lower upper at h
  have reached : den ≤ num := scale_le_of_le (by omega : point - count ≤ point - 1) length
  have first : 0 < below := Nat.div_pos reached (Nat.mul_pos (two _) (ten _))
  clear_value below
  split at h
  · obtain rfl := Option.some.inj h
    split
    · exact first
    · split <;> omega
  · split at h
    · exact Option.some.inj h ▸ first
    · split at h
      · exact Option.some.inj h ▸ Nat.succ_pos _
      · cases h

/-! ## Finite numbers -/

/-- Digits of a positive grid point begin with another digit than zero. -/
theorem exists_gridDigits_eq_cons (step : Int) {n : Nat} (pos : 0 < n) :
    ∃ first rest, (gridDigits step n).digits = first :: rest ∧ first ≠ '0' ∧
      ∀ d ∈ first :: rest, isDigit d = true := by
  obtain ⟨first, rest, found, nonzero⟩ := exists_toDigits_eq_cons pos
  have front : (gridDigits step n).digits <+: first :: rest := by
    rw [← found]
    exact List.rdropWhile_prefix _ _
  cases left : (gridDigits step n).digits with
  | nil =>
    have zeros := List.rdropWhile_eq_nil_iff.1 left
    have := of_decide_eq_true (zeros first (found ▸ List.mem_cons_self))
    exact absurd this nonzero
  | cons c others =>
    rw [left, List.cons_prefix_cons] at front
    obtain ⟨rfl, shorter⟩ := front
    refine ⟨c, others, rfl, nonzero, fun d hd => isDigit_of_mem_toDigits (n := n) ?_⟩
    rw [found]
    exact (List.cons_subset_cons c shorter.subset) hd

/-- The digits of a number are zero's, or begin with another digit. -/
theorem shortest_cases {significand : Nat} (pos : 0 < significand) (exponent : Int) :
    shortest significand exponent = gridDigits 0 0 ∨
      ∃ step n, 0 < n ∧ shortest significand exponent = gridDigits step n := by
  unfold shortest
  extract_lets point found?
  cases found : found? with
  | none => exact .inl rfl
  | some entry =>
    obtain ⟨i, -, onto⟩ := List.exists_of_findSome?_eq_some found
    obtain ⟨n, grid, rfl⟩ := Option.map_eq_some_iff.1 onto
    exact .inr ⟨_, n, onGrid_pos pos (Nat.succ_pos i) grid, rfl⟩

theorem exists_exponentText (e : Int) : ∃ digits, exponentText e =
    (if decide (e < 0) then '-' else '+') :: digits ∧ digits ≠ [] ∧
      ∀ d ∈ digits, isDigit d = true := by
  unfold exponentText
  dsimp only
  simp only [decide_eq_true_eq]
  refine ⟨_, rfl, ?_⟩
  split
  · refine ⟨List.cons_ne_nil _ _, List.forall_mem_cons.2 ⟨rfl, fun d => isDigit_of_mem_toDigits⟩⟩
  · exact ⟨Nat.toDigits_ne_nil, fun d => isDigit_of_mem_toDigits⟩

theorem forall_mem_replicate_zero (count : Nat) :
    ∀ d ∈ List.replicate count '0', isDigit d = true :=
  fun _ h => (List.eq_of_mem_replicate h).symm ▸ rfl

/-- Digits that begin with another one than zero are laid out as a numeral. -/
theorem Digits.exists_numeral_text {d : Digits} {first : Char} {rest : List Char}
    (found : d.digits = first :: rest) (nonzero : first ≠ '0')
    (all : ∀ c ∈ first :: rest, isDigit c = true) : ∃ n : Numeral, n.IsReal ∧ d.text = n.text := by
  unfold Digits.text
  extract_lets e whole fraction
  split
  · split
    · -- All digits stand behind the point, after some zeros.
      let zeros := List.replicate (-d.point).toNat '0'
      have behind : zeros ++ d.digits ≠ [] := by simp [found]
      refine ⟨⟨['0'], zeros ++ d.digits, none, .inl rfl, ?_, by simp⟩, .inl behind, ?_⟩
      · exact List.forall_mem_append.2 ⟨forall_mem_replicate_zero _, found ▸ all⟩
      · simp [Numeral.text, Numeral.fractionText, Numeral.exponentText, found, zeros]
    · -- The point stands behind the first digit or later, maybe behind some zeros.
      obtain ⟨k, moved⟩ : ∃ k, d.point.toNat = k + 1 := ⟨d.point.toNat - 1, by omega⟩
      let zeros := List.replicate (d.point.toNat - whole.length) '0'
      let behind := if fraction.isEmpty then ['0'] else fraction
      have front : whole = first :: rest.take k := by
        rw [← List.take_succ_cons, ← moved, ← found]
      have before : ∀ c ∈ whole, isDigit c = true := fun c hc =>
        all c (found ▸ List.mem_of_mem_take hc)
      have after : behind ≠ [] ∧ ∀ c ∈ behind, isDigit c = true := by
        unfold behind
        split
        · exact ⟨List.cons_ne_nil _ _, isDigit_zero⟩
        · rename_i filled
          exact ⟨fun none => filled (none ▸ rfl),
            fun c hc => all c (found ▸ List.mem_of_mem_drop hc)⟩
      refine ⟨⟨whole ++ zeros, behind, none, .inr ⟨first, rest.take k ++ zeros, ?_, nonzero, ?_⟩,
        after.2, by simp⟩, .inl after.1, ?_⟩
      · rw [front, List.cons_append]
      · exact List.forall_mem_append.2 ⟨before, forall_mem_replicate_zero _⟩
      · simp only [Numeral.text, Numeral.fractionText, Numeral.exponentText, if_neg after.1,
          List.append_nil]
        rfl
  · -- One digit stands before the point, if there is a point.
    obtain ⟨power, written, filled, digits⟩ := exists_exponentText e
    have here : IsWhole [first] :=
      .inr ⟨first, [], rfl, nonzero, List.forall_mem_singleton.2 (all first List.mem_cons_self)⟩
    have others : ∀ c ∈ rest, isDigit c = true := fun c hc => all c (List.mem_cons_of_mem _ hc)
    refine ⟨⟨[first], rest, some (decide (e < 0), power), here, others, ?_⟩,
      .inr (Option.some_ne_none _), ?_⟩
    · rintro _ ⟨⟩
      exact ⟨filled, digits⟩
    · rw [found, written]
      cases rest <;> rfl

/-- Every finite number is written as a sign, where it has one, and a numeral with a point or an
exponent. -/
theorem exists_numeral_text (negative : Bool) (significand : Nat) (exponent : Int) :
    ∃ n : Numeral, n.IsReal ∧
      (finite negative significand exponent).text =
        (if negative then ['-'] else []) ++ n.text := by
  let zero : Numeral := ⟨['0'], ['0'], none, .inl rfl, isDigit_zero, by simp⟩
  have zeroReal : zero.IsReal := .inl (List.cons_ne_nil _ _)
  by_cases nothing : significand = 0
  · exact ⟨zero, zeroReal, by rw [text, if_pos nothing]; rfl⟩
  · rw [text, if_neg nothing]
    rcases shortest_cases (Nat.pos_of_ne_zero nothing) exponent with none | ⟨step, n, pos, found⟩
    · exact ⟨zero, zeroReal, by rw [none]; rfl⟩
    · obtain ⟨first, rest, digits, nonzero, all⟩ := exists_gridDigits_eq_cons step pos
      obtain ⟨numeral, real, written⟩ := Digits.exists_numeral_text digits nonzero all
      exact ⟨numeral, real, by rw [found, written]⟩

end PlanCompiler.Binary64
