import PlanCompiler.Json.Line
import PlanCompiler.Proofs.Number.Numeral
import PlanCompiler.Proofs.Text.Run

/-!
# Written JSON is printable

Whatever a payload contains, its written form consists of the characters from U+0020 to U+007E
(`printable_write`): it is one line, without a control character and without a character beyond
ASCII.
-/

namespace PlanCompiler.Json

open Text

/-- A character from the space to the tilde. -/
def IsPrintable (c : Char) : Prop :=
  0x20 ≤ c.toNat ∧ c.toNat ≤ 0x7E

instance (c : Char) : Decidable (IsPrintable c) :=
  inferInstanceAs (Decidable (_ ∧ _))

/-- A text of such characters. -/
def Printable (s : List Char) : Prop :=
  ∀ c ∈ s, IsPrintable c

instance (s : List Char) : Decidable (Printable s) :=
  decidable_of_iff ((s.all fun c => decide (IsPrintable c)) = true) (by simp [Printable])

variable {s t : List Char}

theorem Printable.cons {c : Char} (hc : IsPrintable c) (hs : Printable s) : Printable (c :: s) :=
  List.forall_mem_cons.2 ⟨hc, hs⟩

theorem Printable.append (hs : Printable s) (ht : Printable t) : Printable (s ++ t) :=
  List.forall_mem_append.2 ⟨hs, ht⟩

theorem Printable.flatMap {α : Type} {f : α → List Char} {xs : List α}
    (h : ∀ x ∈ xs, Printable (f x)) : Printable (xs.flatMap f) := fun c hc =>
  let ⟨x, hx, inside⟩ := List.mem_flatMap.1 hc
  h x hx c inside

/-! ## Texts -/

theorem printable_unitEscape (unit : Nat) : Printable (unitEscape unit) :=
  .cons (by decide) (.cons (by decide) (forall_mem_hex (by decide) 4 unit))

/-- The letters of the short escapes. -/
theorem isPrintable_of_lookup {code : Nat} {letter : Char}
    (h : shortEscapes.lookup code = some letter) : IsPrintable letter := by
  have letters : ∀ entry ∈ shortEscapes, IsPrintable entry.2 := by decide
  obtain ⟨_, _, found, -⟩ := List.lookup_eq_some_iff.1 h
  exact letters (code, letter) (found ▸ List.mem_append_right _ List.mem_cons_self)

theorem printable_escapeCode (code : Nat) : Printable (escapeCode code) := by
  unfold escapeCode
  split
  · rename_i letter found
    exact .cons (by decide) (.cons (isPrintable_of_lookup found) (by decide))
  · split
    · rename_i range
      refine .cons ?_ (by decide)
      rwa [IsPrintable, toNat_ofNat_of_ascii (Nat.lt_of_le_of_lt range.2 (by decide))]
    · split
      · exact printable_unitEscape code
      · exact .append (printable_unitEscape _) (printable_unitEscape _)

theorem printable_writeText (s : String) : Printable (writeText s) :=
  .cons (by decide) (.append (.flatMap fun code _ => printable_escapeCode code) (by decide))

/-! ## Numbers -/

theorem isPrintable_of_isDigit {c : Char} (h : Binary64.isDigit c = true) : IsPrintable c := by
  simp only [Binary64.isDigit, Bool.and_eq_true, decide_eq_true_eq, Char.le_def,
    UInt32.le_iff_toNat_le] at h
  exact ⟨Nat.le_trans (by decide) h.1, Nat.le_trans h.2 (by decide)⟩

theorem printable_of_digits (h : ∀ d ∈ s, Binary64.isDigit d = true) : Printable s :=
  fun c hc => isPrintable_of_isDigit (h c hc)

theorem printable_toDigits (n : Nat) : Printable (Nat.toDigits 10 n) :=
  printable_of_digits fun _ => Binary64.isDigit_of_mem_toDigits

theorem printable_integer (value : Int) : Printable (toString value).toList := by
  rw [Binary64.toList_toString_int]
  refine .append ?_ (printable_toDigits value.natAbs)
  split <;> decide

theorem printable_numeral (n : Binary64.Numeral) : Printable n.text := by
  refine .append (printable_of_digits n.isWhole.isDigit) (.append ?_ ?_)
  · unfold Binary64.Numeral.fractionText
    split
    · decide
    · exact .cons (by decide) (printable_of_digits n.fractionDigits)
  · unfold Binary64.Numeral.exponentText
    split
    · decide
    · rename_i negative digits found
      refine .cons (by decide) (.cons ?_ (printable_of_digits (n.exponentDigits _ found).2))
      cases negative <;> decide

theorem printable_writeDouble (x : Binary64) : Printable (writeDouble x) := by
  cases x with
  | nan => decide
  | infinite negative => cases negative <;> decide
  | finite negative significand exponent =>
    obtain ⟨n, -, written⟩ := Binary64.exists_numeral_text negative significand exponent
    rw [show writeDouble (.finite negative significand exponent) = _ from written]
    refine .append ?_ (printable_numeral n)
    cases negative <;> decide

/-! ## Payloads -/

theorem printable_joined {texts : List (List Char)} (h : ∀ text ∈ texts, Printable text) :
    Printable (joined ", ".toList texts) := by
  have separator : Printable ", ".toList := by decide
  intro c hc
  rcases mem_joined hc with separates | ⟨text, mem, inside⟩
  · exact separator c separates
  · exact h text mem c inside

mutual

theorem printable_write : (p : Payload) → Printable (write p)
  | .null => by decide
  | .boolean value => by cases value <;> decide
  | .integer value => printable_integer value
  | .double value => printable_writeDouble value
  | .text value => printable_writeText value
  | .list items =>
    .cons (by decide) (.append (printable_joined (printable_writeItems items)) (by decide))
  | .record fields =>
    .cons (by decide) (.append (printable_joined (printable_writeFields fields)) (by decide))

theorem printable_writeItems :
    (items : List Payload) → ∀ text ∈ writeItems items, Printable text
  | [] => fun _ h => absurd h List.not_mem_nil
  | item :: rest => List.forall_mem_cons.2 ⟨printable_write item, printable_writeItems rest⟩

theorem printable_writeFields :
    (fields : List (String × Payload)) → ∀ text ∈ writeFields fields, Printable text
  | [] => fun _ h => absurd h List.not_mem_nil
  | (key, value) :: rest =>
    have separator : Printable ": ".toList := by decide
    List.forall_mem_cons.2 ⟨.append (.append (printable_writeText key) separator)
      (printable_write value), printable_writeFields rest⟩

end

end PlanCompiler.Json
