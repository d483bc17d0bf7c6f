import Mathlib.Data.List.Basic
import PlanCompiler.Text.Case

/-!
# Part of a text in small letters

Every letter but one is written small without a look at its neighbours. A capital sigma looks at the
nearest characters around it that are not passed over: after a letter and not before one it is
written `ς`, else `σ`. So a text need not look the same in small letters when it stands alone and
when it is a part of another one. It does if what the form of its sigmas hangs on lies inside it
(`IsSettled`).

* `lowerWithin`: the small letters that a part of a text becomes, with `lowerWithin_append`;
* `lowerWithin_of_isSettled`: a settled text becomes the same everywhere;
* `forall_infix_lower_iff`: only a settled text is found, in small letters, in every text that it
  is a part of.
-/

namespace PlanCompiler.Text

open Letter

/-! ## The case around a letter -/

/-- Whether the first character that is not passed over has a case, if there is one. -/
def leadingCase (s : List Char) : Option Bool :=
  (s.find? (!isPassed ·)).map isCased

/-- Whether the last character that is not passed over has a case, if there is one. -/
def trailingCase (s : List Char) : Option Bool :=
  leadingCase s.reverse

theorem startsCased_eq (s : List Char) : startsCased s = (leadingCase s).getD false := by
  rw [startsCased, leadingCase]
  cases s.find? (!isPassed ·) <;> rfl

theorem leadingCase_append (s t : List Char) :
    leadingCase (s ++ t) = (leadingCase s).or (leadingCase t) := by
  rw [leadingCase, List.find?_append, Option.map_or]
  rfl

theorem trailingCase_append (s t : List Char) :
    trailingCase (s ++ t) = (trailingCase t).or (trailingCase s) := by
  rw [trailingCase, List.reverse_append, leadingCase_append]
  rfl

theorem trailingCase_singleton (c : Char) :
    trailingCase [c] = if isPassed c then none else some (isCased c) := by
  rw [trailingCase, List.reverse_singleton, leadingCase, List.find?_singleton]
  cases isPassed c <;> rfl

theorem isPassed_of_leadingCase {s : List Char} (h : leadingCase s = none) :
    ∀ c ∈ s, isPassed c = true := by
  rw [leadingCase, Option.map_eq_none_iff, List.find?_eq_none] at h
  simpa using h

theorem isPassed_of_trailingCase {s : List Char} (h : trailingCase s = none) :
    ∀ c ∈ s, isPassed c = true :=
  fun c hc => isPassed_of_leadingCase h c (List.mem_reverse.2 hc)

theorem isPassed_sigma : isPassed 'Σ' = false := by
  decide +kernel

theorem isCased_sigma : isCased 'Σ' = true := by
  decide +kernel

theorem leadingCase_sigma (s : List Char) : leadingCase ('Σ' :: s) = some true := by
  rw [leadingCase, List.find?_cons, isPassed_sigma]
  exact congrArg some isCased_sigma

/-! ## A part of a text -/

/-- The small letters of a text that stands before `back`, given whether the last character before
it that is not passed over has a case. -/
def lowerWithin (back : List Char) (cased : Bool) : List Char → List Char
  | [] => []
  | c :: rest =>
    (if c = 'Σ' then [if cased && !startsCased (rest ++ back) then 'ς' else 'σ']
      else lowerChar c) ++
    lowerWithin back (if isPassed c then cased else isCased c) rest

theorem toNat_eq_sigma_iff {c : Char} : c.toNat = 0x3A3 ↔ c = 'Σ' :=
  Char.toNat_inj (d := 'Σ')

theorem lowerAfter_eq (cased : Bool) (s : List Char) :
    lowerAfter cased s = lowerWithin [] cased s := by
  induction s generalizing cased with
  | nil => rfl
  | cons c rest ih =>
    have form (closes : Bool) :
        Char.ofNat (if closes then 0x3C2 else 0x3C3) = if closes then 'ς' else 'σ' := by
      cases closes <;> rfl
    simp only [lowerAfter, lowerWithin, toNat_eq_sigma_iff, form, List.append_nil, ih]

theorem lower_eq (s : List Char) : lower s = lowerWithin [] false s :=
  lowerAfter_eq false s

/-- The case before the rest of a text, whatever it is before the whole. -/
theorem getD_trailingCase_cons (cased : Bool) (c : Char) (s : List Char) :
    (trailingCase (c :: s)).getD cased =
      (trailingCase s).getD (if isPassed c then cased else isCased c) := by
  rw [← List.singleton_append, trailingCase_append, trailingCase_singleton]
  cases trailingCase s <;> cases isPassed c <;> rfl

theorem lowerWithin_append (back : List Char) (cased : Bool) (s t : List Char) :
    lowerWithin back cased (s ++ t) =
      lowerWithin (t ++ back) cased s ++
        lowerWithin back ((trailingCase s).getD cased) t := by
  induction s generalizing cased with
  | nil => rfl
  | cons c rest ih =>
    rw [List.cons_append, lowerWithin, ih, lowerWithin, getD_trailingCase_cons, List.append_assoc,
      List.append_assoc]

/-- Of what follows a text only the case of its first letter counts. -/
theorem lowerWithin_congr {back back' : List Char} (h : leadingCase back = leadingCase back')
    (cased : Bool) (s : List Char) : lowerWithin back cased s = lowerWithin back' cased s := by
  induction s generalizing cased with
  | nil => rfl
  | cons c rest ih =>
    rw [lowerWithin, lowerWithin, ih, startsCased_eq, startsCased_eq, leadingCase_append,
      leadingCase_append, h]

/-- There is no sigma among characters that are passed over. -/
theorem lowerWithin_of_isPassed (back : List Char) (cased : Bool) {s : List Char}
    (h : ∀ c ∈ s, isPassed c = true) : lowerWithin back cased s = s.flatMap lowerChar := by
  induction s generalizing cased with
  | nil => rfl
  | cons c rest ih =>
    have other : c ≠ 'Σ' := by
      rintro rfl
      exact absurd (isPassed_sigma.symm.trans (h _ List.mem_cons_self)) Bool.noConfusion
    rw [lowerWithin, if_neg other, ih _ fun d hd => h d (List.mem_cons_of_mem _ hd)]
    rfl

/-! ## Settled texts -/

/-- The texts before and after a capital sigma fix its form, whatever stands around them: before
it comes a character without a case, or after it a letter, or before it a letter and after it a
character without a case; in all of this without a look at characters that are passed over. -/
def FixesForm (front back : List Char) : Prop :=
  trailingCase front = some false ∨ leadingCase back = some true ∨
    (trailingCase front = some true ∧ leadingCase back = some false)

instance (front back : List Char) : Decidable (FixesForm front back) :=
  inferInstanceAs (Decidable (_ ∨ _ ∨ _))

/-- What the form of every capital sigma of the text hangs on lies inside the text. -/
def IsSettled (text : List Char) : Prop :=
  ∀ front back, text = front ++ 'Σ' :: back → FixesForm front back

theorem isSettled_iff {text : List Char} : IsSettled text ↔
    ∀ i < text.length, text[i]? = some 'Σ' → FixesForm (text.take i) (text.drop (i + 1)) := by
  constructor
  · intro h i _ sigma
    refine h _ _ ?_
    obtain ⟨bound, same⟩ := List.getElem?_eq_some_iff.1 sigma
    rw [← same, ← List.drop_eq_getElem_cons bound, List.take_append_drop]
  · rintro h front back rfl
    have := h front.length (by simp) (by simp)
    simpa using this

instance (text : List Char) : Decidable (IsSettled text) :=
  decidable_of_iff _ isSettled_iff.symm

theorem isSettled_of_not_mem {text : List Char} (h : 'Σ' ∉ text) : IsSettled text := by
  rintro front back rfl
  exact absurd (List.mem_append_right _ List.mem_cons_self) h

/-- A settled text becomes the same small letters whatever stands around it. The induction goes
along the text; `front` is the part of it that is done. -/
theorem lowerWithin_of_isSettled {front text : List Char} (h : IsSettled (front ++ text))
    (back : List Char) (cased : Bool) :
    lowerWithin back ((trailingCase front).getD cased) text =
      lowerWithin [] ((trailingCase front).getD false) text := by
  induction text generalizing front with
  | nil => rfl
  | cons c rest ih =>
    have next (cased : Bool) :
        (if isPassed c then (trailingCase front).getD cased else isCased c) =
          (trailingCase (front ++ [c])).getD cased := by
      rw [trailingCase_append, trailingCase_singleton]
      cases isPassed c <;> rfl
    have same (sigma : c = 'Σ') :
        ((trailingCase front).getD cased && !startsCased (rest ++ back)) =
          ((trailingCase front).getD false && !startsCased (rest ++ [])) := by
      rw [startsCased_eq, startsCased_eq, leadingCase_append, List.append_nil]
      rcases h front rest (sigma ▸ rfl) with before | after | ⟨before, after⟩
      · rw [before]
        rfl
      · rw [after]
        simp
      · rw [before, after]
        rfl
    rw [lowerWithin, lowerWithin, next, next, ih (List.append_cons front c rest ▸ h)]
    split
    · rw [same ‹_›]
    · rfl

/-- So a settled text has its own small letters as a part of those of every text around it. -/
theorem IsSettled.infix_lower {text : List Char} (h : IsSettled text) (front back : List Char) :
    lower text <:+: lower (front ++ text ++ back) := by
  have here : lowerWithin back ((trailingCase front).getD false) text = lowerWithin [] false text :=
    @lowerWithin_of_isSettled [] text h back ((trailingCase front).getD false)
  rw [lower_eq, lower_eq, List.append_assoc, lowerWithin_append, lowerWithin_append,
    List.append_nil, List.append_nil, here, ← List.append_assoc]
  exact ⟨_, _, rfl⟩

/-! ## Texts that are not settled -/

/-- The small letters of a text around one of its sigmas. -/
theorem lowerWithin_sigma (next : List Char) (cased : Bool) (front back : List Char) :
    lowerWithin next cased (front ++ 'Σ' :: back) =
      lowerWithin ('Σ' :: back) cased front ++
        (if (trailingCase front).getD cased && !startsCased (back ++ next) then 'ς' else 'σ') ::
        lowerWithin next true back := by
  have front_eq := lowerWithin_congr
    ((leadingCase_sigma (back ++ next)).trans (leadingCase_sigma back).symm) cased front
  rw [lowerWithin_append, List.cons_append, front_eq, lowerWithin, if_pos rfl, isPassed_sigma,
    isCased_sigma]
  rfl

/-- A letter that stands once more in the first text than in the second one keeps it from being a
part of that. -/
theorem not_infix_of_count_lt {c : Char} {s t : List Char} (h : t.count c < s.count c) :
    ¬ s <:+: t :=
  fun part => Nat.not_lt.2 (part.sublist.count_le c) h

theorem startsCased_append_of_ne {back next : List Char} (last : leadingCase back ≠ some true)
    (h : leadingCase next = none) : startsCased (back ++ next) = false := by
  rw [startsCased_eq, leadingCase_append, h, Option.or_none]
  revert last
  rcases leadingCase back with _ | _ | _ <;> simp

/-- Where nothing decides what stands before a sigma that could close its word, a letter put before
the text makes it do so. -/
theorem not_infix_of_leading {front back : List Char} (before : trailingCase front = none)
    (after : leadingCase back ≠ some true) :
    ¬ lower (front ++ 'Σ' :: back) <:+: lower ('A' :: (front ++ 'Σ' :: back)) := by
  have passed := isPassed_of_trailingCase before
  have follows : startsCased (back ++ []) = false := startsCased_append_of_ne after rfl
  have alone : lower (front ++ 'Σ' :: back) =
      front.flatMap lowerChar ++ 'σ' :: lowerWithin [] true back := by
    rw [lower_eq, lowerWithin_sigma, lowerWithin_of_isPassed _ _ passed, before]
    rfl
  have within : lower ('A' :: (front ++ 'Σ' :: back)) =
      'a' :: (front.flatMap lowerChar ++ 'ς' :: lowerWithin [] true back) := by
    have letter : (if isPassed 'A' then false else isCased 'A') = true := by decide +kernel
    rw [lower_eq, lowerWithin, letter, lowerWithin_sigma, lowerWithin_of_isPassed _ _ passed,
      before, follows]
    rfl
  refine not_infix_of_count_lt (c := 'σ') ?_
  rw [alone, within]
  simp

/-- Where nothing decides what stands after a sigma that closes its word, a letter put after the
text keeps it from doing so. -/
theorem not_infix_of_trailing {front back : List Char} (before : trailingCase front = some true)
    (after : leadingCase back = none) :
    ¬ lower (front ++ 'Σ' :: back) <:+: lower (front ++ 'Σ' :: back ++ ['A']) := by
  have passed := isPassed_of_leadingCase after
  have alone : lower (front ++ 'Σ' :: back) =
      lowerWithin ('Σ' :: back) false front ++ 'ς' :: back.flatMap lowerChar := by
    have follows : startsCased (back ++ []) = false :=
      startsCased_append_of_ne (by rw [after]; nofun) rfl
    rw [lower_eq, lowerWithin_sigma, lowerWithin_of_isPassed _ _ passed, before, follows]
    rfl
  have within : lower (front ++ 'Σ' :: back ++ ['A']) =
      lowerWithin ('Σ' :: back) false front ++ 'σ' :: back.flatMap lowerChar ++ ['a'] := by
    have follows : startsCased (back ++ ['A']) = true := by
      rw [startsCased_eq, leadingCase_append, after]
      decide +kernel
    rw [lower_eq, lowerWithin_append, List.append_nil, lowerWithin_sigma,
      lowerWithin_of_isPassed _ _ passed, before, follows]
    rfl
  refine not_infix_of_count_lt (c := 'ς') ?_
  rw [alone, within]
  simp

/-- Exactly the settled texts are found, in small letters, in every text that they are a part of. -/
theorem forall_infix_lower_iff {text : List Char} :
    (∀ longer, text <:+: longer → lower text <:+: lower longer) ↔ IsSettled text := by
  constructor
  · rintro found front back rfl
    by_contra unsettled
    obtain ⟨notUncased, rest⟩ := not_or.1 unsettled
    obtain ⟨notCased, undecided⟩ := not_or.1 rest
    rcases before : trailingCase front with _ | _ | _
    · exact not_infix_of_leading before notCased (found _ (List.suffix_cons _ _).isInfix)
    · exact notUncased before
    · rcases after : leadingCase back with _ | _ | _
      · exact not_infix_of_trailing before after (found _ (List.prefix_append _ _).isInfix)
      · exact undecided ⟨before, after⟩
      · exact notCased after
  · rintro settled _ ⟨front, back, rfl⟩
    exact settled.infix_lower front back

end PlanCompiler.Text
