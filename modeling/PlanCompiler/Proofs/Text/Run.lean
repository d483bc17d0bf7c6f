import Mathlib.Data.List.Infix
import PlanCompiler.Text.Run

/-!
# Texts taken apart and put together

* `parts_append`, `parts_of_not_mem`: a text cut at its separators;
* `joined_parts`, `parts_joined`: the parts joined again, and joined parts cut;
* `runs_joined`: parts without a separator in them are the runs of the text that they are joined to;
* `occursIn_iff`: finding a text in another.
-/

namespace PlanCompiler.Text

/-- What a list has passed a test for holds of all its characters. -/
theorem forall_mem_of_all {P : Char → Prop} [DecidablePred P] {s : List Char}
    (h : s.all (fun c => decide (P c)) = true) : ∀ c ∈ s, P c :=
  fun c hc => of_decide_eq_true (List.all_eq_true.1 h c hc)

/-! ## Parts between separators -/

section Parts

variable {separator : Char}

theorem exists_parts_eq_cons (separator : Char) (s : List Char) :
    ∃ part others, parts separator s = part :: others := by
  cases s with
  | nil => exact ⟨_, _, rfl⟩
  | cons c rest =>
    rw [parts]
    split
    · split <;> exact ⟨_, _, rfl⟩
    · exact ⟨_, _, rfl⟩

theorem parts_ne_nil (separator : Char) (s : List Char) : parts separator s ≠ [] := by
  obtain ⟨part, others, cut⟩ := exists_parts_eq_cons separator s
  rw [cut]
  exact List.cons_ne_nil part others

/-- What stands on both sides of a separator is cut apart. -/
theorem parts_append (separator : Char) (s rest : List Char) :
    parts separator (s ++ separator :: rest) = parts separator s ++ parts separator rest := by
  induction s with
  | nil =>
    obtain ⟨part, others, cut⟩ := exists_parts_eq_cons separator rest
    rw [List.nil_append, parts, parts, cut]
    exact if_pos rfl
  | cons c s ih =>
    obtain ⟨part, others, cut⟩ := exists_parts_eq_cons separator s
    rw [List.cons_append, parts, ih, parts, cut]
    dsimp only [List.cons_append]
    split <;> rfl

theorem parts_of_not_mem {s : List Char} (h : separator ∉ s) : parts separator s = [s] := by
  induction s with
  | nil => rfl
  | cons c s ih =>
    rw [List.mem_cons, not_or] at h
    rw [parts, ih h.2]
    exact if_neg (Ne.symm h.1)

theorem not_mem_of_mem_parts {s part : List Char} (h : part ∈ parts separator s) :
    separator ∉ part := by
  induction s generalizing part with
  | nil => simp [List.mem_singleton.1 h]
  | cons c s ih =>
    obtain ⟨first, others, cut⟩ := exists_parts_eq_cons separator s
    rw [cut] at ih
    rw [parts, cut] at h
    dsimp only at h
    split at h
    · rcases List.mem_cons.1 h with rfl | later
      · exact List.not_mem_nil
      · exact ih later
    · rename_i other
      rcases List.mem_cons.1 h with rfl | later
      · rw [List.mem_cons, not_or]
        exact ⟨Ne.symm other, ih List.mem_cons_self⟩
      · exact ih (List.mem_cons_of_mem _ later)

/-- A separator cuts a text into more parts than one. -/
theorem one_lt_length_parts {s : List Char} (h : separator ∈ s) :
    1 < (parts separator s).length := by
  obtain ⟨before, after, rfl⟩ := List.append_of_mem h
  have left := List.length_pos_iff.2 (parts_ne_nil separator before)
  have right := List.length_pos_iff.2 (parts_ne_nil separator after)
  rw [parts_append, List.length_append]
  omega

end Parts

/-! ## Parts joined -/

section Joined

theorem joined_cons_cons (separator : List Char) (part next : List Char)
    (others : List (List Char)) : joined separator (part :: next :: others) =
      part ++ separator ++ joined separator (next :: others) := rfl

theorem joined_cons_of_ne_nil {separator part : List Char} {others : List (List Char)}
    (h : others ≠ []) :
    joined separator (part :: others) = part ++ separator ++ joined separator others := by
  cases others with
  | nil => exact absurd rfl h
  | cons next others => rfl

/-- What begins the first part begins the whole. -/
theorem joined_append_cons (separator part next : List Char) (rest : List (List Char)) :
    joined separator ((part ++ next) :: rest) = part ++ joined separator (next :: rest) := by
  cases rest with
  | nil => rfl
  | cons other others => simp [joined_cons_cons]

theorem mem_joined {c : Char} {separator : List Char} {texts : List (List Char)}
    (h : c ∈ joined separator texts) : c ∈ separator ∨ ∃ part ∈ texts, c ∈ part := by
  induction texts with
  | nil => cases h
  | cons part others ih =>
    cases others with
    | nil => exact .inr ⟨part, List.mem_cons_self, h⟩
    | cons next others =>
      rw [joined_cons_cons, List.mem_append, List.mem_append] at h
      rcases h with (here | separates) | later
      · exact .inr ⟨part, List.mem_cons_self, here⟩
      · exact .inl separates
      · exact (ih later).imp id fun ⟨text, mem, inside⟩ =>
          ⟨text, List.mem_cons_of_mem _ mem, inside⟩

theorem joined_append {separator : List Char} {texts others : List (List Char)}
    (left : texts ≠ []) (right : others ≠ []) :
    joined separator (texts ++ others) =
      joined separator texts ++ separator ++ joined separator others := by
  induction texts with
  | nil => exact absurd rfl left
  | cons part texts ih =>
    cases texts with
    | nil => exact joined_cons_of_ne_nil right
    | cons next texts =>
      have later := ih (List.cons_ne_nil _ _)
      rw [List.cons_append] at later
      rw [List.cons_append, List.cons_append, joined_cons_cons, later, joined_cons_cons]
      simp only [List.append_assoc]

theorem flatMap_joined (f : Char → List Char) (separator : List Char) (texts : List (List Char)) :
    (joined separator texts).flatMap f =
      joined (separator.flatMap f) (texts.map fun text => text.flatMap f) := by
  induction texts with
  | nil => rfl
  | cons part others ih =>
    cases others with
    | nil => rfl
    | cons next others =>
      rw [joined_cons_cons, List.flatMap_append, List.flatMap_append, ih]
      rfl

theorem map_joined (f : Char → Char) (separator : List Char) (texts : List (List Char)) :
    (joined separator texts).map f =
      joined (separator.map f) (texts.map fun text => text.map f) := by
  simpa only [List.map_eq_flatMap] using flatMap_joined (fun c => [f c]) separator texts

/-- Parts in front of others make the whole no shorter. -/
theorem length_joined_le_append (separator : List Char) {others : List (List Char)}
    (h : others ≠ []) (texts : List (List Char)) :
    (joined separator others).length ≤ (joined separator (texts ++ others)).length := by
  induction texts with
  | nil => exact Nat.le_refl _
  | cons part texts ih =>
    rw [List.cons_append, joined_cons_of_ne_nil (List.append_ne_nil_of_right_ne_nil texts h),
      List.length_append]
    exact Nat.le_add_left_of_le ih

@[simp] theorem joined_parts (separator : Char) (s : List Char) :
    joined [separator] (parts separator s) = s := by
  induction s with
  | nil => rfl
  | cons c s ih =>
    obtain ⟨part, others, cut⟩ := exists_parts_eq_cons separator s
    rw [cut] at ih
    rw [parts, cut]
    dsimp only
    split
    · rename_i same
      rw [joined_cons_cons, ih, same]
      rfl
    · exact (joined_append_cons [separator] [c] part others).trans (congrArg (c :: ·) ih)

/-- Parts without a separator in them are told apart again after they were joined. -/
theorem parts_joined {separator : Char} {texts : List (List Char)} (filled : texts ≠ [])
    (free : ∀ part ∈ texts, separator ∉ part) :
    parts separator (joined [separator] texts) = texts := by
  induction texts with
  | nil => exact absurd rfl filled
  | cons part others ih =>
    have here := parts_of_not_mem (free part List.mem_cons_self)
    cases others with
    | nil => exact here
    | cons next others =>
      rw [joined_cons_cons, List.append_assoc, List.singleton_append, parts_append, here,
        ih (List.cons_ne_nil _ _) fun t ht => free t (List.mem_cons_of_mem _ ht)]
      rfl

theorem toList_intercalate (separator : String) (texts : List String) :
    (separator.intercalate texts).toList = joined separator.toList (texts.map String.toList) := by
  induction texts with
  | nil => rfl
  | cons text others ih =>
    cases others with
    | nil => simp [joined]
    | cons next others =>
      rw [String.intercalate_cons_cons, String.toList_append, String.toList_append, ih]
      rfl

end Joined

/-! ## Runs -/

section Runs

variable {p : Char → Bool} {s : List Char} {separator : Char}

theorem runs_cons_of_stop (stop : p separator = false) (rest : List Char) :
    runs p (separator :: rest) = runs p rest :=
  if_neg (Bool.eq_false_iff.1 stop)

/-- A run goes on with the next character that satisfies the test. -/
theorem runs_cons_cons {c next : Char} {rest run : List Char} {others : List (List Char)}
    (first : p c = true) (second : p next = true) (h : runs p (next :: rest) = run :: others) :
    runs p (c :: next :: rest) = (c :: run) :: others := by
  refine (if_pos first).trans ?_
  rw [h]
  exact if_pos second

/-- A run ends before a separator. -/
theorem runs_cons_cons_of_stop {c : Char} (first : p c = true) (stop : p separator = false)
    (rest : List Char) : runs p (c :: separator :: rest) = [c] :: runs p (separator :: rest) := by
  refine (if_pos first).trans ?_
  cases runs p (separator :: rest) with
  | nil => rfl
  | cons run others => exact if_neg (Bool.eq_false_iff.1 stop)

theorem runs_append (filled : s ≠ []) (all : ∀ c ∈ s, p c = true) (stop : p separator = false)
    (rest : List Char) : runs p (s ++ separator :: rest) = s :: runs p rest := by
  induction s with
  | nil => exact absurd rfl filled
  | cons c s ih =>
    have first := all c List.mem_cons_self
    cases s with
    | nil =>
      rw [List.singleton_append, runs_cons_cons_of_stop first stop, runs_cons_of_stop stop]
    | cons next s =>
      have later := ih (List.cons_ne_nil _ _) fun d hd => all d (List.mem_cons_of_mem _ hd)
      exact runs_cons_cons first (all next (by simp)) later

theorem runs_of_all (filled : s ≠ []) (all : ∀ c ∈ s, p c = true) : runs p s = [s] := by
  induction s with
  | nil => exact absurd rfl filled
  | cons c s ih =>
    have first := all c List.mem_cons_self
    cases s with
    | nil => exact if_pos first
    | cons next s =>
      have later := ih (List.cons_ne_nil _ _) fun d hd => all d (List.mem_cons_of_mem _ hd)
      exact runs_cons_cons first (all next (by simp)) later

/-- Parts that are not empty and hold no separator are told apart again after they were joined. -/
theorem runs_joined (stop : p separator = false) {texts : List (List Char)}
    (filled : ∀ part ∈ texts, part ≠ []) (all : ∀ part ∈ texts, ∀ c ∈ part, p c = true) :
    runs p (joined [separator] texts) = texts := by
  induction texts with
  | nil => rfl
  | cons part others ih =>
    have here := filled part List.mem_cons_self
    have whole := all part List.mem_cons_self
    cases others with
    | nil => exact runs_of_all here whole
    | cons next others =>
      rw [joined_cons_cons, List.append_assoc, List.singleton_append, runs_append here whole stop,
        ih (fun t ht => filled t (List.mem_cons_of_mem _ ht))
          fun t ht => all t (List.mem_cons_of_mem _ ht)]

end Runs

/-! ## One text in another -/

/-- A text is found in another exactly if it is a contiguous part of it. -/
theorem occursIn_iff {needle text : List Char} :
    occursIn needle text = true ↔ needle <:+: text := by
  induction text with
  | nil => rw [occursIn, List.isEmpty_iff, List.infix_nil]
  | cons c rest ih =>
    rw [occursIn, Bool.or_eq_true, List.isPrefixOf_iff_prefix, ih, List.infix_cons_iff]

end PlanCompiler.Text
