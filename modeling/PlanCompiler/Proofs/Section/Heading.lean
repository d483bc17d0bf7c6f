import PlanCompiler.Proofs.Text.Run
import PlanCompiler.Section

/-!
# Headings of sections with keys in camel case

The key of an unknown section is cut into words where a capital follows a small letter. So the words
of a key in camel case come back in its heading as long as each of them ends in a small letter where
the next one begins. The first word always does. A later one of a single letter is a capital in the
key, and no more; it is not cut from the word after it.

* `camelCased`: words joined to a key;
* `shownWords`: the words that come back, with `wordsOf_camelCased`;
* `heading_camelCased_iff`: when they are those that the key was made of;
* `heading_planBForRetirement`: a key that they do not come back from.
-/

namespace PlanCompiler.Section

open Text

/-! ## Letters -/

/-- The small letters of the ASCII alphabet. -/
def alphabet : List Char := "abcdefghijklmnopqrstuvwxyz".toList

/-- A letter of the ASCII alphabet, small or capital. -/
def IsLetter (c : Char) : Prop :=
  c ∈ alphabet ++ alphabet.map Char.toUpper

theorem isLetter_of_mem {c : Char} (h : c ∈ alphabet) : IsLetter c :=
  List.mem_append_left _ h

theorem isLetter_toUpper {c : Char} (h : c ∈ alphabet) : IsLetter c.toUpper :=
  List.mem_append_right _ (List.mem_map_of_mem h)

theorem isSmall_of_mem : ∀ c ∈ alphabet, isSmall c = true ∧ isCapital c = false :=
  forall_mem_of_all (by decide)

theorem isCapital_toUpper : ∀ c ∈ alphabet,
    isCapital c.toUpper = true ∧ isSmall c.toUpper = false :=
  forall_mem_of_all (by decide)

/-- Neither separates a letter words nor is it changed by what is done to separators, and its
capital form is a letter. -/
theorem kept_of_isLetter : ∀ c, IsLetter c →
    isBlank c = false ∧ separated c = c ∧ upperChar c = [c.toUpper] ∧
      c.toUpper.toUpper = c.toUpper :=
  forall_mem_of_all (by decide)

/-! ## Words -/

/-- One or more small letters. -/
structure IsWord (word : List Char) : Prop where
  filled : word ≠ []
  small : ∀ c ∈ word, c ∈ alphabet

instance : DecidablePred IsWord := fun word =>
  decidable_of_iff (word ≠ [] ∧ word.all (fun c => decide (c ∈ alphabet)) = true)
    ⟨fun h => ⟨h.1, forall_mem_of_all h.2⟩, fun h => ⟨h.filled, by simpa using h.small⟩⟩

/-- One or more letters, small or capital. -/
structure IsLettered (word : List Char) : Prop where
  filled : word ≠ []
  letters : ∀ c ∈ word, IsLetter c

/-- The word with a capital at its beginning. -/
def capitalized : List Char → List Char
  | [] => []
  | c :: rest => c.toUpper :: rest

/-- Words joined in camel case: the first one as it is, every later one with a capital. -/
def camelCased : List (List Char) → List Char
  | [] => []
  | first :: others => first ++ others.flatMap capitalized

/-- Words of a key behind its first one as they are told apart: one of a single letter stays with
the word after it. -/
def gathered : List (List Char) → List (List Char)
  | [] => []
  | word :: others =>
    if word.length = 1 then
      match gathered others with
      | [] => [word]
      | next :: rest => (word ++ next) :: rest
    else word :: gathered others

/-- The words of a key as they are told apart. -/
def shownWords : List (List Char) → List (List Char)
  | [] => []
  | first :: others => first :: gathered others

variable {words : List (List Char)} {word : List Char}

theorem IsWord.isLettered (h : IsWord word) : IsLettered word :=
  ⟨h.filled, fun c hc => isLetter_of_mem (h.small c hc)⟩

theorem IsWord.isLettered_capitalized (h : IsWord word) : IsLettered (capitalized word) := by
  obtain ⟨filled, small⟩ := h
  obtain ⟨c, tail, rfl⟩ := List.exists_cons_of_ne_nil filled
  obtain ⟨first, later⟩ := List.forall_mem_cons.1 small
  exact ⟨List.cons_ne_nil _ _, List.forall_mem_cons.2
    ⟨isLetter_toUpper first, fun d hd => isLetter_of_mem (later d hd)⟩⟩

theorem IsLettered.append {next : List Char} (h : IsLettered word) (hn : IsLettered next) :
    IsLettered (word ++ next) :=
  ⟨List.append_ne_nil_of_left_ne_nil h.filled _, List.forall_mem_append.2 ⟨h.letters, hn.letters⟩⟩

theorem IsLettered.upper_eq (h : IsLettered word) : upper word = word.map Char.toUpper := by
  rw [List.map_eq_flatMap]
  exact List.flatMap_congr fun c hc => (kept_of_isLetter c (h.letters c hc)).2.2.1

theorem IsLettered.map_separated (h : IsLettered word) : word.map separated = word :=
  (List.map_congr_left fun c hc => (kept_of_isLetter c (h.letters c hc)).2.1).trans (List.map_id _)

theorem IsWord.append {next : List Char} (h : IsWord word) (hn : IsWord next) :
    IsWord (word ++ next) :=
  ⟨List.append_ne_nil_of_left_ne_nil h.filled _, List.forall_mem_append.2 ⟨h.small, hn.small⟩⟩

theorem IsWord.isLettered_upper (h : IsWord word) : IsLettered (upper word) := by
  rw [h.isLettered.upper_eq]
  refine ⟨fun none => h.filled (List.map_eq_nil_iff.1 none), ?_⟩
  exact List.forall_mem_map.2 fun c hc => isLetter_toUpper (h.small c hc)

theorem IsWord.upper_capitalized (h : IsWord word) : upper (capitalized word) = upper word := by
  rw [h.isLettered_capitalized.upper_eq, h.isLettered.upper_eq]
  obtain ⟨c, tail, rfl⟩ := List.exists_cons_of_ne_nil h.filled
  have capital := (kept_of_isLetter c (h.isLettered.letters c List.mem_cons_self)).2.2.2
  rw [capitalized, List.map_cons, List.map_cons, capital]

theorem gathered_ne_nil (h : words ≠ []) : gathered words ≠ [] := by
  cases words with
  | nil => exact absurd rfl h
  | cons word others =>
    rw [gathered]
    split
    · split <;> exact List.cons_ne_nil _ _
    · exact List.cons_ne_nil _ _

theorem gathered_cons_of_length_ne_one (h : word.length ≠ 1) :
    gathered (word :: words) = word :: gathered words :=
  if_neg h

/-- Between a single letter and what comes next there is no separator. -/
theorem joined_gathered_singleton (separator : List Char) (c : Char) (words : List (List Char)) :
    joined separator (gathered ([c] :: words)) = c :: joined separator (gathered words) := by
  rw [gathered, if_pos List.length_singleton]
  cases gathered words with
  | nil => rfl
  | cons next rest => exact joined_append_cons separator [c] next rest

/-- What every word has, and two words put together, have the words that are told apart. -/
theorem forall_mem_gathered {P : List Char → Prop} (append : ∀ {word next}, P word → P next →
    P (word ++ next)) (h : ∀ word ∈ words, P word) : ∀ word ∈ gathered words, P word := by
  induction words with
  | nil => exact h
  | cons word others ih =>
    obtain ⟨here, later⟩ := List.forall_mem_cons.1 h
    have known := ih later
    rw [gathered]
    generalize gathered others = told at known
    split
    · cases told with
      | nil => exact List.forall_mem_singleton.2 here
      | cons next rest =>
        obtain ⟨second, others⟩ := List.forall_mem_cons.1 known
        exact List.forall_mem_cons.2 ⟨append here second, others⟩
    · exact List.forall_mem_cons.2 ⟨here, known⟩

/-- How words are told apart depends on their lengths only. -/
theorem gathered_map (f : Char → Char) (words : List (List Char)) :
    gathered (words.map (List.map f)) = (gathered words).map (List.map f) := by
  induction words with
  | nil => rfl
  | cons word others ih =>
    rw [List.map_cons, gathered, gathered, List.length_map, ih]
    split
    · cases gathered others with
      | nil => rfl
      | cons next rest => simp
    · rfl

/-! ## Cutting a key -/

theorem spaced_cons_of_cut {c next : Char} (small : isSmall c = true)
    (capital : isCapital next = true) (rest : List Char) :
    spaced (c :: next :: rest) = c :: ' ' :: spaced (next :: rest) := by
  rw [spaced, small, capital]
  rfl

/-- No space is put in front of a character that is not a capital. -/
theorem spaced_cons_of_not_isCapital (c : Char) {next : Char} (capital : isCapital next = false)
    (rest : List Char) : spaced (c :: next :: rest) = c :: spaced (next :: rest) := by
  rw [spaced, capital, Bool.and_false]
  rfl

/-- No space is put behind a character that is not small. -/
theorem spaced_cons_of_not_isSmall {c : Char} (small : isSmall c = false) (rest : List Char) :
    spaced (c :: rest) = c :: spaced rest := by
  cases rest with
  | nil => rfl
  | cons next rest =>
    rw [spaced, small]
    rfl

theorem spaced_of_small {s : List Char} (small : ∀ c ∈ s, c ∈ alphabet) : spaced s = s := by
  induction s with
  | nil => rfl
  | cons c s ih =>
    cases s with
    | nil => rfl
    | cons next s =>
      have stop := (isSmall_of_mem next (small next (by simp))).2
      rw [spaced_cons_of_not_isCapital c stop, ih fun d hd => small d (List.mem_cons_of_mem _ hd)]

/-- Small letters are cut from the capital behind them. -/
theorem spaced_append {s : List Char} {c : Char} (filled : s ≠ []) (small : ∀ d ∈ s, d ∈ alphabet)
    (capital : isCapital c = true) (rest : List Char) :
    spaced (s ++ c :: rest) = s ++ ' ' :: spaced (c :: rest) := by
  induction s with
  | nil => exact absurd rfl filled
  | cons d s ih =>
    cases s with
    | nil => exact spaced_cons_of_cut (isSmall_of_mem d (small d (by simp))).1 capital rest
    | cons next s =>
      have stop := (isSmall_of_mem next (small next (by simp))).2
      have later := ih (List.cons_ne_nil _ _) fun e he => small e (List.mem_cons_of_mem _ he)
      rw [List.cons_append, List.cons_append, spaced_cons_of_not_isCapital d stop,
        ← List.cons_append, later]
      rfl

/-- Small letters are cut from the capitalized words behind them, whatever becomes of these. -/
theorem spaced_append_flatMap {s : List Char} (filled : s ≠ []) (small : ∀ d ∈ s, d ∈ alphabet)
    (h : ∀ word ∈ words, IsWord word)
    (cut : spaced (words.flatMap capitalized) = joined [' '] (gathered (words.map capitalized))) :
    spaced (s ++ words.flatMap capitalized) =
      joined [' '] (s :: gathered (words.map capitalized)) := by
  cases words with
  | nil => rw [List.flatMap_nil, List.append_nil, spaced_of_small small]; rfl
  | cons word others =>
    obtain ⟨c, tail, rfl⟩ := List.exists_cons_of_ne_nil (h word List.mem_cons_self).filled
    have capital := (isCapital_toUpper c ((h _ List.mem_cons_self).small c (by simp))).1
    have more : gathered (((c :: tail) :: others).map capitalized) ≠ [] :=
      gathered_ne_nil (List.cons_ne_nil _ _)
    rw [joined_cons_of_ne_nil more, ← cut, List.flatMap_cons, capitalized, List.cons_append,
      spaced_append filled small capital]
    simp

/-- The words behind the first one are cut into those that are told apart. A word of one letter is
nothing but a capital, and nothing is cut behind it. -/
theorem spaced_flatMap (h : ∀ word ∈ words, IsWord word) :
    spaced (words.flatMap capitalized) = joined [' '] (gathered (words.map capitalized)) := by
  induction words with
  | nil => rfl
  | cons word others ih =>
    obtain ⟨⟨filled, small⟩, later⟩ := List.forall_mem_cons.1 h
    obtain ⟨c, tail, rfl⟩ := List.exists_cons_of_ne_nil filled
    obtain ⟨first, tailSmall⟩ := List.forall_mem_cons.1 small
    rw [List.flatMap_cons, capitalized, List.cons_append,
      spaced_cons_of_not_isSmall (isCapital_toUpper c first).2, List.map_cons, capitalized]
    cases tail with
    | nil => rw [List.nil_append, ih later, joined_gathered_singleton]
    | cons d tail =>
      rw [spaced_append_flatMap (List.cons_ne_nil _ _) tailSmall later (ih later),
        gathered_cons_of_length_ne_one (by simp), ← List.singleton_append, ← joined_append_cons]
      rfl

theorem spaced_camelCased {first : List Char} (h : ∀ word ∈ first :: words, IsWord word) :
    spaced (camelCased (first :: words)) =
      joined [' '] (first :: gathered (words.map capitalized)) := by
  obtain ⟨⟨filled, small⟩, later⟩ := List.forall_mem_cons.1 h
  exact spaced_append_flatMap filled small later (spaced_flatMap later)

/-! ## The heading -/

theorem isLettered_gathered (h : ∀ word ∈ words, IsLettered word) :
    ∀ word ∈ gathered words, IsLettered word :=
  forall_mem_gathered IsLettered.append h

theorem isLettered_capitalized (h : ∀ word ∈ words, IsWord word) :
    ∀ word ∈ words.map capitalized, IsLettered word :=
  List.forall_mem_map.2 fun word hw => (h word hw).isLettered_capitalized

/-- The words that a text of letters and single spaces was joined from. -/
theorem words_separated_joined (h : ∀ word ∈ words, IsLettered word) :
    Text.words ((joined [' '] words).map separated) = words := by
  have same : words.map (List.map separated) = words :=
    (List.map_congr_left fun word hw => (h word hw).map_separated).trans (List.map_id _)
  rw [map_joined, same]
  refine runs_joined (by decide) (fun word hw => (h word hw).filled) fun word hw c hc => ?_
  rw [(kept_of_isLetter c ((h word hw).letters c hc)).1]
  rfl

theorem upper_joined (words : List (List Char)) :
    upper (joined [' '] words) = joined [' '] (words.map upper) :=
  flatMap_joined upperChar [' '] words

theorem map_upper_of_isLettered (h : ∀ word ∈ words, IsLettered word) :
    words.map upper = words.map (List.map Char.toUpper) :=
  List.map_congr_left fun word hw => (h word hw).upper_eq

/-- In capitals nothing is left of the capitals in a key. -/
theorem map_upper_gathered_capitalized (h : ∀ word ∈ words, IsWord word) :
    (gathered (words.map capitalized)).map upper = (gathered words).map upper := by
  have small : ∀ word ∈ words, IsLettered word := fun word hw => (h word hw).isLettered
  have capital := isLettered_capitalized h
  have alike : (words.map capitalized).map upper = words.map upper := by
    rw [List.map_map]
    exact List.map_congr_left fun word hw => (h word hw).upper_capitalized
  rw [map_upper_of_isLettered capital, map_upper_of_isLettered small] at alike
  rw [map_upper_of_isLettered (isLettered_gathered capital),
    map_upper_of_isLettered (isLettered_gathered small), ← gathered_map, alike, gathered_map]

theorem wordsOf_camelCased (some : words ≠ []) (h : ∀ word ∈ words, IsWord word) :
    wordsOf (camelCased words) = joined [' '] ((shownWords words).map upper) := by
  obtain ⟨first, others, rfl⟩ := List.exists_cons_of_ne_nil some
  obtain ⟨here, later⟩ := List.forall_mem_cons.1 h
  have lettered : ∀ word ∈ first :: gathered (others.map capitalized), IsLettered word :=
    List.forall_mem_cons.2 ⟨here.isLettered, isLettered_gathered (isLettered_capitalized later)⟩
  rw [wordsOf, spaced_camelCased h, words_separated_joined lettered, upper_joined, shownWords,
    List.map_cons, map_upper_gathered_capitalized later, List.map_cons]

/-! ## Which words come back -/

theorem length_gathered_le (words : List (List Char)) :
    (gathered words).length ≤ words.length := by
  induction words with
  | nil => exact Nat.le_refl 0
  | cons word others ih =>
    rw [gathered]
    split
    · cases told : gathered others with
      | nil => simp
      | cons next rest =>
        rw [told, List.length_cons] at ih
        simp only [List.length_cons]
        omega
    · exact Nat.succ_le_succ ih

/-- All words are told apart if there is no word of one letter before the last one. -/
theorem gathered_eq_self (h : ∀ word ∈ words.dropLast, word.length ≠ 1) :
    gathered words = words := by
  induction words with
  | nil => rfl
  | cons word others ih =>
    cases others with
    | nil =>
      rw [gathered]
      split <;> rfl
    | cons next rest =>
      rw [List.dropLast_cons_cons] at h
      obtain ⟨here, later⟩ := List.forall_mem_cons.1 h
      rw [gathered_cons_of_length_ne_one here, ih later]

theorem length_gathered_lt {next : List Char} {rest : List (List Char)} (single : word.length = 1) :
    (gathered (word :: next :: rest)).length < (word :: next :: rest).length := by
  have bound := length_gathered_le (next :: rest)
  rw [gathered, if_pos single]
  cases told : gathered (next :: rest) with
  | nil => exact absurd told (gathered_ne_nil (List.cons_ne_nil _ _))
  | cons first others =>
    rw [told] at bound
    exact Nat.lt_succ_of_le bound

/-- A word of one letter before the last one is not told apart from the next. -/
theorem length_ne_one_of_length_gathered (h : (gathered words).length = words.length) :
    ∀ word ∈ words.dropLast, word.length ≠ 1 := by
  induction words with
  | nil => exact fun word hw => absurd hw List.not_mem_nil
  | cons word others ih =>
    cases others with
    | nil => exact fun word hw => absurd hw List.not_mem_nil
    | cons next rest =>
      have here : word.length ≠ 1 := fun single => (length_gathered_lt single).ne h
      rw [gathered_cons_of_length_ne_one here] at h
      rw [List.dropLast_cons_cons]
      exact List.forall_mem_cons.2 ⟨here, ih (Nat.succ.inj h)⟩

/-- Headings of different numbers of words are different. -/
theorem length_eq_of_joined_eq {others : List (List Char)} (hw : ∀ word ∈ words, IsWord word)
    (ho : ∀ word ∈ others, IsWord word)
    (h : joined [' '] (words.map upper) = joined [' '] (others.map upper)) :
    words.length = others.length := by
  have lettered {texts : List (List Char)} (ht : ∀ text ∈ texts, IsWord text) :
      ∀ text ∈ texts.map upper, IsLettered text :=
    List.forall_mem_map.2 fun text hx => (ht text hx).isLettered_upper
  have same := congrArg (fun s => Text.words (s.map separated)) h
  rw [words_separated_joined (lettered hw), words_separated_joined (lettered ho)] at same
  simpa using congrArg List.length same

theorem joined_shownWords_eq_iff (h : ∀ word ∈ words, IsWord word) :
    joined [' '] ((shownWords words).map upper) = joined [' '] (words.map upper) ↔
      ∀ word ∈ words.tail.dropLast, word.length ≠ 1 := by
  cases words with
  | nil => exact iff_of_true rfl fun word hw => absurd hw List.not_mem_nil
  | cons first others =>
    obtain ⟨here, later⟩ := List.forall_mem_cons.1 h
    rw [shownWords, List.tail_cons]
    constructor
    · intro same
      have shown : ∀ word ∈ first :: gathered others, IsWord word :=
        List.forall_mem_cons.2 ⟨here, forall_mem_gathered IsWord.append later⟩
      exact length_ne_one_of_length_gathered (Nat.succ.inj (length_eq_of_joined_eq shown h same))
    · intro long
      rw [gathered_eq_self long]

/-- The heading of an unknown section with a key in camel case shows the words that are told apart,
in capitals and joined by spaces. These are the words of the key unless one of them, neither the
first nor the last, is a single letter. -/
theorem heading_camelCased_iff (some : words ≠ []) (h : ∀ word ∈ words, IsWord word)
    (untitled : ∀ title ∈ titles, title.1 ≠ String.ofList (camelCased words)) :
    heading (String.ofList (camelCased words)) =
        String.ofList (joined [' '] ((shownWords words).map upper)) ∧
      (heading (String.ofList (camelCased words)) =
          String.ofList (joined [' '] (words.map upper)) ↔
        ∀ word ∈ words.tail.dropLast, word.length ≠ 1) := by
  have shown : heading (String.ofList (camelCased words)) =
      String.ofList (joined [' '] ((shownWords words).map upper)) := by
    have unknown : titles.lookup (String.ofList (camelCased words)) = none :=
      List.lookup_eq_none_iff.2 fun title ht => by simpa using (untitled title ht).symm
    rw [heading, unknown]
    dsimp only
    rw [String.toList_ofList, wordsOf_camelCased some h]
  refine ⟨shown, ?_⟩
  rw [shown, String.ofList_inj]
  exact joined_shownWords_eq_iff h

/-- Five words, the first and the last of them single letters. -/
def sampleWords : List (List Char) :=
  ["a".toList, "plan".toList, "for".toList, "retirement".toList, "x".toList]

/-- Single letters at both ends come back, so nothing is lost. -/
theorem heading_camelCased_iff_sample :
    (∀ word ∈ sampleWords, IsWord word) ∧
      String.ofList (camelCased sampleWords) = "aPlanForRetirementX" ∧
      (∀ title ∈ titles, title.1 ≠ "aPlanForRetirementX") ∧
      heading "aPlanForRetirementX" = "A PLAN FOR RETIREMENT X" := by
  have filled : sampleWords ≠ [] := List.cons_ne_nil _ _
  have small : ∀ word ∈ sampleWords, IsWord word := by decide
  have untitled : ∀ title ∈ titles, title.1 ≠ "aPlanForRetirementX" := by decide
  have key : String.ofList (camelCased sampleWords) = "aPlanForRetirementX" := by decide
  refine ⟨small, key, untitled, ?_⟩
  obtain ⟨-, comesBack⟩ := heading_camelCased_iff filled small (key ▸ untitled)
  rw [key] at comesBack
  exact comesBack.2 (by decide)

/-- The single letter in the middle is not cut from the word after it. -/
theorem heading_planBForRetirement :
    (∀ word ∈ ["plan".toList, "b".toList, "for".toList, "retirement".toList], IsWord word) ∧
      camelCased ["plan".toList, "b".toList, "for".toList, "retirement".toList] =
        "planBForRetirement".toList ∧
      (∀ title ∈ titles, title.1 ≠ "planBForRetirement") ∧
      heading "planBForRetirement" = "PLAN BFOR RETIREMENT" ∧
      heading "planBForRetirement" ≠ "PLAN B FOR RETIREMENT" := by
  decide +kernel

end PlanCompiler.Section
