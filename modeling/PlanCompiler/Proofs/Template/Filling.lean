import PlanCompiler.Template

/-!
# Filling templates

A template is read from left to right: where a placeholder begins, it is taken as a whole, and any
other character stands for itself. What goes in for a placeholder is not read again.

* `leading?_eq_some_iff`: when a text begins with a placeholder;
* `pieces_brace_append`, `pieces_cons`: the pieces of a text, one at a time, and `piece_induction`
  over them;
* `Filled`: a text is a template with its placeholders replaced;
* `filled_iff`: filling gives this text and no other.
-/

namespace PlanCompiler.Template

open Text

/-! ## Pieces -/

theorem isIdentifier_iff {id : List Char} :
    isIdentifier id = true ↔ id ≠ [] ∧ ∀ c ∈ id, isWordChar c = true := by
  simp [isIdentifier]

/-- A text begins with a placeholder as it is written. -/
theorem leading?_eq_some_iff {s id : List Char} :
    leading? s = some id ↔ isIdentifier id = true ∧ ∃ rest, s = brace id ++ rest := by
  constructor
  · intro h
    unfold leading? at h
    split at h
    · rename_i rest
      dsimp only at h
      split at h
      · rename_i first more tail taken dropped
        obtain rfl := Option.some.inj h
        refine ⟨isIdentifier_iff.2 ⟨by rw [taken]; exact List.cons_ne_nil _ _, ?_⟩, tail, ?_⟩
        · exact List.all_eq_true.1 List.all_takeWhile
        · have whole := List.takeWhile_append_dropWhile (p := isWordChar) (l := rest)
          rw [dropped] at whole
          simp only [brace, List.cons_append, List.append_assoc, List.nil_append, whole]
      · cases h
    · cases h
  · rintro ⟨word, rest, rfl⟩
    obtain ⟨filled, word⟩ := isIdentifier_iff.1 word
    have stop : ¬ isWordChar '\x7d' = true := by decide
    have taken : (id ++ '\x7d' :: '\x7d' :: rest).takeWhile isWordChar = id := by
      rw [List.takeWhile_append_of_pos word, List.takeWhile_cons_of_neg stop, List.append_nil]
    have dropped : (id ++ '\x7d' :: '\x7d' :: rest).dropWhile isWordChar =
        '\x7d' :: '\x7d' :: rest := by
      rw [List.dropWhile_append_of_pos word, List.dropWhile_cons_of_neg stop]
    obtain ⟨first, more, rfl⟩ := List.exists_cons_of_ne_nil filled
    rw [List.cons_append] at taken dropped
    simp only [brace, List.cons_append, List.append_assoc, List.nil_append, leading?]
    rw [taken, dropped]
    rfl

/-- The characters that a placeholder covers are passed over. -/
theorem piecesAfter_append (covered rest : List Char) :
    piecesAfter covered.length (covered ++ rest) = pieces rest := by
  induction covered with
  | nil => rfl
  | cons c covered ih => exact ih

theorem pieces_brace_append {id : List Char} (word : isIdentifier id = true) (rest : List Char) :
    pieces (brace id ++ rest) = .placeholder id :: pieces rest := by
  have leads := leading?_eq_some_iff.2 ⟨word, rest, rfl⟩
  have covered := piecesAfter_append ('\x7b' :: id ++ ['\x7d', '\x7d']) rest
  simp only [brace, List.cons_append, List.length_cons, List.length_append, List.length_nil,
    List.append_assoc, List.nil_append] at leads covered ⊢
  rw [pieces, piecesAfter, leads]
  exact congrArg _ covered

theorem pieces_cons {c : Char} {rest : List Char} (h : leading? (c :: rest) = none) :
    pieces (c :: rest) = .verbatim c :: pieces rest := by
  rw [pieces, piecesAfter, h]
  rfl

/-- What holds of the empty text, and still holds with a placeholder or with any other character put
in front, holds of every text. -/
theorem piece_induction {P : List Char → Prop} (nil : P [])
    (placeholder : ∀ id rest, isIdentifier id = true → P rest → P (brace id ++ rest))
    (verbatim : ∀ c rest, leading? (c :: rest) = none → P rest → P (c :: rest)) :
    (content : List Char) → P content
  | [] => nil
  | c :: rest => by
    cases leads : leading? (c :: rest) with
    | none => exact verbatim c rest leads (piece_induction nil placeholder verbatim rest)
    | some id =>
      obtain ⟨word, tail, eq⟩ := leading?_eq_some_iff.1 leads
      have shorter : tail.length < (c :: rest).length := by
        rw [eq, List.length_append]
        simp [brace]
      rw [eq]
      exact placeholder id tail word (piece_induction nil placeholder verbatim tail)
  termination_by content => content.length
  decreasing_by
    · exact Nat.lt_succ_self _
    · exact shorter

/-! ## Filled templates -/

/-- The text is the template with every placeholder replaced by its value. One without a value stays
as it is written. -/
inductive Filled (values : String → Option String) : List Char → List Char → Prop
  | nil : Filled values [] []
  | replaced {id rest text : List Char} {value : String} (word : isIdentifier id = true)
    (found : values (String.ofList id) = some value) (later : Filled values rest text) :
    Filled values (brace id ++ rest) (value.toList ++ text)
  | left {id rest text : List Char} (word : isIdentifier id = true)
    (missing : values (String.ofList id) = none) (later : Filled values rest text) :
    Filled values (brace id ++ rest) (brace id ++ text)
  /-- A character at which no placeholder begins. -/
  | verbatim {c : Char} {rest text : List Char}
    (none : ∀ id tail, isIdentifier id = true → c :: rest ≠ brace id ++ tail)
    (later : Filled values rest text) : Filled values (c :: rest) (c :: text)

variable {values : String → Option String}

theorem leading?_eq_none_iff {s : List Char} :
    leading? s = none ↔ ∀ id tail, isIdentifier id = true → s ≠ brace id ++ tail := by
  rw [Option.eq_none_iff_forall_ne_some]
  simp only [ne_eq, leading?_eq_some_iff, not_and, not_exists]
  exact ⟨fun h id tail word => h id word tail, fun h id word tail => h id tail word⟩

theorem filled_pieces (content : List Char) :
    Filled values content ((pieces content).flatMap (Piece.fill values)) := by
  induction content using piece_induction with
  | nil => exact .nil
  | placeholder id rest word ih =>
    rw [pieces_brace_append word, List.flatMap_cons, Piece.fill]
    cases found : values (String.ofList id) with
    | none => exact .left word found ih
    | some value => exact .replaced word found ih
  | verbatim c rest none ih =>
    rw [pieces_cons none]
    exact .verbatim (leading?_eq_none_iff.1 none) ih

theorem Filled.eq_pieces {content text : List Char} (h : Filled values content text) :
    text = (pieces content).flatMap (Piece.fill values) := by
  induction h with
  | nil => rfl
  | replaced word found _ ih =>
    rw [pieces_brace_append word, List.flatMap_cons, ← ih, Piece.fill, found]
  | left word missing _ ih =>
    rw [pieces_brace_append word, List.flatMap_cons, ← ih, Piece.fill, missing]
  | verbatim none _ ih =>
    rw [pieces_cons (leading?_eq_none_iff.2 none), List.flatMap_cons, ← ih]
    rfl

/-- Filling gives the template with its placeholders replaced, and nothing else is that. -/
theorem filled_iff {content : String} {text : List Char} :
    Filled values content.toList text ↔ text = (fill values content).toList := by
  rw [fill, String.toList_ofList]
  refine ⟨Filled.eq_pieces, ?_⟩
  rintro rfl
  exact filled_pieces _

end PlanCompiler.Template
