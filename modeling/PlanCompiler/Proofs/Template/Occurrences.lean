import PlanCompiler.Proofs.Report.Rendering

/-!
# Where placeholders stand

A placeholder occurs wherever a text, read from some position on, begins with it as it is written.
Two occurrences never share a character: inside of a placeholder no two opening braces stand side by
side. So the one scan from left to right, which passes over what a placeholder covers, misses none
of them, and a text is filled by cutting it at every occurrence.

* `OccursAt`: a placeholder stands at a position; `OccursAt.apart`: two of them do not overlap;
* `occursAt_brace_append`, `occursAt_cons`: the occurrences in a text, one piece at a time;
* `Cut`: a text cut at placeholders; `Cut.IsComplete`: at all of them;
* `substitution_replaces_occurrences`: a text filled in, with paragraphs below.
-/

namespace PlanCompiler.Template

open Text

/-- From the position on, the text begins with a placeholder. -/
def OccursAt (content : List Char) (position : Nat) (id : List Char) : Prop :=
  isIdentifier id = true ∧ brace id <+: content.drop position

theorem occursAt_iff {content id : List Char} {position : Nat} :
    OccursAt content position id ↔ leading? (content.drop position) = some id := by
  rw [leading?_eq_some_iff, OccursAt]
  refine and_congr_right fun _ => exists_congr fun rest => eq_comm

theorem length_brace (id : List Char) : (brace id).length = id.length + 4 := by
  simp [brace]

/-- A placeholder has two opening braces in front. -/
theorem OccursAt.opening {content id : List Char} {position : Nat}
    (h : OccursAt content position id) :
    content[position]? = some '\x7b' ∧ content[position + 1]? = some '\x7b' := by
  obtain ⟨-, rest, eq⟩ := h
  have first : (content.drop position)[0]? = some '\x7b' := by rw [← eq]; rfl
  have second : (content.drop position)[1]? = some '\x7b' := by rw [← eq]; rfl
  rw [List.getElem?_drop] at first second
  exact ⟨first, second⟩

/-- Of the characters that a placeholder covers, only the first two are opening braces. -/
theorem getElem?_brace_ne {id : List Char} (word : isIdentifier id = true) {k : Nat}
    (inner : 2 ≤ k) : (brace id)[k]? ≠ some '\x7b' := by
  obtain ⟨k, rfl⟩ := Nat.exists_eq_add_of_le' inner
  intro opening
  have there : '\x7b' ∈ id ++ ['\x7d', '\x7d'] := List.mem_of_getElem? opening
  rcases List.mem_append.1 there with inId | closing
  · exact absurd ((isIdentifier_iff.1 word).2 _ inId) (by decide)
  · exact absurd closing (by decide)

/-- No placeholder begins inside of another one. -/
theorem not_occursAt_within {content id other : List Char} {position k : Nat}
    (h : OccursAt content position id) (pos : 0 < k) (within : k < (brace id).length) :
    ¬ OccursAt content (position + k) other := by
  intro inner
  obtain ⟨word, rest, eq⟩ := h
  have covered {m : Nat} (lt : m < (brace id).length) :
      content[position + m]? = (brace id)[m]? := by
    rw [← List.getElem?_drop, ← eq, List.getElem?_append_left lt]
  obtain ⟨first, second⟩ := inner.opening
  rw [covered within] at first
  -- The second brace of the inner placeholder is covered too, and only the first two are braces.
  have next : k + 1 < (brace id).length := by
    rcases Nat.lt_or_ge k 2 with early | late
    · have := length_brace id
      omega
    · exact absurd first (getElem?_brace_ne word late)
  rw [Nat.add_assoc, covered next] at second
  exact getElem?_brace_ne word (by omega) second

/-- Two occurrences are the same, or one ends before the other begins. -/
theorem OccursAt.apart {content id other : List Char} {i j : Nat} (h : OccursAt content i id)
    (h' : OccursAt content j other) :
    (i = j ∧ id = other) ∨ i + (brace id).length ≤ j ∨ j + (brace other).length ≤ i := by
  rcases Nat.lt_trichotomy i j with before | rfl | after
  · refine .inr (.inl (Nat.le_of_not_lt fun overlap => ?_))
    obtain ⟨k, rfl⟩ := Nat.exists_eq_add_of_le (Nat.le_of_lt before)
    exact not_occursAt_within h (by omega) (by omega) h'
  · rw [occursAt_iff] at h h'
    exact .inl ⟨rfl, Option.some.inj (h.symm.trans h')⟩
  · refine .inr (.inr (Nat.le_of_not_lt fun overlap => ?_))
    obtain ⟨k, rfl⟩ := Nat.exists_eq_add_of_le (Nat.le_of_lt after)
    exact not_occursAt_within h' (by omega) (by omega) h

/-! ## One piece at a time -/

theorem not_occursAt_nil {position : Nat} {id : List Char} : ¬ OccursAt [] position id := by
  rw [occursAt_iff, List.drop_nil]
  exact nofun

theorem occursAt_cons {c : Char} {rest : List Char} (none : leading? (c :: rest) = none)
    {position : Nat} {id : List Char} :
    OccursAt (c :: rest) position id ↔ ∃ later, position = 1 + later ∧ OccursAt rest later id := by
  cases position with
  | zero =>
    rw [occursAt_iff, List.drop_zero, none]
    exact ⟨nofun, fun ⟨later, eq, _⟩ => by omega⟩
  | succ later =>
    refine ⟨fun h => ⟨later, Nat.add_comm _ _, h⟩, fun ⟨same, eq, h⟩ => ?_⟩
    obtain rfl : later = same := by omega
    exact h

theorem occursAt_brace_append {id rest : List Char} (word : isIdentifier id = true)
    {position : Nat} {other : List Char} :
    OccursAt (brace id ++ rest) position other ↔ (position = 0 ∧ other = id) ∨
      ∃ later, position = (brace id).length + later ∧ OccursAt rest later other := by
  have first : OccursAt (brace id ++ rest) 0 id := ⟨word, List.prefix_append _ _⟩
  have behind (later : Nat) : OccursAt (brace id ++ rest) ((brace id).length + later) other ↔
      OccursAt rest later other := by
    rw [OccursAt, OccursAt, List.drop_length_add_append]
  constructor
  · intro h
    rcases first.apart h with ⟨rfl, rfl⟩ | after | overlap
    · exact .inl ⟨rfl, rfl⟩
    · rw [Nat.zero_add] at after
      obtain ⟨later, rfl⟩ := Nat.exists_eq_add_of_le after
      exact .inr ⟨later, rfl, (behind later).1 h⟩
    · have := length_brace other
      omega
  · rintro (⟨rfl, rfl⟩ | ⟨later, rfl, h⟩)
    · exact first
    · exact (behind later).2 h

/-! ## Cutting a text -/

/-- A text cut at placeholders: for each of them what stands before it and its identifier, and what
stands behind the last one. -/
structure Cut where
  parts : List (List Char × List Char)
  tail : List Char

namespace Cut

/-- The text put together again, with something in place of each placeholder. -/
def join (render : List Char → List Char) (cut : Cut) : List Char :=
  cut.parts.flatMap (fun part => part.1 ++ render part.2) ++ cut.tail

/-- The same identifier at a later position. -/
def shift (distance : Nat) (place : Nat × List Char) : Nat × List Char :=
  (distance + place.1, place.2)

/-- Where the placeholders stand before which there are the given parts. -/
def positionsOf : List (List Char × List Char) → List (Nat × List Char)
  | [] => []
  | (gap, id) :: rest =>
    (gap.length, id) :: (positionsOf rest).map (shift (gap.length + (brace id).length))

/-- Where the placeholders stand that a text is cut at. -/
def positions (cut : Cut) : List (Nat × List Char) :=
  positionsOf cut.parts

/-- The text is cut at placeholders, and at every occurrence of one. -/
structure IsComplete (content : List Char) (cut : Cut) : Prop where
  whole : cut.join brace = content
  occurrences : ∀ position id, OccursAt content position id ↔ (position, id) ∈ cut.positions

/-- A character in front. -/
def cons (c : Char) (cut : Cut) : Cut :=
  match cut.parts with
  | [] => { cut with tail := c :: cut.tail }
  | (gap, id) :: rest => { cut with parts := (c :: gap, id) :: rest }

/-- A placeholder in front. -/
def consPlaceholder (id : List Char) (cut : Cut) : Cut :=
  { cut with parts := ([], id) :: cut.parts }

/-- A text cut at the placeholders among its pieces. -/
def ofPieces : List Piece → Cut
  | [] => ⟨[], []⟩
  | .verbatim c :: rest => (ofPieces rest).cons c
  | .placeholder id :: rest => (ofPieces rest).consPlaceholder id

variable {cut : Cut} {content : List Char} {render : List Char → List Char}

theorem join_cons (render : List Char → List Char) (c : Char) (cut : Cut) :
    (cut.cons c).join render = c :: cut.join render := by
  obtain ⟨parts, tail⟩ := cut
  cases parts <;> rfl

theorem join_consPlaceholder (render : List Char → List Char) (id : List Char) (cut : Cut) :
    (cut.consPlaceholder id).join render = render id ++ cut.join render := by
  simp [join, consPlaceholder]

theorem mem_map_shift_iff {distance position : Nat} {id : List Char}
    {places : List (Nat × List Char)} : (position, id) ∈ places.map (shift distance) ↔
      ∃ later, position = distance + later ∧ (later, id) ∈ places := by
  rw [List.mem_map]
  constructor
  · rintro ⟨⟨later, _⟩, there, same⟩
    obtain ⟨rfl, rfl⟩ := Prod.mk.inj same
    exact ⟨later, rfl, there⟩
  · rintro ⟨later, rfl, there⟩
    exact ⟨_, there, rfl⟩

theorem positions_cons (c : Char) (cut : Cut) :
    (cut.cons c).positions = cut.positions.map (shift 1) := by
  obtain ⟨parts, tail⟩ := cut
  cases parts with
  | nil => rfl
  | cons part rest =>
    obtain ⟨gap, id⟩ := part
    simp only [cons, positions, positionsOf, List.map_cons, List.map_map, List.length_cons, shift]
    refine congrArg₂ List.cons (Prod.ext (Nat.add_comm _ _) rfl) (List.map_congr_left fun _ _ => ?_)
    exact Prod.ext (by simp only [Function.comp, shift]; omega) rfl

theorem positions_consPlaceholder (id : List Char) (cut : Cut) :
    (cut.consPlaceholder id).positions =
      (0, id) :: cut.positions.map (shift (brace id).length) := by
  simp [positions, consPlaceholder, positionsOf]

theorem isComplete_nil : IsComplete [] ⟨[], []⟩ :=
  ⟨rfl, fun _ _ => iff_of_false not_occursAt_nil List.not_mem_nil⟩

theorem IsComplete.cons {c : Char} (h : IsComplete content cut)
    (none : leading? (c :: content) = none) : IsComplete (c :: content) (cut.cons c) where
  whole := by rw [join_cons, h.whole]
  occurrences position id := by
    simp only [occursAt_cons none, positions_cons, mem_map_shift_iff, h.occurrences]

theorem IsComplete.consPlaceholder {id : List Char} (h : IsComplete content cut)
    (word : isIdentifier id = true) :
    IsComplete (brace id ++ content) (cut.consPlaceholder id) where
  whole := by rw [join_consPlaceholder, h.whole]
  occurrences position other := by
    simp only [occursAt_brace_append word, positions_consPlaceholder, List.mem_cons,
      mem_map_shift_iff, h.occurrences, Prod.mk.injEq]

/-- The one scan over a text cuts it at every occurrence of a placeholder. -/
theorem isComplete_ofPieces (content : List Char) :
    IsComplete content (ofPieces (pieces content)) := by
  induction content using piece_induction with
  | nil => exact isComplete_nil
  | placeholder id rest word ih =>
    rw [pieces_brace_append word]
    exact ih.consPlaceholder word
  | verbatim c rest none ih =>
    rw [pieces_cons none]
    exact ih.cons none

end Cut

/-! ## Filling a text that is cut -/

/-- What stands in place of a placeholder: the text for its identifier, or the placeholder itself
where there is none. -/
def replacement (values : String → Option String) (id : List Char) : List Char :=
  match values (String.ofList id) with
  | some text => text.toList
  | none => brace id

theorem Cut.join_ofPieces (values : String → Option String) (parts : List Piece) :
    (ofPieces parts).join (replacement values) = parts.flatMap (Piece.fill values) := by
  induction parts with
  | nil => rfl
  | cons piece rest ih =>
    cases piece with
    | verbatim c =>
      rw [ofPieces, join_cons, ih]
      rfl
    | placeholder id =>
      rw [ofPieces, join_consPlaceholder, ih]
      rfl

theorem fill_eq_join (values : String → Option String) (content : String) :
    fill values content =
      String.ofList ((Cut.ofPieces (pieces content.toList)).join (replacement values)) := by
  rw [fill, Cut.join_ofPieces]

/-- The text for an identifier in a table of values: that of its value, unless this is null. -/
def textIn (values : Entries Payload) (id : String) : Option String :=
  ((Entries.get? values id).filter (· ≠ .null)).map Payload.entryText

/-- The occurrences of placeholders in a content do not overlap, and the content can be cut at all
of them. Filling it then leaves what is between them as it is, puts in place of every occurrence the
text of its value, as it is and once, leaves the occurrences without a value as they are written,
and adds below each further text that is not empty on a line of its own. -/
theorem substitution_replaces_occurrences (content : String) :
    (∀ i j id other, OccursAt content.toList i id → OccursAt content.toList j other →
      (i = j ∧ id = other) ∨ i + (brace id).length ≤ j ∨ j + (brace other).length ≤ i) ∧
    ∃ cut, Cut.IsComplete content.toList cut ∧
      ∀ (values : Entries Payload) (paragraphs : List String),
        withParagraphs (fill (textIn values) content) paragraphs =
          String.ofList (cut.join (replacement (textIn values))) ++
            String.join ((paragraphs.filter (· ≠ "")).map ("\n" ++ ·)) := by
  refine ⟨fun i j id other h h' => h.apart h', Cut.ofPieces (pieces content.toList),
    Cut.isComplete_ofPieces _, fun values paragraphs => ?_⟩
  have filled : paragraphs.filter (!·.isEmpty) = paragraphs.filter (· ≠ "") :=
    List.filter_congr fun paragraph _ => by
      rw [Bool.eq_iff_iff, Bool.not_eq_true', ← Bool.not_eq_true, String.isEmpty_iff,
        decide_eq_true_iff]
  rw [withParagraphs_eq, filled, fill_eq_join]

/-- Of three opening braces the last two belong to the placeholder, and a placeholder that has begun
but does not end is none. -/
example :
    (Cut.ofPieces (pieces "\x7b\x7b\x7bx\x7d\x7d\x7b\x7by\x7b\x7bz\x7d\x7d".toList)).positions =
      [(1, ['x']), (9, ['z'])] := by
  decide

end PlanCompiler.Template
