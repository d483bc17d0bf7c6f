import PlanCompiler.Proofs.Template.Occurrences

/-!
# What a template depends on

The identifiers that are listed of a content are those whose placeholders occur in it, in the order
in which they first do. Filling asks for the values of these identifiers and of no others, and each
of them matters: once it has a value without a brace, there are fewer braces in the text than
before.

* `mem_pieces_iff`, `occurs_iff`, `mem_placeholders_iff`: what is listed;
* `occursBefore_of_idxOf_lt`: in which order;
* `fill_congr`, `fill_eq_self`: values that do not matter;
* `fill_ne_self`: values that do;
* `placeholders_are_dependences`: all of it.
-/

namespace PlanCompiler.Template

open Text

/-! ## Listed identifiers -/

/-- The placeholders among the pieces of a text are those that occur in it. -/
theorem mem_pieces_iff {content id : List Char} :
    .placeholder id ∈ pieces content ↔ ∃ position, OccursAt content position id := by
  induction content using piece_induction with
  | nil => exact iff_of_false List.not_mem_nil fun ⟨_, there⟩ => not_occursAt_nil there
  | placeholder known rest word ih =>
    rw [pieces_brace_append word, List.mem_cons, ih]
    simp only [occursAt_brace_append word]
    constructor
    · rintro (same | ⟨later, there⟩)
      · exact ⟨0, .inl ⟨rfl, Piece.placeholder.inj same⟩⟩
      · exact ⟨_, .inr ⟨later, rfl, there⟩⟩
    · rintro ⟨position, ⟨-, rfl⟩ | ⟨later, -, there⟩⟩
      · exact .inl rfl
      · exact .inr ⟨later, there⟩
  | verbatim c rest none ih =>
    rw [pieces_cons none, List.mem_cons, or_iff_right nofun, ih]
    simp only [occursAt_cons none]
    constructor
    · rintro ⟨later, there⟩
      exact ⟨_, later, rfl, there⟩
    · rintro ⟨position, later, -, there⟩
      exact ⟨later, there⟩

/-- A placeholder occurs where it is written. -/
theorem occursAt_length {id : List Char} (word : isIdentifier id = true)
    (front back : List Char) : OccursAt (front ++ (brace id ++ back)) front.length id := by
  refine ⟨word, ?_⟩
  rw [List.drop_left]
  exact List.prefix_append _ _

/-- What stands before an occurrence and behind it. -/
theorem OccursAt.exists_append {content id : List Char} {position : Nat}
    (h : OccursAt content position id) :
    ∃ front back, content = front ++ (brace id ++ back) ∧ front.length = position := by
  obtain ⟨within, -⟩ := List.getElem?_eq_some_iff.1 h.opening.1
  obtain ⟨-, back, eq⟩ := h
  refine ⟨content.take position, back, ?_, List.length_take_of_le (Nat.le_of_lt within)⟩
  rw [eq, List.take_append_drop]

theorem occurs_iff {content id : List Char} : (∃ position, OccursAt content position id) ↔
    isIdentifier id = true ∧ brace id <:+: content := by
  constructor
  · rintro ⟨position, there⟩
    obtain ⟨front, back, rfl, -⟩ := there.exists_append
    exact ⟨there.1, front, back, List.append_assoc _ _ _⟩
  · rintro ⟨word, front, back, rfl⟩
    rw [List.append_assoc]
    exact ⟨front.length, occursAt_length word front back⟩

theorem Piece.id?_eq_some_iff {piece : Piece} {id : String} :
    piece.id? = some id ↔ piece = .placeholder id.toList := by
  cases piece with
  | verbatim c => exact iff_of_false nofun nofun
  | placeholder known =>
    rw [id?, Option.some.injEq, placeholder.injEq]
    constructor
    · rintro rfl
      exact String.toList_ofList.symm
    · rintro rfl
      exact String.ofList_toList

theorem mem_placeholders_iff_mem_pieces {content id : String} :
    id ∈ placeholders content ↔ .placeholder id.toList ∈ pieces content.toList := by
  rw [placeholders, List.mem_eraseDups, List.mem_filterMap]
  simp only [Piece.id?_eq_some_iff, exists_eq_right]

/-- What is listed is what occurs. -/
theorem mem_placeholders_iff {content id : String} :
    id ∈ placeholders content ↔ ∃ position, OccursAt content.toList position id.toList := by
  rw [mem_placeholders_iff_mem_pieces, mem_pieces_iff]

/-! ## In order of first occurrence -/

/-- The one placeholder occurs before the other one does. -/
def OccursBefore (content id other : List Char) : Prop :=
  ∃ first, OccursAt content first id ∧ ∀ later, OccursAt content later other → first < later

/-- Something in front in which the other placeholder does not occur does not change the order. -/
theorem OccursBefore.shift {content rest id other : List Char} {distance : Nat}
    (h : OccursBefore rest id other)
    (occurs : ∀ later, OccursAt rest later id → OccursAt content (distance + later) id)
    (only : ∀ position, OccursAt content position other →
      ∃ later, position = distance + later ∧ OccursAt rest later other) :
    OccursBefore content id other := by
  obtain ⟨first, there, before⟩ := h
  refine ⟨distance + first, occurs first there, fun position hposition => ?_⟩
  obtain ⟨later, rfl, hlater⟩ := only position hposition
  have := before later hlater
  omega

/-- Identifiers are found by the scan in the order in which their placeholders first occur. -/
theorem occursBefore_of_idxOf_lt {content : List Char} {id other : String}
    (mem : id ∈ (pieces content).filterMap Piece.id?)
    (lt : ((pieces content).filterMap Piece.id?).idxOf id <
      ((pieces content).filterMap Piece.id?).idxOf other) :
    OccursBefore content id.toList other.toList := by
  induction content using piece_induction with
  | nil => exact absurd mem List.not_mem_nil
  | placeholder known rest word ih =>
    have found : (pieces (brace known ++ rest)).filterMap Piece.id? =
        String.ofList known :: (pieces rest).filterMap Piece.id? := by
      rw [pieces_brace_append word]
      rfl
    rw [found] at mem lt
    -- The identifier that is found first has nothing before it.
    have different : other.toList ≠ known := by
      intro same
      rw [← same, String.ofList_toList, List.idxOf_cons_self] at lt
      exact Nat.not_lt_zero _ lt
    have only : ∀ position, OccursAt (brace known ++ rest) position other.toList →
        ∃ later, position = (brace known).length + later ∧ OccursAt rest later other.toList :=
      fun position there => ((occursAt_brace_append word).1 there).resolve_left fun first =>
        different first.2
    by_cases same : String.ofList known = id
    · subst same
      refine ⟨0, (occursAt_brace_append word).2 (.inl ⟨rfl, String.toList_ofList⟩), ?_⟩
      intro position there
      obtain ⟨later, rfl, -⟩ := only position there
      have := length_brace known
      omega
    · have other_ne : String.ofList known ≠ other := fun eq =>
        different (eq ▸ String.toList_ofList)
      rw [List.idxOf_cons_ne _ same, List.idxOf_cons_ne _ other_ne] at lt
      have later := ih ((List.mem_cons.1 mem).resolve_left (Ne.symm same))
        (Nat.lt_of_succ_lt_succ lt)
      refine later.shift (fun position there => ?_) only
      exact (occursAt_brace_append word).2 (.inr ⟨position, rfl, there⟩)
  | verbatim c rest none ih =>
    have found : (pieces (c :: rest)).filterMap Piece.id? =
        (pieces rest).filterMap Piece.id? := by
      rw [pieces_cons none]
      rfl
    rw [found] at mem lt
    exact (ih mem lt).shift (fun later there => (occursAt_cons none).2 ⟨later, rfl, there⟩)
      fun position there => (occursAt_cons none).1 there

/-! ## Values that do not matter -/

variable {values values' : String → Option String} {content : String}

theorem Piece.fill_of_found {id : List Char} {text : String}
    (found : values (String.ofList id) = some text) :
    Piece.fill values (.placeholder id) = text.toList := by
  rw [fill, found]

theorem Piece.fill_of_missing {id : List Char} (missing : values (String.ofList id) = none) :
    Piece.fill values (.placeholder id) = brace id := by
  rw [fill, missing]

/-- Values that agree on the listed identifiers fill a template alike. -/
theorem fill_congr (same : ∀ id ∈ placeholders content, values id = values' id) :
    fill values content = fill values' content := by
  rw [fill, fill]
  refine congrArg String.ofList (List.flatMap_congr fun piece hpiece => ?_)
  cases piece with
  | verbatim c => rfl
  | placeholder id =>
    have listed : String.ofList id ∈ placeholders content := by
      rw [mem_placeholders_iff_mem_pieces, String.toList_ofList]
      exact hpiece
    rw [Piece.fill, Piece.fill, same _ listed]

/-- The pieces of a text, put together as they are written, are the text. -/
theorem flatMap_fill_none (text : List Char) :
    (pieces text).flatMap (Piece.fill fun _ => none) = text := by
  induction text using piece_induction with
  | nil => rfl
  | placeholder id rest word ih =>
    rw [pieces_brace_append word, List.flatMap_cons, ih]
    rfl
  | verbatim c rest none ih =>
    rw [pieces_cons none, List.flatMap_cons, ih]
    rfl

/-- Without a value for a listed identifier there is nothing to fill in. -/
theorem fill_eq_self (missing : ∀ id ∈ placeholders content, values id = none) :
    fill values content = content := by
  have blank : fill values content = fill (fun _ => none) content := fill_congr missing
  rw [blank, fill, flatMap_fill_none, String.ofList_toList]

/-! ## Values that matter -/

/-- No text that is filled in has a brace in it. -/
def IsPlain (values : String → Option String) : Prop :=
  ∀ id text, values id = some text → ∀ c ∈ text.toList, c ≠ '\x7b' ∧ c ≠ '\x7d'

theorem IsPlain.count_eq_zero (plain : IsPlain values) {id text : String}
    (found : values id = some text) : text.toList.count '\x7b' = 0 :=
  List.count_eq_zero.2 fun there => (plain id text found _ there).1 rfl

theorem count_fill_le (plain : IsPlain values) (piece : Piece) :
    (piece.fill values).count '\x7b' ≤ (piece.fill fun _ => none).count '\x7b' := by
  cases piece with
  | verbatim c => exact Nat.le_refl _
  | placeholder id =>
    cases found : values (String.ofList id) with
    | none => exact Nat.le_of_eq (congrArg _ (Piece.fill_of_missing found))
    | some text =>
      rw [Piece.fill_of_found found, plain.count_eq_zero found]
      exact Nat.zero_le _

theorem count_flatMap_fill_le (plain : IsPlain values) (parts : List Piece) :
    (parts.flatMap (Piece.fill values)).count '\x7b' ≤
      (parts.flatMap (Piece.fill fun _ => none)).count '\x7b' := by
  induction parts with
  | nil => exact Nat.le_refl _
  | cons piece rest ih =>
    rw [List.flatMap_cons, List.flatMap_cons, List.count_append, List.count_append]
    exact Nat.add_le_add (count_fill_le plain piece) ih

/-- A listed identifier whose value has no brace takes its own braces away, and no other value puts
any in their place. -/
theorem fill_ne_self (plain : IsPlain values) {id text : String}
    (listed : id ∈ placeholders content) (found : values id = some text) :
    fill values content ≠ content := by
  intro same
  obtain ⟨front, back, parts⟩ :=
    List.append_of_mem (mem_placeholders_iff_mem_pieces.1 listed)
  have filled : (fill values content).toList =
      front.flatMap (Piece.fill values) ++ text.toList ++ back.flatMap (Piece.fill values) := by
    rw [← String.ofList_toList (s := id)] at found
    rw [fill, String.toList_ofList, parts, List.flatMap_append, List.flatMap_cons,
      Piece.fill_of_found found, List.append_assoc]
  have written : content.toList = front.flatMap (Piece.fill fun _ => none) ++ brace id.toList ++
      back.flatMap (Piece.fill fun _ => none) := by
    have whole := flatMap_fill_none content.toList
    rw [parts, List.flatMap_append, List.flatMap_cons] at whole
    rw [List.append_assoc]
    exact whole.symm
  have before := count_flatMap_fill_le plain front
  have behind := count_flatMap_fill_le plain back
  have braces : 0 < (brace id.toList).count '\x7b' := List.count_pos_iff.2 List.mem_cons_self
  have none := plain.count_eq_zero found
  have counts := congrArg (List.count '\x7b') (filled.symm.trans ((congrArg _ same).trans written))
  simp only [List.count_append] at counts
  omega

/-! ## The listed identifiers and the values of a template -/

/-- The text of the only value in a table. -/
theorem textIn_single (id other text : String) :
    textIn [(id, .text text)] other = if id = other then some text else none := by
  rw [textIn, Entries.get?_cons]
  split
  · exact congrArg some String.ofList_toList
  · rfl

theorem isPlain_single {id text : String} (opening : '\x7b' ∉ text.toList)
    (closing : '\x7d' ∉ text.toList) : IsPlain (textIn [(id, .text text)]) := by
  intro other value found c hc
  rw [textIn_single] at found
  split at found
  · cases found
    exact ⟨fun same => opening (same ▸ hc), fun same => closing (same ▸ hc)⟩
  · cases found

/-- The listed identifiers of a content are different from each other; they are those whose
placeholders are written somewhere in it, in the order of first occurrence. They are all that
filling depends on: values that agree on them fill the content alike, a content none of whose listed
identifiers has a value stays as it is, and the listed identifiers are those for which there is a
value that changes it. -/
theorem placeholders_are_dependences (content : String) :
    (placeholders content).Nodup ∧
    (∀ id, id ∈ placeholders content ↔
      isIdentifier id.toList = true ∧ brace id.toList <:+: content.toList) ∧
    (placeholders content).Pairwise (fun id other =>
      OccursBefore content.toList id.toList other.toList) ∧
    (∀ values values' : Entries Payload,
      (∀ id ∈ placeholders content, textIn values id = textIn values' id) →
        fill (textIn values) content = fill (textIn values') content) ∧
    (∀ values : Entries Payload, (∀ id ∈ placeholders content, textIn values id = none) →
      fill (textIn values) content = content) ∧
    ∀ id, id ∈ placeholders content ↔
      ∃ value : Payload, fill (textIn [(id, value)]) content ≠ content := by
  refine ⟨Entries.nodup_eraseDups _, fun id => ?_, ?_, fun values values' => fill_congr,
    fun values => fill_eq_self, fun id => ⟨fun listed => ?_, ?_⟩⟩
  · rw [mem_placeholders_iff, occurs_iff]
  · refine (Entries.pairwise_idxOf_eraseDups _).imp_of_mem fun mem _ lt => ?_
    exact occursBefore_of_idxOf_lt (List.mem_eraseDups.1 mem) lt
  · have plain : IsPlain (textIn [(id, .text "")]) := isPlain_single (by decide) (by decide)
    exact ⟨.text "", fill_ne_self plain listed ((textIn_single id id "").trans (if_pos rfl))⟩
  · rintro ⟨value, changed⟩
    by_contra unlisted
    refine changed (fill_eq_self fun other listed => ?_)
    have ne : id ≠ other := fun same => unlisted (same ▸ listed)
    rw [textIn, Entries.get?_cons, if_neg ne]
    rfl

/-- A blank within the braces, and there is no placeholder. -/
example : placeholders "\x7b\x7bb\x7d\x7d \x7b\x7ba\x7d\x7d \x7b\x7bb\x7d\x7d \x7b\x7b c \x7d\x7d" =
    ["b", "a"] := by
  decide

end PlanCompiler.Template
