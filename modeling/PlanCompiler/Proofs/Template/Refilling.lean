import PlanCompiler.Proofs.Template.Dependence

/-!
# Filling a template twice

What is filled in is not read again, but the result may be filled a second time. If no value has a
brace in it, only the braces of the template itself can make a placeholder then: an opening and a
closing brace that stood for themselves, with something between them that was replaced. Unless this
happens, and the identifier between the braces has a value, nothing is left to fill in.

* `Rejoins`: braces of a template that make a placeholder once it is filled;
* `apart_of_missing`, `exists_verbatim_of_brace`: which pieces the braces of such a placeholder
  come from;
* `fill_fill_eq_iff`: when a second filling changes nothing;
* `refilled_between_braces`: a template that is changed.
-/

namespace PlanCompiler.Template

open Text

variable {values : String → Option String}

/-- What stands between two braces, at least one placeholder of it replaced, is filled so that the
braces are the outer ones of a placeholder for an identifier that has a value. -/
structure MakesPlaceholder (values : String → Option String) (inner : List Piece)
    (id : List Char) : Prop where
  word : isIdentifier id = true
  valued : (values (String.ofList id)).isSome = true
  filled : '\x7b' :: (inner.flatMap (Piece.fill values) ++ ['\x7d']) = brace id
  replaced : ∃ known, .placeholder known ∈ inner ∧ (values (String.ofList known)).isSome = true

/-- Two braces that stand for themselves in the template make a placeholder of what is between
them. -/
def Rejoins (values : String → Option String) (content : List Char) : Prop :=
  ∃ front inner back id,
    pieces content = front ++ .verbatim '\x7b' :: (inner ++ .verbatim '\x7d' :: back) ∧
      MakesPlaceholder values inner id

/-! ## From a placeholder back to its braces -/

/-- A character of a joined text comes from one of its parts. -/
theorem exists_part_of_flatMap {α β : Type} {f : α → List β} {parts : List α} {front back : List β}
    {c : β} (h : parts.flatMap f = front ++ c :: back) : ∃ before part after inner outer,
      parts = before ++ part :: after ∧ f part = inner ++ c :: outer ∧
      front = before.flatMap f ++ inner ∧ back = outer ++ after.flatMap f := by
  induction parts generalizing front with
  | nil => simp at h
  | cons part rest ih =>
    rw [List.flatMap_cons, List.append_eq_append_iff] at h
    have later {front' : List β} (first : front = f part ++ front')
        (h : rest.flatMap f = front' ++ c :: back) : ∃ before part' after inner outer,
          part :: rest = before ++ part' :: after ∧ f part' = inner ++ c :: outer ∧
          front = before.flatMap f ++ inner ∧ back = outer ++ after.flatMap f := by
      obtain ⟨before, part', after, inner, outer, rfl, here, rfl, rfl⟩ := ih h
      refine ⟨part :: before, part', after, inner, outer, rfl, here, ?_, rfl⟩
      rw [first, List.flatMap_cons, List.append_assoc]
    rcases h with ⟨front', first, rest_eq⟩ | ⟨outer, part_eq, rest_eq⟩
    · exact later first rest_eq
    · cases outer with
      | nil =>
        -- This part ends in front of the character.
        have first : front = f part ++ [] := by rw [part_eq, List.append_nil, List.append_nil]
        exact later first rest_eq.symm
      | cons d outer =>
        obtain ⟨rfl, rfl⟩ := List.cons.inj rest_eq
        exact ⟨[], part, rest, front, outer, rfl, part_eq, rfl, rfl⟩

/-- A placeholder whose identifier has a value stands apart from one that was left for want of a
value. -/
theorem apart_of_missing {text start rest known id : List Char} {position : Nat}
    (occurs : OccursAt text position id) (valued : (values (String.ofList id)).isSome = true)
    (word : isIdentifier known = true) (missing : values (String.ofList known) = none)
    (text_eq : text = start ++ (brace known ++ rest)) :
    position + (brace id).length ≤ start.length ∨
      start.length + (brace known).length ≤ position := by
  have left : OccursAt text start.length known := text_eq ▸ occursAt_length word _ _
  rcases occurs.apart left with ⟨-, rfl⟩ | before | behind
  · rw [missing] at valued
    cases valued
  · exact .inl before
  · exact .inr behind

/-- In a filled text, a brace of a placeholder whose identifier has a value stood for itself before:
it is in no value, and a placeholder without a value stands apart from this one. -/
theorem exists_verbatim_of_brace (plain : IsPlain values) {text start : List Char}
    {parts : List Piece} (text_eq : text = start ++ parts.flatMap (Piece.fill values))
    (words : ∀ known, .placeholder known ∈ parts → isIdentifier known = true)
    {position : Nat} {id : List Char} (occurs : OccursAt text position id)
    (valued : (values (String.ofList id)).isSome = true) {front back : List Char} {c : Char}
    (isBrace : c = '\x7b' ∨ c = '\x7d')
    (there : parts.flatMap (Piece.fill values) = front ++ c :: back)
    (lower : position ≤ start.length + front.length)
    (upper : start.length + front.length < position + (brace id).length) :
    ∃ before after, parts = before ++ .verbatim c :: after ∧
      before.flatMap (Piece.fill values) = front ∧ after.flatMap (Piece.fill values) = back := by
  obtain ⟨before, piece, after, inner, outer, rfl, here, rfl, rfl⟩ := exists_part_of_flatMap there
  cases piece with
  | verbatim d =>
    have single : [d] = inner ++ c :: outer := here
    obtain ⟨rfl, same⟩ | ⟨_, rfl, none⟩ := List.append_eq_cons_iff.1 single.symm
    · obtain ⟨rfl, rfl⟩ := List.cons.inj same
      exact ⟨before, after, rfl, (List.append_nil _).symm, rfl⟩
    · simp at none
  | placeholder known =>
    cases found : values (String.ofList known) with
    | some value =>
      rw [Piece.fill_of_found found] at here
      have inValue : c ∈ value.toList := here ▸ List.mem_append_right _ List.mem_cons_self
      obtain ⟨notOpening, notClosing⟩ := plain _ value found c inValue
      exact (isBrace.elim notOpening notClosing).elim
    | none =>
      rw [Piece.fill_of_missing found] at here
      have word := words known (List.mem_append_right _ List.mem_cons_self)
      have whole : text = (start ++ before.flatMap (Piece.fill values)) ++
          (brace known ++ after.flatMap (Piece.fill values)) := by
        rw [text_eq, List.flatMap_append, List.flatMap_cons, Piece.fill_of_missing found,
          List.append_assoc]
      have apart := apart_of_missing occurs valued word found whole
      have lengths := congrArg List.length here
      simp only [List.length_append, List.length_cons] at lengths apart lower upper
      omega

/-- The pieces of what is left of a text are those that are left of its pieces. -/
theorem pieces_flatMap_of_append {content : List Char} {front back : List Piece}
    (h : pieces content = front ++ back) :
    pieces (back.flatMap (Piece.fill fun _ => none)) = back := by
  have step {content rest : List Char} {piece : Piece} {front : List Piece}
      (ih : ∀ {front}, pieces rest = front ++ back →
        pieces (back.flatMap (Piece.fill fun _ => none)) = back)
      (cut : pieces content = piece :: pieces rest) (h : pieces content = front ++ back) :
      pieces (back.flatMap (Piece.fill fun _ => none)) = back := by
    cases front with
    | nil => rw [← List.nil_append back, ← h, flatMap_fill_none]
    | cons first front =>
      rw [cut, List.cons_append] at h
      exact ih (List.cons.inj h).2
  induction content using piece_induction generalizing front with
  | nil =>
    obtain ⟨-, rfl⟩ := List.append_eq_nil_iff.1 h.symm
    rfl
  | placeholder id rest word ih => exact step ih (pieces_brace_append word rest) h
  | verbatim c rest none ih => exact step ih (pieces_cons none) h

/-- A placeholder is read as one, so what is filled to one and was not read as one has had something
replaced. -/
theorem exists_replaced {content : List Char} {front inner back : List Piece} {id : List Char}
    (word : isIdentifier id = true)
    (cut : pieces content = front ++ .verbatim '\x7b' :: (inner ++ .verbatim '\x7d' :: back))
    (filled : '\x7b' :: (inner.flatMap (Piece.fill values) ++ ['\x7d']) = brace id) :
    ∃ known, .placeholder known ∈ inner ∧ (values (String.ofList known)).isSome = true := by
  by_contra none
  have unchanged : inner.flatMap (Piece.fill values) =
      inner.flatMap (Piece.fill fun _ => Option.none) := by
    refine List.flatMap_congr fun piece hpiece => ?_
    cases piece with
    | verbatim c => rfl
    | placeholder known =>
      have missing : values (String.ofList known) = Option.none := by
        rw [← Option.not_isSome_iff_eq_none]
        exact fun some => none ⟨known, hpiece, some⟩
      rw [Piece.fill_of_missing missing]
      rfl
  have rest := pieces_flatMap_of_append cut
  have written : (Piece.verbatim '\x7b' :: (inner ++ .verbatim '\x7d' :: back)).flatMap
      (Piece.fill fun _ => Option.none) =
        brace id ++ back.flatMap (Piece.fill fun _ => Option.none) := by
    rw [← filled, unchanged]
    simp [Piece.fill]
  rw [written, pieces_brace_append word] at rest
  cases rest

/-- A placeholder in a filled text whose identifier has a value was made by braces of the
template. -/
theorem rejoins_of_occursAt (plain : IsPlain values) {content : List Char} {position : Nat}
    {id : List Char}
    (occurs : OccursAt ((pieces content).flatMap (Piece.fill values)) position id)
    (valued : (values (String.ofList id)).isSome = true) : Rejoins values content := by
  have word := occurs.1
  have words {parts : List Piece} (sub : parts ⊆ pieces content) (known : List Char)
      (mem : .placeholder known ∈ parts) : isIdentifier known = true := by
    obtain ⟨_, there⟩ := mem_pieces_iff.1 (sub mem)
    exact there.1
  have length := length_brace id
  obtain ⟨front, back, text_eq, rfl⟩ := occurs.exists_append
  -- The first of its braces, and in what is behind that one the last.
  obtain ⟨before, rest, cut, before_eq, rest_eq⟩ := exists_verbatim_of_brace plain
    (List.nil_append _).symm (words fun _ mem => mem) occurs valued (.inl rfl) text_eq (by simp)
    (by simp; omega)
  subst before_eq
  have start : (pieces content).flatMap (Piece.fill values) =
      (before.flatMap (Piece.fill values) ++ ['\x7b']) ++ rest.flatMap (Piece.fill values) := by
    rw [cut, List.flatMap_append, List.flatMap_cons, List.append_assoc]
    rfl
  have closing : rest.flatMap (Piece.fill values) =
      ('\x7b' :: id ++ ['\x7d']) ++ '\x7d' :: back := by
    rw [rest_eq]
    simp
  obtain ⟨inner, after, rfl, inner_eq, -⟩ := exists_verbatim_of_brace plain start
    (words fun _ mem => cut ▸ List.mem_append_right _ (List.mem_cons_of_mem _ mem)) occurs valued
    (.inr rfl) closing (by simp; omega) (by simp; omega)
  have filled : '\x7b' :: (inner.flatMap (Piece.fill values) ++ ['\x7d']) = brace id := by
    rw [inner_eq]
    simp [brace]
  exact ⟨before, inner, after, id, cut, word, valued, filled, exists_replaced word cut filled⟩

/-! ## The second filling -/

/-- Once braces of the template have made a placeholder, it is there to be filled. -/
theorem Rejoins.exists_listed {content : String} (h : Rejoins values content.toList) :
    ∃ id ∈ placeholders (fill values content), (values id).isSome = true := by
  obtain ⟨front, inner, back, id, cut, made⟩ := h
  refine ⟨String.ofList id, ?_, made.valued⟩
  have filled : (fill values content).toList = front.flatMap (Piece.fill values) ++
      (brace id ++ back.flatMap (Piece.fill values)) := by
    rw [fill, String.toList_ofList, cut, ← made.filled]
    simp [Piece.fill]
  rw [mem_placeholders_iff, filled, String.toList_ofList]
  exact ⟨_, occursAt_length made.word _ _⟩

/-- Both braces that make a placeholder stand for themselves in the template. -/
theorem Rejoins.mem_pieces {content : List Char} (h : Rejoins values content) :
    .verbatim '\x7b' ∈ pieces content ∧ .verbatim '\x7d' ∈ pieces content := by
  obtain ⟨front, inner, back, id, cut, -⟩ := h
  rw [cut]
  constructor <;> simp

/-- While no value has a brace in it, filling a content a second time changes it exactly if braces
of the content, which stood for themselves, have made a placeholder that has a value, around
something that was replaced. So it changes nothing where a content has no opening brace outside of
its placeholders, or no closing one. -/
theorem fill_fill_eq_iff (content : String) (values : Entries Payload)
    (plain : IsPlain (textIn values)) :
    (fill (textIn values) (fill (textIn values) content) = fill (textIn values) content ↔
      ¬ Rejoins (textIn values) content.toList) ∧
    (.verbatim '\x7b' ∉ pieces content.toList ∨ .verbatim '\x7d' ∉ pieces content.toList →
      fill (textIn values) (fill (textIn values) content) = fill (textIn values) content) := by
  have stays (apart : ¬ Rejoins (textIn values) content.toList) :
      fill (textIn values) (fill (textIn values) content) = fill (textIn values) content := by
    refine fill_eq_self fun id listed => ?_
    obtain ⟨position, occurs⟩ := mem_placeholders_iff.1 listed
    rw [fill, String.toList_ofList] at occurs
    rw [← Option.not_isSome_iff_eq_none]
    intro valued
    rw [← String.ofList_toList (s := id)] at valued
    exact apart (rejoins_of_occursAt plain occurs valued)
  refine ⟨⟨fun same joins => ?_, stays⟩, fun absent => stays fun joins => ?_⟩
  · obtain ⟨id, listed, valued⟩ := joins.exists_listed
    obtain ⟨text, found⟩ := Option.isSome_iff_exists.1 valued
    exact fill_ne_self plain listed found same
  · exact absent.elim (· joins.mem_pieces.1) (· joins.mem_pieces.2)

/-- The placeholder that the outer braces make has no value, though the one between them had. -/
theorem fill_fill_eq_iff_sample :
    IsPlain (textIn [("a", .text "b")]) ∧
    fill (textIn [("a", .text "b")]) "\x7b\x7b\x7b\x7ba\x7d\x7d\x7d\x7d, \x7b\x7ba\x7d\x7d" =
      "\x7b\x7bb\x7d\x7d, b" ∧
    ¬ Rejoins (textIn [("a", .text "b")])
      "\x7b\x7b\x7b\x7ba\x7d\x7d\x7d\x7d, \x7b\x7ba\x7d\x7d".toList := by
  have plain : IsPlain (textIn [("a", .text "b")]) := isPlain_single (by decide) (by decide)
  exact ⟨plain, by decide, (fill_fill_eq_iff _ _ plain).1.1 (by decide)⟩

/-- Braces on both sides of a placeholder make a new one of its value, which is the identifier it
was filled for. -/
theorem refilled_between_braces :
    IsPlain (textIn [("a", .text "a")]) ∧
    fill (textIn [("a", .text "a")]) "\x7b\x7b\x7b\x7ba\x7d\x7d\x7d\x7d" = "\x7b\x7ba\x7d\x7d" ∧
    fill (textIn [("a", .text "a")]) (fill (textIn [("a", .text "a")])
      "\x7b\x7b\x7b\x7ba\x7d\x7d\x7d\x7d") ≠
        fill (textIn [("a", .text "a")]) "\x7b\x7b\x7b\x7ba\x7d\x7d\x7d\x7d" :=
  ⟨isPlain_single (by decide) (by decide), by decide, by decide⟩

end PlanCompiler.Template
