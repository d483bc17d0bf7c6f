import PlanCompiler.Proofs.Text.Lower
import PlanCompiler.Proofs.Text.Run
import PlanCompiler.Text.Digit
import PlanCompiler.Text.Case

/-!
# Slugs of all titles

Whatever a title consists of, and whatever its letters become in small letters, its slug is made of
runs of small letters and digits with single hyphens between them (`isSlug_slug`). Such a text is
its own slug (`slug_of_isSlug`), and it can stand in an address as it is
(`percentEncoded_of_isSlug`).
-/

namespace PlanCompiler.Text

/-- Runs of small letters and digits, one at least, with single hyphens between them. -/
def IsSlug (s : List Char) : Prop :=
  ∃ parts, parts ≠ [] ∧ (∀ part ∈ parts, part ≠ [] ∧ ∀ c ∈ part, isSlugChar c = true) ∧
    joined ['-'] parts = s

variable {s t : List Char} {c : Char}

/-! ## Every slug is one -/

theorem forall_mem_runs {p : Char → Bool} :
    ∀ run ∈ runs p s, run ≠ [] ∧ ∀ c ∈ run, p c = true := by
  induction s with
  | nil => exact fun run mem => absurd mem List.not_mem_nil
  | cons c rest ih =>
    have alone (here : p c = true) : [c] ≠ [] ∧ ∀ d ∈ [c], p d = true :=
      ⟨List.cons_ne_nil _ _, List.forall_mem_singleton.2 here⟩
    rw [runs.eq_def]
    dsimp only
    split
    · rename_i here
      split
      · rename_i next _ first others found
        rw [found, List.forall_mem_cons] at ih
        split
        · refine List.forall_mem_cons.2 ⟨⟨List.cons_ne_nil _ _, ?_⟩, ih.2⟩
          exact List.forall_mem_cons.2 ⟨here, ih.1.2⟩
        · exact List.forall_mem_cons.2 ⟨alone here, List.forall_mem_cons.2 ih⟩
      · exact List.forall_mem_cons.2 ⟨alone here, ih⟩
    · exact ih

theorem isSlug_slug (title : List Char) : IsSlug (slug title) := by
  rw [slug]
  split
  · exact ⟨[emptySlug], List.cons_ne_nil _ _,
      List.forall_mem_singleton.2 ⟨by decide, forall_mem_of_all (by decide)⟩, rfl⟩
  · rename_i parts filled
    exact ⟨_, filled, forall_mem_runs, rfl⟩

/-! ## What a slug consists of -/

theorem isSlugChar_iff : isSlugChar c = true ↔
    (0x61 ≤ c.toNat ∧ c.toNat ≤ 0x7A) ∨ (0x30 ≤ c.toNat ∧ c.toNat ≤ 0x39) := by
  simp only [isSlugChar, Bool.or_eq_true, Bool.and_eq_true, decide_eq_true_eq, Char.le_def,
    UInt32.le_iff_toNat_le]
  rfl

theorem IsSlug.forall_mem (h : IsSlug s) : ∀ c ∈ s, isSlugChar c = true ∨ c = '-' := by
  obtain ⟨parts, -, clean, rfl⟩ := h
  intro c hc
  rcases mem_joined hc with separates | ⟨part, mem, inside⟩
  · exact .inr (List.mem_singleton.1 separates)
  · exact .inl ((clean part mem).2 c inside)

theorem IsSlug.ne_nil (h : IsSlug s) : s ≠ [] := by
  obtain ⟨parts, filled, clean, rfl⟩ := h
  cases parts with
  | nil => exact absurd rfl filled
  | cons part others =>
    have first := (clean part List.mem_cons_self).1
    cases others with
    | nil => exact first
    | cons next others =>
      rw [joined_cons_cons, List.append_assoc]
      exact List.append_ne_nil_of_left_ne_nil first _

/-! ## Slugs of slugs -/

/-- Small letters, digits and hyphens are already small. -/
theorem lowerAfter_eq_self (h : ∀ c ∈ s, isSlugChar c = true ∨ c = '-') (cased : Bool) :
    lowerAfter cased s = s := by
  induction s generalizing cased with
  | nil => rfl
  | cons c rest ih =>
    rw [List.forall_mem_cons] at h
    have ascii : c.toNat < 0x80 ∧ ¬ ('A' ≤ c ∧ c ≤ 'Z') := by
      rcases h.1 with letter | rfl
      · rw [isSlugChar_iff] at letter
        rw [Char.le_def, Char.le_def, UInt32.le_iff_toNat_le, UInt32.le_iff_toNat_le]
        change c.toNat < 0x80 ∧ ¬ (0x41 ≤ c.toNat ∧ c.toNat ≤ 0x5A)
        omega
      · decide
    have other : c.toNat ≠ 0x3A3 := by omega
    rw [lowerAfter, ih h.2, if_neg other, lowerChar, if_pos ascii.1, if_neg ascii.2]
    rfl

theorem slug_of_isSlug (h : IsSlug s) : slug s = s := by
  have small : lower s = s := lowerAfter_eq_self h.forall_mem false
  obtain ⟨parts, filled, clean, rfl⟩ := h
  have again : runs isSlugChar (joined ['-'] parts) = parts :=
    runs_joined rfl (fun part mem => (clean part mem).1) fun part mem => (clean part mem).2
  rw [slug, small, again]
  split
  · exact absurd rfl filled
  · rfl

/-! ## Slugs put together -/

theorem IsSlug.append (hs : IsSlug s) (ht : IsSlug t) : IsSlug (s ++ '-' :: t) := by
  obtain ⟨parts, filled, clean, rfl⟩ := hs
  obtain ⟨others, filled', clean', rfl⟩ := ht
  refine ⟨parts ++ others, List.append_ne_nil_of_left_ne_nil filled _, fun part mem => ?_, ?_⟩
  · exact (List.mem_append.1 mem).elim (clean part) (clean' part)
  · rw [joined_append filled filled', List.append_assoc]
    rfl

theorem isSlug_hex {width : Nat} (pos : 0 < width) (n : Nat) : IsSlug (hex width n) := by
  refine ⟨[hex width n], List.cons_ne_nil _ _, fun part mem => ?_, rfl⟩
  rw [List.mem_singleton.1 mem]
  refine ⟨List.ne_nil_of_length_pos ?_, forall_mem_hex (by decide) width n⟩
  rwa [length_hex]

/-! ## Slugs in addresses -/

/-- A character that stands for itself everywhere in an address. -/
def isUnreserved (c : Char) : Bool :=
  ('a' ≤ c && c ≤ 'z') || ('A' ≤ c && c ≤ 'Z') || ('0' ≤ c && c ≤ '9') || "-._~".toList.contains c

/-- A byte that cannot stand for itself in an address. -/
def percentByte (byte : UInt8) : List Char :=
  '%' :: (hex 2 byte.toNat).map Char.toUpper

/-- A text as a segment of the path of an address. -/
def percentEncoded (s : List Char) : List Char :=
  s.flatMap fun c => if isUnreserved c then [c] else (String.utf8EncodeChar c).flatMap percentByte

example : percentEncoded "q&a 50%".toList = "q%26a%2050%25".toList := by decide

theorem isUnreserved_of_isSlugChar (h : isSlugChar c = true) : isUnreserved c = true := by
  rw [isSlugChar, Bool.or_eq_true] at h
  rw [isUnreserved]
  rcases h with letter | digit
  · simp [letter]
  · simp [digit]

theorem percentEncoded_of_isSlug (h : IsSlug s) : percentEncoded s = s := by
  have kept : ∀ c ∈ s, isUnreserved c = true := fun c hc =>
    (h.forall_mem c hc).elim isUnreserved_of_isSlugChar fun hyphen => hyphen ▸ rfl
  rw [percentEncoded, List.flatMap_congr fun c hc => if_pos (kept c hc), List.flatMap_singleton']

end PlanCompiler.Text
