import PlanCompiler.Browse
import PlanCompiler.Proofs.Text.Lower
import PlanCompiler.Proofs.Text.Run

/-!
# Searching the catalog

A search text is looked for in small letters, in the texts of a strategy in small letters. What
finds a strategy therefore should find it with a part of it left out, and it does as long as the
part is settled (`Text.IsSettled`). A part at whose edge a capital sigma stands can be written small
in another way than in the longer text, and is not found there.

* `matchesSearch_iff`: what a search text matches;
* `select_sublist_iff`: when one search lets through all that another one does;
* `search_narrows_iff_settled`: the search texts with which every longer one finds less;
* `search_with_sigma_lost`: one that is no part, in small letters, of the title it was taken from.
-/

namespace PlanCompiler.Browse

open Text

theorem matchesSearch_iff {s : Strategy} {t : String} :
    matchesSearch s (some t) = true ↔
      t = "" ∨ ∃ text ∈ searchedTexts s, lower t.toList <:+: lower text.toList := by
  rw [matchesSearch, Bool.or_eq_true, String.isEmpty_iff, List.any_eq_true]
  simp only [occursIn_iff]

/-- All texts of a strategy that a client may look for. -/
def ownTexts (s : Strategy) : List String :=
  [s.title, s.content, s.description, s.category, s.subsection.getD ""]

/-- A strategy with a title and nothing else. -/
def titled (title : String) : Strategy :=
  { id := "s", title, content := "" }

theorem mem_searchedTexts_iff {s : Strategy} {text : String} :
    text ∈ searchedTexts s ↔ text ∈ ownTexts s ∧ text ≠ "" := by
  simp [searchedTexts, ownTexts]

/-- Only an empty text is a part of the empty one. -/
theorem eq_empty_of_part {t : String} (part : t.toList <:+: "".toList) : t = "" :=
  String.toList_inj.1 (List.infix_nil.1 part)

variable {t longer : String}

theorem matchesSearch_mono (part : t.toList <:+: longer.toList)
    (small : lower t.toList <:+: lower longer.toList) {s : Strategy}
    (h : matchesSearch s (some longer) = true) : matchesSearch s (some t) = true := by
  rw [matchesSearch_iff] at h ⊢
  rcases h with rfl | ⟨text, mem, found⟩
  · exact .inl (eq_empty_of_part part)
  · exact .inr ⟨text, mem, small.trans found⟩

/-- A strategy that has a title and no other text is found by it, and by another text only if that
is a part of the title in small letters. -/
theorem infix_of_matchesSearch_titled (h : matchesSearch (titled longer) (some t) = true) :
    lower t.toList <:+: lower longer.toList := by
  rcases matchesSearch_iff.1 h with rfl | ⟨text, mem, found⟩
  · exact List.nil_infix
  · obtain ⟨own, filled⟩ := mem_searchedTexts_iff.1 mem
    have same : text = longer := by simpa [ownTexts, titled, filled] using own
    exact same ▸ found

theorem matchesSearch_titled (title : String) :
    matchesSearch (titled title) (some title) = true := by
  rw [matchesSearch_iff]
  by_cases filled : title = ""
  · exact .inl filled
  · refine .inr ⟨title, mem_searchedTexts_iff.2 ⟨?_, filled⟩, List.infix_rfl⟩
    simp [ownTexts, titled]

/-- A search with a part of a text lets through what the search with the whole text does, whatever
the section and the strategies, exactly if it is a part of it in small letters. -/
theorem select_sublist_iff (part : t.toList <:+: longer.toList) :
    (∀ section? strategies, (select (some longer) section? strategies).Sublist
      (select (some t) section? strategies)) ↔ lower t.toList <:+: lower longer.toList := by
  constructor
  · intro narrows
    have through : titled longer ∈ select (some longer) none [titled longer] := by
      simp [select, matchesSection, matchesSearch_titled]
    have found := (List.mem_filter.1 ((narrows none [titled longer]).subset through)).2
    exact infix_of_matchesSearch_titled (Bool.and_eq_true_iff.1 found).1
  · intro small section? strategies
    refine List.monotone_filter_right strategies fun s h => ?_
    obtain ⟨found, listed⟩ := Bool.and_eq_true_iff.1 h
    exact Bool.and_eq_true_iff.2 ⟨matchesSearch_mono part small found, listed⟩

/-- Searching with more of a text finds less, and every strategy is found by every part of its own
texts, exactly for the search texts that are settled, as all those without a capital sigma are: with
one that is not settled, some longer text finds a strategy that it does not find. -/
theorem search_narrows_iff_settled (t : String) :
    ((∀ longer : String, t.toList <:+: longer.toList → ∀ section? strategies,
        (select (some longer) section? strategies).Sublist (select (some t) section? strategies)) ↔
      IsSettled t.toList) ∧
    ((∀ s, ∀ text ∈ ownTexts s, t.toList <:+: text.toList → matchesSearch s (some t) = true) ↔
      IsSettled t.toList) ∧
    ('Σ' ∉ t.toList → IsSettled t.toList) := by
  refine ⟨⟨fun narrows => ?_, fun settled longer part => ?_⟩,
    ⟨fun found => ?_, fun settled s text own part => ?_⟩, isSettled_of_not_mem⟩
  · refine forall_infix_lower_iff.1 fun longer part => ?_
    rw [← String.toList_ofList (l := longer)] at part ⊢
    exact (select_sublist_iff part).1 (narrows _ part)
  · exact (select_sublist_iff part).2 (forall_infix_lower_iff.2 settled _ part)
  · refine forall_infix_lower_iff.1 fun longer part => ?_
    rw [← String.toList_ofList (l := longer)] at part ⊢
    exact infix_of_matchesSearch_titled (found (titled _) _ List.mem_cons_self part)
  · rw [matchesSearch_iff]
    by_cases filled : text = ""
    · exact .inl (eq_empty_of_part (filled ▸ part))
    · exact .inr ⟨text, mem_searchedTexts_iff.2 ⟨own, filled⟩,
        forall_infix_lower_iff.2 settled _ part⟩

/-- A sigma before a letter is written alike everywhere, one between a letter and a blank too. -/
theorem search_narrows_iff_settled_sample :
    "ΟΔΟΣ ".toList <:+: "ΣΟΔΟΣ ΣΟΦΗ".toList ∧ IsSettled "ΟΔΟΣ ".toList ∧
    (select (some "ΣΟΔΟΣ ΣΟΦΗ") none [titled "ΣΟΔΟΣ ΣΟΦΗ"]).Sublist
      (select (some "ΟΔΟΣ ") none [titled "ΣΟΔΟΣ ΣΟΦΗ"]) ∧
    matchesSearch (titled "ΣΟΔΟΣ ΣΟΦΗ") (some "ΟΔΟΣ ") = true := by
  obtain ⟨narrows, found, -⟩ := search_narrows_iff_settled "ΟΔΟΣ "
  have part : "ΟΔΟΣ ".toList <:+: "ΣΟΔΟΣ ΣΟΦΗ".toList := by decide +kernel
  have settled : IsSettled "ΟΔΟΣ ".toList := by decide +kernel
  exact ⟨part, settled, narrows.2 settled _ part none _,
    found.2 settled (titled _) _ List.mem_cons_self part⟩

/-- Alone the letter is written small as in the middle of a word. As the last letter of the title it
is written otherwise, so that the title finds the strategy and its last letter does not. -/
theorem search_with_sigma_lost :
    "Σ".toList <:+: "ΟΔΟΣ".toList ∧
    select (some "ΟΔΟΣ") none [titled "ΟΔΟΣ"] = [titled "ΟΔΟΣ"] ∧
    select (some "Σ") none [titled "ΟΔΟΣ"] = [] ∧
    ¬ (select (some "ΟΔΟΣ") none [titled "ΟΔΟΣ"]).Sublist
      (select (some "Σ") none [titled "ΟΔΟΣ"]) := by
  decide +kernel

end PlanCompiler.Browse
