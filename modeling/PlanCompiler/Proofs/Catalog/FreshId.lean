import Mathlib.Data.List.Nodup
import PlanCompiler.Catalog.Basic

/-!
# Generated ids

An id is generated from a serial number, of which only the last eight hexadecimal digits count. A
catalog tries one serial number more than it has strategies. In a small catalog no two of these give
the same id, so that one of the ids is free; in a large one they give every id that there is for the
title.

* `Text.hex_inj`: a number is known by its digits;
* `generatedId_inj`: an id tells the serial number that it was made from;
* `HasFreeId`: the search for an id ends, as it does in a catalog with room (`hasFreeId_of_room`);
* `not_mem_ids_freshId`: the id that a catalog generates then is not taken.
-/

namespace PlanCompiler

namespace Text

theorem hexDigit_inj {m n : Nat} (hm : m < 16) (hn : n < 16) (h : hexDigit m = hexDigit n) :
    m = n := by
  have all : ∀ a b : Fin 16, hexDigit a = hexDigit b → a = b := by decide
  exact congrArg Fin.val (all ⟨m, hm⟩ ⟨n, hn⟩ h)

theorem hex_inj {width m n : Nat} (hm : m < Nat.pow 16 width) (hn : n < Nat.pow 16 width)
    (h : hex width m = hex width n) : m = n := by
  induction width generalizing m n with
  | zero =>
    have hm : m < 1 := hm
    have hn : n < 1 := hn
    omega
  | succ width ih =>
    have hm : m < Nat.pow 16 width * 16 := hm
    have hn : n < Nat.pow 16 width * 16 := hn
    rw [hex, hex] at h
    obtain ⟨front, last⟩ := List.append_inj' h rfl
    have quotients : m / 16 = n / 16 := ih (by omega) (by omega) front
    have digits : m % 16 = n % 16 :=
      hexDigit_inj (Nat.mod_lt _ (by decide)) (Nat.mod_lt _ (by decide)) (List.singleton_inj.1 last)
    omega

end Text

namespace Catalog

/-- The id that the catalog generates. -/
def freshId (c : Catalog) (origin title : String) (serial : Nat) : String :=
  generatedId origin title (c.freshSerial origin title serial)

/-- An id ends in the digits of its serial number, so it is not empty. -/
theorem generatedId_ne_empty (origin title : String) (serial : Nat) :
    generatedId origin title serial ≠ "" := by
  intro empty
  have digits := congrArg String.length empty
  simp [generatedId, serialText] at digits

theorem generatedId_inj {origin title : String} {m n : Nat}
    (h : generatedId origin title m = generatedId origin title n) :
    m % serialBound = n % serialBound := by
  have digits : serialText m = serialText n := (String.append_right_inj _).1 h
  have hex := String.ofList_injective digits
  exact Text.hex_inj (Nat.mod_lt _ (by decide)) (Nat.mod_lt _ (by decide)) hex

/-- Only the last eight digits of a serial number count. -/
theorem generatedId_congr {m n : Nat} (h : m % serialBound = n % serialBound)
    (origin title : String) : generatedId origin title m = generatedId origin title n := by
  rw [generatedId, generatedId, serialText, serialText, h]

/-- Among the ids that can be generated for a title one is free. -/
def HasFreeId (c : Catalog) (origin title : String) : Prop :=
  ∃ serial, c.contains (generatedId origin title serial) = false

variable {c : Catalog} {origin title : String}

/-- The ids that are tried are all different. -/
theorem nodup_map_generatedId (room : c.size < serialBound) (origin title : String) (serial : Nat) :
    ((c.serials serial).map (generatedId origin title)).Nodup := by
  rw [serials, List.map_map]
  refine List.Nodup.map_on (fun i hi j hj same => ?_) List.nodup_range
  have hi := List.mem_range.1 hi
  have hj := List.mem_range.1 hj
  have congruent : (serial + i) % serialBound = (serial + j) % serialBound := generatedId_inj same
  unfold serialBound at room congruent
  omega

theorem exists_tried_free_of_room (room : c.size < serialBound) (origin title : String)
    (serial : Nat) : ∃ n ∈ c.serials serial, c.contains (generatedId origin title n) = false := by
  by_contra taken
  push Not at taken
  have subset : (c.serials serial).map (generatedId origin title) ⊆ c.ids := by
    intro id mem
    obtain ⟨n, hn, rfl⟩ := List.mem_map.1 mem
    exact (Entries.contains_iff_mem_keys _ _).1 (Bool.of_not_eq_false (taken n hn))
  -- There is one id more to try than there are strategies to take them.
  have length := (nodup_map_generatedId room origin title serial).length_le_of_subset subset
  simp only [serials, ids, Entries.keys, size, List.length_map, List.length_range] at length
  omega

theorem hasFreeId_of_room (room : c.size < serialBound) (origin title : String) :
    c.HasFreeId origin title := by
  obtain ⟨n, -, free⟩ := exists_tried_free_of_room room origin title 0
  exact ⟨n, free⟩

/-- A catalog without room tries a serial number for every id that there is. -/
theorem exists_tried_of_full (full : serialBound ≤ c.size) (serial n : Nat) :
    ∃ m ∈ c.serials serial, m % serialBound = n % serialBound := by
  refine ⟨serial + (n + (serialBound - serial % serialBound)) % serialBound,
    List.mem_map.2 ⟨_, List.mem_range.2 ?_, rfl⟩, ?_⟩
  · have bound : 0 < serialBound := by decide
    have := Nat.mod_lt (n + (serialBound - serial % serialBound)) bound
    omega
  · unfold serialBound
    omega

/-- Where an id is free, one of those that are tried is free. -/
theorem HasFreeId.exists_tried_free (h : c.HasFreeId origin title) (serial : Nat) :
    ∃ n ∈ c.serials serial, c.contains (generatedId origin title n) = false := by
  rcases Nat.lt_or_ge c.size serialBound with room | full
  · exact exists_tried_free_of_room room origin title serial
  · obtain ⟨n, free⟩ := h
    obtain ⟨m, tried, same⟩ := exists_tried_of_full full serial n
    refine ⟨m, tried, ?_⟩
    rwa [generatedId_congr same]

/-- The id that the catalog generates is not taken. -/
theorem not_mem_ids_freshId (h : c.HasFreeId origin title) (serial : Nat) :
    c.freshId origin title serial ∉ c.ids := by
  intro taken
  have there := (Entries.contains_iff_mem_keys _ _).2 taken
  obtain ⟨n, hn, free⟩ := h.exists_tried_free serial
  rw [freshId, freshSerial] at there
  cases found : (c.serials serial).find? fun n => !c.contains (generatedId origin title n) with
  | none =>
    have := List.find?_eq_none.1 found n hn
    simp [free] at this
  | some m =>
    have := List.find?_some found
    rw [found, Option.getD_some] at there
    simp [contains, there] at this

end Catalog

end PlanCompiler
