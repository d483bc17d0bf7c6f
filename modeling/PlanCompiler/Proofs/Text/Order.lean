import PlanCompiler.Text.CodePoint

/-!
# The order of texts

Texts are put in order by code point. The strings that keep them have characters of their own for
lone surrogates and pairs for reserved code points, so the order of strings would be another one.

* `isBefore_kept_iff`: the order of texts is that of their code points;
* `isBefore_irrefl`, `not_isBefore_trans`, `not_isBefore_total`, `eq_of_not_isBefore`: of two texts
  that are not the same, one comes before the other.
-/

namespace PlanCompiler.Text

theorem isBefore_iff {s t : List Char} : isBefore s t = true ↔ orderKey s < orderKey t :=
  decide_eq_true_iff

theorem isBefore_eq_false_iff {s t : List Char} :
    isBefore s t = false ↔ ¬ orderKey s < orderKey t :=
  decide_eq_false_iff_not

/-- A character that keeps a surrogate counts as the surrogate, which is no other character. -/
theorem singleCode_inj {c d : Char} (h : singleCode c = singleCode d) : c = d := by
  have valid (e : Char) : e.toNat < 0xD800 ∨ 0xDFFF < e.toNat ∧ e.toNat < 0x110000 := e.valid
  have hc := valid c
  have hd := valid d
  have same : c.toNat = d.toNat := by
    unfold singleCode at h
    simp only [isSurrogateChar_iff] at h
    unfold surrogateDistance at h
    split at h <;> split at h <;> omega
  exact Char.toNat_inj.1 same

theorem orderKey_inj {s t : List Char} (h : orderKey s = orderKey t) : s = t :=
  List.map_inj_right (fun _ _ => singleCode_inj) |>.1 h

theorem isBefore_irrefl (s : List Char) : isBefore s s = false :=
  isBefore_eq_false_iff.2 (List.lt_irrefl _)

theorem not_isBefore_total (s t : List Char) : isBefore s t = false ∨ isBefore t s = false := by
  rw [isBefore_eq_false_iff, isBefore_eq_false_iff, List.not_lt, List.not_lt]
  exact (List.le_total _ _).symm

theorem not_isBefore_trans {s t u : List Char} (h : isBefore t s = false)
    (h' : isBefore u t = false) : isBefore u s = false := by
  rw [isBefore_eq_false_iff, List.not_lt] at *
  exact List.le_trans h h'

/-- Only the same text comes neither before nor after a text. -/
theorem eq_of_not_isBefore {s t : List Char} (h : isBefore s t = false)
    (h' : isBefore t s = false) : s = t := by
  rw [isBefore_eq_false_iff, List.not_lt] at h h'
  exact orderKey_inj (List.le_antisymm h' h)

/-! ## Code points -/

/-- A code point counts as itself, or as the two characters of its pair. -/
theorem orderKey_keptCode {code : Nat} (bound : code < codeBound) : orderKey (keptCode code) =
    if code < reservedStart then [code]
    else [reservedStart + (code - reservedStart) / 64,
      reservedStart + 64 + (code - reservedStart) % 64] := by
  have plain {c : Char} (low : c.toNat < surrogateDistance + 0xD800) : singleCode c = c.toNat :=
    if_neg fun marked => Nat.not_lt.2 (isSurrogateChar_iff.1 marked) low
  cases surrogate : isSurrogate code with
  | true =>
    have low : code < reservedStart := by
      have := isSurrogate_iff.1 surrogate
      unfold reservedStart
      omega
    rw [keptCode, if_pos surrogate, if_pos low]
    exact congrArg ([·]) (singleCode_surrogateChar surrogate)
  | false =>
    by_cases low : code < reservedStart
    · have same := toNat_ofNat bound surrogate
      have single : singleCode (Char.ofNat code) = code := by
        rw [plain, same]
        rw [same]
        exact Nat.lt_trans low (by decide)
      rw [keptCode, if_neg (by simp [surrogate]), if_neg (Nat.not_le.2 low), if_pos low]
      exact congrArg ([·]) single
    · have high := Nat.not_lt.1 low
      have lead := toNat_leadChar high bound
      have trail := toNat_trailChar code
      rw [keptCode, if_neg (by simp [surrogate]), if_pos high, if_neg low, ← lead, ← trail]
      unfold codeBound at bound
      unfold reservedStart at high lead trail
      have first := plain (c := leadChar code) (by unfold surrogateDistance; omega)
      have second := plain (c := trailChar code) (by unfold surrogateDistance; omega)
      rw [orderKey, List.map_cons, List.map_singleton, first, second]

/-- Of two pairs the one of the lesser code point comes first. -/
theorem pair_lt_iff {start a b : Nat} (ha : start ≤ a) (hb : start ≤ b) (s t : List Nat) :
    (start + (a - start) / 64) :: (start + 64 + (a - start) % 64) :: s <
        (start + (b - start) / 64) :: (start + 64 + (b - start) % 64) :: t ↔
      a < b ∨ a = b ∧ s < t := by
  simp only [List.cons_lt_cons_iff]
  constructor
  · rintro (less | ⟨lead, less | ⟨trail, later⟩⟩)
    · exact .inl (by omega)
    · exact .inl (by omega)
    · exact .inr ⟨by omega, later⟩
  · rintro (less | ⟨rfl, later⟩)
    · have := Nat.lt_or_eq_of_le (show (a - start) / 64 ≤ (b - start) / 64 by omega)
      exact this.imp (by omega) fun lead => ⟨by omega, .inl (by omega)⟩
    · exact .inr ⟨rfl, .inr ⟨rfl, later⟩⟩

/-- The first code point in which two texts differ decides. -/
theorem orderKey_keptCode_append_lt_iff {a b : Nat} (ha : a < codeBound) (hb : b < codeBound)
    (s t : List Char) : orderKey (keptCode a ++ s) < orderKey (keptCode b ++ t) ↔
      a < b ∨ a = b ∧ orderKey s < orderKey t := by
  have cut (u v : List Char) : orderKey (u ++ v) = orderKey u ++ orderKey v := List.map_append
  rw [cut, cut, orderKey_keptCode ha, orderKey_keptCode hb]
  -- Only that it is one bound for both matters of the first reserved code point.
  generalize reservedStart = start
  by_cases lowA : a < start <;> by_cases lowB : b < start
  · rw [if_pos lowA, if_pos lowB]
    exact List.cons_lt_cons_iff
  · have less : a < start + (b - start) / 64 := by omega
    rw [if_pos lowA, if_neg lowB]
    simp [List.cons_lt_cons_iff, less, Nat.lt_of_lt_of_le lowA (Nat.not_lt.1 lowB)]
  · have more : b < start + (a - start) / 64 := by omega
    have more' : b < a := Nat.lt_of_lt_of_le lowB (Nat.not_lt.1 lowA)
    rw [if_neg lowA, if_pos lowB]
    simp [List.cons_lt_cons_iff, Nat.lt_asymm more, Nat.ne_of_gt more, Nat.lt_asymm more',
      Nat.ne_of_gt more']
  · rw [if_neg lowA, if_neg lowB]
    exact pair_lt_iff (Nat.not_lt.1 lowA) (Nat.not_lt.1 lowB) _ _

/-- Texts come in the order of their code points. -/
theorem isBefore_kept_iff (p q : List (Fin codeBound)) :
    isBefore (kept (p.map (·.val))) (kept (q.map (·.val))) = true ↔
      p.map (·.val) < q.map (·.val) := by
  have step (c : Fin codeBound) (r : List (Fin codeBound)) :
      kept ((c :: r).map (·.val)) = keptCode c ++ kept (r.map (·.val)) := by
    rw [List.map_cons, kept, List.flatMap_cons, kept]
  rw [isBefore_iff]
  induction p generalizing q with
  | nil =>
    cases q with
    | nil => simp [kept, orderKey]
    | cons b q =>
      have filled : orderKey (kept ((b :: q).map (·.val))) ≠ [] := by
        rw [step, orderKey, List.map_append, ← orderKey, orderKey_keptCode b.isLt]
        split <;> exact List.cons_ne_nil _ _
      obtain ⟨c, r, eq⟩ := List.exists_cons_of_ne_nil filled
      rw [eq]
      exact ⟨fun _ => List.nil_lt_cons _ _, fun _ => List.nil_lt_cons _ _⟩
  | cons a p ih =>
    cases q with
    | nil => simp [kept, orderKey]
    | cons b q =>
      rw [step, step, orderKey_keptCode_append_lt_iff a.isLt b.isLt]
      simp only [List.map_cons, List.cons_lt_cons_iff, ih q]

end PlanCompiler.Text
