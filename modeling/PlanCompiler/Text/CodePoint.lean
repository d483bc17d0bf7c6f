/-!
# Code points

Characters beyond the basic plane are written in 16-bit units by two surrogates. A surrogate without
its partner is no character, yet JSON text can name one.

A text may hold lone surrogates beside its characters, and a string holds characters only. So a text
is kept in a string as follows: a code point outside the last 4096 stands for itself, a lone
surrogate is kept as one of the last 2048 characters, and one of the last 4096 code points itself as
a pair, a lead and a trail, from the first 128 of them. Joining texts, telling them apart and
finding one in another are the same for texts and for the strings that keep them; what counts,
cuts, orders or shows characters has to look at the code points.

* `isHighSurrogate`, `isLowSurrogate`, `pairCode`: the two halves, and the code of the character
  that they stand for;
* `keptCode`, `kept`: the characters that keep a code point, and a sequence of them;
* `codes`, `size`: the code points of a text, and how many there are;
* `isBefore`: the order of texts by code point;
* `isWhole`, `replaced`: a text without lone surrogates, and how one is made so;
* `codes_kept`: every sequence of code points is kept without loss.
-/

namespace PlanCompiler.Text

/-! ## Surrogates -/

/-- The first half of a surrogate pair. -/
def isHighSurrogate (unit : Nat) : Bool :=
  0xD800 ≤ unit && unit ≤ 0xDBFF

/-- The second half of a surrogate pair. -/
def isLowSurrogate (unit : Nat) : Bool :=
  0xDC00 ≤ unit && unit ≤ 0xDFFF

/-- Half of a surrogate pair. -/
def isSurrogate (unit : Nat) : Bool :=
  isHighSurrogate unit || isLowSurrogate unit

/-- The code of the character that a surrogate pair stands for. -/
def pairCode (high low : Nat) : Nat :=
  0x10000 + (high - 0xD800) * 0x400 + (low - 0xDC00)

/-- The first half of the pair for a character beyond the basic plane. -/
def highHalf (code : Nat) : Nat :=
  0xD800 + (code - 0x10000) / 0x400

/-- The second half of the pair for a character beyond the basic plane. -/
def lowHalf (code : Nat) : Nat :=
  0xDC00 + (code - 0x10000) % 0x400

theorem isSurrogate_iff {unit : Nat} :
    isSurrogate unit = true ↔ 0xD800 ≤ unit ∧ unit ≤ 0xDFFF := by
  simp only [isSurrogate, isHighSurrogate, isLowSurrogate, Bool.or_eq_true, Bool.and_eq_true,
    decide_eq_true_eq]
  omega

theorem isSurrogate_eq_false_iff {unit : Nat} :
    isSurrogate unit = false ↔ unit < 0xD800 ∨ 0xDFFF < unit := by
  rw [← Bool.not_eq_true, isSurrogate_iff]
  omega

theorem pairCode_halves {code : Nat} (h : 0x10000 ≤ code) :
    pairCode (highHalf code) (lowHalf code) = code := by
  unfold pairCode highHalf lowHalf
  omega

/-- The first of the last 4096 code points. -/
def reservedStart : Nat := 0x10F000

/-- One past the last code point. -/
def codeBound : Nat := 0x110000

/-- How far above a lone surrogate the character lies that keeps it. -/
def surrogateDistance : Nat := 0x102000

/-- The character that keeps a lone surrogate. -/
def surrogateChar (unit : Nat) : Char :=
  Char.ofNat (surrogateDistance + unit)

/-- The character keeps a lone surrogate. -/
def isSurrogateChar (c : Char) : Bool :=
  surrogateDistance + 0xD800 ≤ c.toNat

/-- The first character for a reserved code point. -/
def leadChar (code : Nat) : Char :=
  Char.ofNat (reservedStart + (code - reservedStart) / 64)

/-- The second character for a reserved code point. -/
def trailChar (code : Nat) : Char :=
  Char.ofNat (reservedStart + 64 + (code - reservedStart) % 64)

/-- The character is the first one for some reserved code point. -/
def isLead (c : Char) : Bool :=
  reservedStart ≤ c.toNat && c.toNat < reservedStart + 64

/-- The character is the second one for some reserved code point. -/
def isTrail (c : Char) : Bool :=
  reservedStart + 64 ≤ c.toNat && c.toNat < reservedStart + 128

/-- The reserved code point that a lead and a trail keep. -/
def reservedCode (lead trail : Char) : Nat :=
  reservedStart + (lead.toNat - reservedStart) * 64 + (trail.toNat - (reservedStart + 64))

/-- The code point that a character keeps on its own. -/
def singleCode (c : Char) : Nat :=
  if isSurrogateChar c then c.toNat - surrogateDistance else c.toNat

/-- The characters that keep a code point. -/
def keptCode (code : Nat) : List Char :=
  if isSurrogate code then [surrogateChar code]
  else if reservedStart ≤ code then [leadChar code, trailChar code]
  else [Char.ofNat code]

/-- The text with the given code points. -/
def kept (codes : List Nat) : List Char :=
  codes.flatMap keptCode

/-- The text of plain characters. -/
def ofPlain (s : List Char) : List Char :=
  kept (s.map Char.toNat)

/-- The code points of a text. -/
def codes : List Char → List Nat
  | [] => []
  | [c] => [singleCode c]
  | c :: next :: rest =>
    if isLead c && isTrail next then reservedCode c next :: codes rest
    else singleCode c :: codes (next :: rest)

/-- How many code points a text has. -/
def size (s : List Char) : Nat :=
  (codes s).length

/-- The numbers that decide where a text comes among others. A character that keeps a lone surrogate
counts as the surrogate; the pair of a reserved code point comes after all others as it stands. -/
def orderKey (s : List Char) : List Nat :=
  s.map singleCode

/-- The first text comes before the second, by code point. -/
def isBefore (s t : List Char) : Bool :=
  decide (orderKey s < orderKey t)

/-- The plain characters of a text; the null character stands in for a lone surrogate. -/
def toPlain (s : List Char) : List Char :=
  (codes s).map Char.ofNat

/-- No character of the text keeps a lone surrogate. -/
def isWhole (s : List Char) : Bool :=
  s.all fun c => !isSurrogateChar c

/-- The text with replacement characters for its lone surrogates, one for each of the three bytes
that a surrogate would take. -/
def replaced (s : List Char) : List Char :=
  s.flatMap fun c => if isSurrogateChar c then List.replicate 3 '\ufffd' else [c]

/-! ## Nothing is lost -/

theorem toNat_ofNat {code : Nat} (bound : code < codeBound) (h : isSurrogate code = false) :
    (Char.ofNat code).toNat = code := by
  have valid : code.isValidChar := by
    have := isSurrogate_eq_false_iff.1 h
    unfold codeBound at bound
    unfold Nat.isValidChar
    omega
  rw [Char.ofNat, dif_pos valid]
  exact UInt32.toNat_ofNatLT ..

theorem toNat_ofNat_of_ascii {code : Nat} (ascii : code < 0x80) : (Char.ofNat code).toNat = code :=
  toNat_ofNat (Nat.lt_trans ascii (by decide))
    (isSurrogate_eq_false_iff.2 (.inl (Nat.lt_trans ascii (by decide))))

/-- The characters that keep other code points lie above all surrogates. -/
theorem toNat_ofNat_of_le {code : Nat} (low : 0xE000 ≤ code) (bound : code < codeBound) :
    (Char.ofNat code).toNat = code :=
  toNat_ofNat bound (isSurrogate_eq_false_iff.2 (by omega))

theorem toNat_surrogateChar {unit : Nat} (h : isSurrogate unit = true) :
    (surrogateChar unit).toNat = surrogateDistance + unit := by
  have bounds := isSurrogate_iff.1 h
  refine toNat_ofNat_of_le ?_ ?_
  · unfold surrogateDistance
    omega
  · unfold surrogateDistance codeBound
    omega

theorem toNat_leadChar {code : Nat} (low : reservedStart ≤ code) (bound : code < codeBound) :
    (leadChar code).toNat = reservedStart + (code - reservedStart) / 64 := by
  unfold reservedStart at low
  unfold codeBound at bound
  refine toNat_ofNat_of_le ?_ ?_
  · unfold reservedStart
    omega
  · unfold reservedStart codeBound
    omega

theorem toNat_trailChar (code : Nat) :
    (trailChar code).toNat = reservedStart + 64 + (code - reservedStart) % 64 := by
  refine toNat_ofNat_of_le ?_ ?_
  · unfold reservedStart
    omega
  · unfold reservedStart codeBound
    omega

theorem isLead_iff {c : Char} :
    isLead c = true ↔ reservedStart ≤ c.toNat ∧ c.toNat < reservedStart + 64 := by
  simp [isLead]

theorem isTrail_iff {c : Char} :
    isTrail c = true ↔ reservedStart + 64 ≤ c.toNat ∧ c.toNat < reservedStart + 128 := by
  simp [isTrail]

theorem isSurrogateChar_iff {c : Char} :
    isSurrogateChar c = true ↔ surrogateDistance + 0xD800 ≤ c.toNat :=
  decide_eq_true_iff

theorem singleCode_surrogateChar {unit : Nat} (h : isSurrogate unit = true) :
    singleCode (surrogateChar unit) = unit := by
  have bounds := isSurrogate_iff.1 h
  have moved := toNat_surrogateChar h
  have marked : isSurrogateChar (surrogateChar unit) = true := by
    rw [isSurrogateChar_iff, moved]
    exact Nat.add_le_add_left bounds.1 _
  rw [singleCode, if_pos marked]
  omega

/-- A character that is no lead keeps its code point on its own. -/
theorem codes_cons {c : Char} (h : isLead c = false) (rest : List Char) :
    codes (c :: rest) = singleCode c :: codes rest := by
  cases rest with
  | nil => rfl
  | cons next rest => simp [codes, h]

theorem codes_surrogateChar {unit : Nat} (h : isSurrogate unit = true) (rest : List Char) :
    codes (surrogateChar unit :: rest) = unit :: codes rest := by
  have := isSurrogate_iff.1 h
  have notLead : isLead (surrogateChar unit) = false := by
    rw [← Bool.not_eq_true, isLead_iff, toNat_surrogateChar h]
    unfold surrogateDistance reservedStart
    omega
  rw [codes_cons notLead, singleCode_surrogateChar h]

theorem codes_lead_trail {code : Nat} (low : reservedStart ≤ code) (bound : code < codeBound)
    (rest : List Char) : codes (leadChar code :: trailChar code :: rest) = code :: codes rest := by
  have lead := toNat_leadChar low bound
  have trail := toNat_trailChar code
  unfold codeBound at bound
  unfold reservedStart at low
  have isL : isLead (leadChar code) = true := by
    rw [isLead_iff, lead]
    unfold reservedStart
    omega
  have isT : isTrail (trailChar code) = true := by
    rw [isTrail_iff, trail]
    omega
  have back : reservedCode (leadChar code) (trailChar code) = code := by
    rw [reservedCode, lead, trail]
    unfold reservedStart
    omega
  simp [codes, isL, isT, back]

theorem codes_ofNat {code : Nat} (whole : isSurrogate code = false) (high : code < reservedStart)
    (rest : List Char) : codes (Char.ofNat code :: rest) = code :: codes rest := by
  have same : (Char.ofNat code).toNat = code :=
    toNat_ofNat (Nat.lt_trans high (by decide)) whole
  have notLead : isLead (Char.ofNat code) = false := by
    rw [← Bool.not_eq_true, isLead_iff, same]
    omega
  have notKept : isSurrogateChar (Char.ofNat code) = false := by
    rw [← Bool.not_eq_true, isSurrogateChar_iff, same]
    unfold reservedStart at high
    unfold surrogateDistance
    omega
  rw [codes_cons notLead, singleCode, if_neg (by simp [notKept]), same]

/-- A kept code point is the first of the text that begins with its characters. -/
theorem codes_keptCode_append {code : Nat} (bound : code < codeBound) (rest : List Char) :
    codes (keptCode code ++ rest) = code :: codes rest := by
  unfold keptCode
  split
  · exact codes_surrogateChar ‹_› rest
  · split
    · exact codes_lead_trail ‹_› bound rest
    · exact codes_ofNat (by simpa using ‹¬isSurrogate code = true›) (by omega) rest

/-- Every sequence of code points is kept without loss. -/
theorem codes_kept {points : List Nat} (bound : ∀ code ∈ points, code < codeBound) :
    codes (kept points) = points := by
  induction points with
  | nil => rfl
  | cons code rest ih =>
    rw [kept, List.flatMap_cons, codes_keptCode_append (bound code (by simp)), ← kept,
      ih fun c hc => bound c (by simp [hc])]

end PlanCompiler.Text
