/-!
# Runs of characters, and blanks

The longest stretches of a text whose characters all satisfy a test. Words are the runs between
blanks; the parts of a slug are the runs of letters and digits.

Two classes of characters count as white space. Numbers written as text are trimmed of Unicode's
white space; report texts, headings and toggle states are trimmed of it and of the four information
separators.

* `runs`, `parts`: a text taken apart;
* `joined`: texts put together;
* `occursIn`: a text found in another;
* `trimOf`, `trimEndOf`: a text without the characters of a class at its ends;
* `words`: the runs between blanks.
-/

namespace PlanCompiler.Text

/-- The maximal runs of characters that satisfy `p`, in order. -/
def runs (p : Char → Bool) : List Char → List (List Char)
  | [] => []
  | c :: rest =>
    if p c then
      match rest, runs p rest with
      | next :: _, run :: others => if p next then (c :: run) :: others else [c] :: run :: others
      | _, others => [c] :: others
    else runs p rest

/-- The parts of a text between separators. There is one more of them than there are separators. -/
def parts (separator : Char) : List Char → List (List Char)
  | [] => [[]]
  | c :: rest =>
    match parts separator rest with
    | part :: others => if c = separator then [] :: part :: others else (c :: part) :: others
    | [] => [[c]]

/-- Lists joined with a separator between neighbours. -/
def joined (separator : List Char) : List (List Char) → List Char
  | [] => []
  | [part] => part
  | part :: others => part ++ separator ++ joined separator others

/-- The needle stands somewhere in the text. -/
def occursIn (needle : List Char) : List Char → Bool
  | [] => needle.isEmpty
  | c :: rest => needle.isPrefixOf (c :: rest) || occursIn needle rest

/-- Unicode white space. -/
def isSpace (c : Char) : Bool :=
  c.toNat == 0x20 || (0x09 ≤ c.toNat && c.toNat ≤ 0x0D) || c.toNat == 0x85 || c.toNat == 0xA0 ||
    c.toNat == 0x1680 || (0x2000 ≤ c.toNat && c.toNat ≤ 0x200A) || c.toNat == 0x2028 ||
    c.toNat == 0x2029 || c.toNat == 0x202F || c.toNat == 0x205F || c.toNat == 0x3000

/-- A blank: white space or one of the information separators U+001C to U+001F. -/
def isBlank (c : Char) : Bool :=
  isSpace c || (0x1C ≤ c.toNat && c.toNat ≤ 0x1F)

/-- Drop the characters at the end that satisfy `p`. -/
def trimEndOf (p : Char → Bool) (s : List Char) : List Char :=
  (s.reverse.dropWhile p).reverse

/-- Drop the characters at both ends that satisfy `p`. -/
def trimOf (p : Char → Bool) (s : List Char) : List Char :=
  trimEndOf p (s.dropWhile p)

/-- Drop the blanks at the end. -/
def trimEnd (s : List Char) : List Char :=
  trimEndOf isBlank s

/-- Drop the blanks at both ends. -/
def trim (s : List Char) : List Char :=
  trimOf isBlank s

/-- The words of a text: its runs of characters other than blanks. -/
def words (s : List Char) : List (List Char) :=
  runs (fun c => !isBlank c) s

/-- What is left after trimming the end is not followed by a character that would be trimmed. -/
theorem getLast?_trimEndOf (p : Char → Bool) (s : List Char) (c : Char)
    (h : (trimEndOf p s).getLast? = some c) : p c = false := by
  rw [trimEndOf, List.getLast?_reverse] at h
  have := List.head?_dropWhile_not p s.reverse
  rw [h] at this
  simpa using this

/-- Trimming the end takes away characters that satisfy the test and nothing else. -/
theorem exists_append_trimEndOf (p : Char → Bool) (s : List Char) :
    ∃ tail, (∀ c ∈ tail, p c = true) ∧ trimEndOf p s ++ tail = s := by
  refine ⟨(s.reverse.takeWhile p).reverse, ?_, ?_⟩
  · intro c hc
    rw [List.mem_reverse] at hc
    exact List.all_eq_true.1 (List.all_takeWhile (p := p) (l := s.reverse)) c hc
  · rw [trimEndOf, ← List.reverse_append, List.takeWhile_append_dropWhile, List.reverse_reverse]

end PlanCompiler.Text
