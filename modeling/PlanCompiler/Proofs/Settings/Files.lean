import PlanCompiler.Proofs.Steps
import PlanCompiler.Proofs.Text.Run
import PlanCompiler.Settings.Files

/-!
# Paths and what they lead to

A path from the root is cleared of detours before the file at its end is opened. What is cleared
once is clear, and tidy. The file can be written exactly if the path leads through directories to
something else than a directory.

* `withoutDetours_of_not_mem`, `directPath_directPath`: paths without detours stay as they are;
* `FileTree.Leads`, `FileTree.walk_eq_ok_iff`: where names lead;
* `FileTree.openFault?_eq_none_iff`: the files that can be written;
* `FileTree.expanded?_expanded?`: a home directory is put into a path once.
-/

namespace PlanCompiler

/-! ## Names in a path -/

/-- A text that is a name in a path. -/
def IsPathName (name : String) : Prop :=
  name ≠ "" ∧ name ≠ "." ∧ '/' ∉ name.toList

theorem isPathName_of_mem {path name : String} (h : name ∈ pathNames path) : IsPathName name := by
  obtain ⟨part, rest⟩ := List.mem_filter.1 h
  obtain ⟨chars, cut, rfl⟩ := List.mem_map.1 part
  obtain ⟨filled, noDot⟩ := of_decide_eq_true rest
  exact ⟨filled, noDot, String.toList_ofList ▸ Text.not_mem_of_mem_parts cut⟩

theorem pathNames_intercalate {names : List String} (h : ∀ name ∈ names, IsPathName name) :
    pathNames ("/".intercalate names) = names := by
  cases names with
  | nil => rfl
  | cons name others =>
    have free : ∀ part ∈ (name :: others).map String.toList, '/' ∉ part := by
      intro part hp
      obtain ⟨name, mem, rfl⟩ := List.mem_map.1 hp
      exact (h name mem).2.2
    have cut : Text.parts '/' ("/".intercalate (name :: others)).toList =
        (name :: others).map String.toList := by
      rw [Text.toList_intercalate]
      exact Text.parts_joined (by simp) free
    have back : ((name :: others).map String.toList).map String.ofList = name :: others := by
      rw [List.map_map]
      exact List.map_id'' (fun _ => String.ofList_toList) _
    rw [pathNames, cut, back, List.filter_eq_self]
    exact fun text mem => decide_eq_true ⟨(h text mem).1, (h text mem).2.1⟩

/-! ## How a path begins -/

theorem pathStart_cases (path : String) :
    pathStart path = "" ∨ pathStart path = "/" ∨ pathStart path = "//" := by
  unfold pathStart
  split <;> simp

theorem pathStart_eq_empty_iff {path : String} :
    pathStart path = "" ↔ path.toList.head? ≠ some '/' := by
  unfold pathStart
  cases path.toList with
  | nil => simp
  | cons c rest =>
    by_cases slash : c = '/'
    · rw [slash, List.takeWhile_cons_of_pos rfl]
      split <;> simp_all
    · rw [List.takeWhile_cons_of_neg (by simpa using slash)]
      simp [slash]

theorem pathStart_append {start text : String} (h : start = "" ∨ start = "/" ∨ start = "//")
    (next : text.toList.head? ≠ some '/') : pathStart (start ++ text) = start := by
  have stop : text.toList.takeWhile (· = '/') = [] := by
    cases chars : text.toList with
    | nil => rfl
    | cons c rest =>
      rw [chars] at next
      exact List.takeWhile_cons_of_neg fun same => next (by simpa using same)
  rcases h with rfl | rfl | rfl <;> simp [pathStart, stop]

theorem pathNames_append {start : String} (h : start = "" ∨ start = "/" ∨ start = "//")
    (text : String) : pathNames (start ++ text) = pathNames text := by
  have slash : ∀ chars, Text.parts '/' ('/' :: chars) = [] :: Text.parts '/' chars :=
    Text.parts_append '/' []
  rcases h with rfl | rfl | rfl <;> simp [pathNames, slash]

theorem head?_intercalate {names : List String} (h : ∀ name ∈ names, IsPathName name) :
    ("/".intercalate names).toList.head? ≠ some '/' := by
  rw [Text.toList_intercalate]
  cases names with
  | nil => simp [Text.joined]
  | cons name others =>
    obtain ⟨filled, -, free⟩ := h name List.mem_cons_self
    cases chars : name.toList with
    | nil => exact absurd (String.toList_inj.1 chars) filled
    | cons c rest =>
      rw [chars, List.mem_cons, not_or] at free
      rw [List.map_cons, chars]
      intro same
      cases others <;> exact free.1 (Option.some.inj same).symm

/-! ## Detours -/

theorem withoutDetours_append (names : List String) (name : String) :
    withoutDetours (names ++ [name]) =
      if name = ".." then (withoutDetours names).dropLast else withoutDetours names ++ [name] :=
  List.foldl_append

theorem withoutDetours_of_not_mem {names : List String} (h : ".." ∉ names) :
    withoutDetours names = names := by
  induction names using List.reverseRecOn with
  | nil => rfl
  | append_singleton names name ih =>
    rw [List.mem_append, List.mem_singleton, not_or] at h
    rw [withoutDetours_append, if_neg (Ne.symm h.2), ih h.1]

theorem withoutDetours_sublist (names : List String) :
    (withoutDetours names).Sublist names := by
  induction names using List.reverseRecOn with
  | nil => exact List.Sublist.slnil
  | append_singleton names name ih =>
    rw [withoutDetours_append]
    split
    · exact ((List.dropLast_sublist _).trans ih).trans (List.sublist_append_left _ _)
    · exact ih.append (List.Sublist.refl _)

theorem not_mem_withoutDetours (names : List String) : ".." ∉ withoutDetours names := by
  induction names using List.reverseRecOn with
  | nil => exact List.not_mem_nil
  | append_singleton names name ih =>
    rw [withoutDetours_append]
    split
    · exact fun mem => ih (List.mem_of_mem_dropLast mem)
    · rename_i other
      rw [List.mem_append, List.mem_singleton, not_or]
      exact ⟨ih, Ne.symm other⟩

/-! ## Paths without detours -/

/-- The names that a path from the root leads along. -/
def directNames (path : String) : List String :=
  withoutDetours (pathNames path)

theorem isPathName_of_mem_directNames {path : String} :
    ∀ name ∈ directNames path, IsPathName name :=
  fun _ mem => isPathName_of_mem ((withoutDetours_sublist _).subset mem)

theorem not_mem_directNames (path : String) : ".." ∉ directNames path :=
  not_mem_withoutDetours _

theorem directPath_of_pathStart {path : String} (h : pathStart path ≠ "") :
    directPath path = pathStart path ++ "/".intercalate (directNames path) :=
  congrArg (· ++ _) (if_neg (by simpa using h))

theorem directPath_begins (path : String) : ∃ start, (start = "/" ∨ start = "//") ∧
    pathStart (directPath path) = start ∧
    directPath path = start ++ "/".intercalate (directNames path) := by
  have begins {start : String} (known : start = "/" ∨ start = "//") :
      pathStart (start ++ "/".intercalate (directNames path)) = start :=
    pathStart_append (.inr known) (head?_intercalate isPathName_of_mem_directNames)
  rcases pathStart_cases path with start | known
  · have direct : directPath path = "/" ++ "/".intercalate (directNames path) :=
      congrArg (· ++ _) (if_pos (by rw [start]; rfl))
    exact ⟨"/", .inl rfl, direct ▸ begins (.inl rfl), direct⟩
  · have rooted : pathStart path ≠ "" := by rcases known with h | h <;> simp [h]
    have direct := directPath_of_pathStart rooted
    exact ⟨_, known, direct ▸ begins known, direct⟩

theorem pathStart_directPath_ne (path : String) : pathStart (directPath path) ≠ "" := by
  obtain ⟨start, known, begins, -⟩ := directPath_begins path
  rcases known with rfl | rfl <;> simp [begins]

@[simp] theorem pathNames_directPath (path : String) :
    pathNames (directPath path) = directNames path := by
  obtain ⟨start, known, -, direct⟩ := directPath_begins path
  rw [direct, pathNames_append (.inr known), pathNames_intercalate isPathName_of_mem_directNames]

@[simp] theorem directNames_directPath (path : String) :
    directNames (directPath path) = directNames path := by
  rw [directNames, pathNames_directPath]
  exact withoutDetours_of_not_mem (not_mem_directNames path)

/-- A path without detours is tidy. -/
@[simp] theorem tidyPath_directPath (path : String) :
    tidyPath (directPath path) = directPath path := by
  obtain ⟨start, known, begins, direct⟩ := directPath_begins path
  rw [tidyPath, begins, pathNames_directPath, direct]
  rcases known with rfl | rfl <;> rfl

/-- What is cleared of detours has none. -/
@[simp] theorem directPath_directPath (path : String) :
    directPath (directPath path) = directPath path := by
  obtain ⟨start, -, begins, direct⟩ := directPath_begins path
  rw [directPath_of_pathStart (pathStart_directPath_ne path), begins, directNames_directPath,
    ← direct]

/-! ## Where names lead -/

namespace FileTree

variable {tree : FileTree}

/-- From the end of a way, names lead through directories, and none of them is too long. -/
def Leads (tree : FileTree) (way names : List String) : Prop :=
  ∀ front name, front ++ [name] <+: names →
    tree.kindAt? (way ++ front) = some .directory ∧ pathSize name ≤ nameLimit

theorem leads_cons {way rest : List String} {name : String} :
    tree.Leads way (name :: rest) ↔
      (tree.kindAt? way = some .directory ∧ pathSize name ≤ nameLimit) ∧
        tree.Leads (way ++ [name]) rest := by
  constructor
  · intro leads
    constructor
    · simpa using leads [] name (by simp)
    · intro front last h
      simpa using leads (name :: front) last (by simpa using h)
  · rintro ⟨here, later⟩ front last h
    cases front with
    | nil =>
      obtain rfl : last = name := by simpa using h
      simpa using here
    | cons first front =>
      obtain ⟨rfl, inside⟩ := List.cons_prefix_cons.1 h
      simpa using later front last inside

/-- Names without detours are walked along one by one. -/
theorem walk_eq_ok_iff {way names last : List String} (h : ".." ∉ names) :
    tree.walk way names = .ok last ↔ last = way ++ names ∧ tree.Leads way names := by
  induction names generalizing way with
  | nil =>
    rw [walk, Except.ok.injEq, List.append_nil, eq_comm, and_iff_left]
    exact fun front name inside => absurd (List.prefix_nil.1 inside) (by simp)
  | cons name rest ih =>
    rw [List.mem_cons, not_or] at h
    rw [walk, leads_cons]
    rcases kind : tree.kindAt? way with _ | _ | _ | _
    · simp
    · dsimp only
      rw [if_neg (Ne.symm h.1), Except.check_eq_ok_iff, ih h.2, List.append_assoc,
        List.singleton_append, Nat.not_lt]
      tauto
    · simp
    · simp

theorem find_directPath_eq_ok_iff {path : String} {kind : Option FileKind} :
    tree.find (directPath path) = .ok kind ↔ pathSize (directPath path) ≤ pathLimit ∧
      tree.Leads [] (directNames path) ∧ tree.kindAt? (directNames path) = kind := by
  have root : (pathStart (directPath path)).isEmpty = false := by
    simpa using pathStart_directPath_ne path
  rw [find, tidyPath_directPath, pathNames_directPath, root, Except.check_eq_ok_iff, Nat.not_lt,
    Except.map_eq_ok_iff]
  simp only [Bool.false_eq_true, if_false, walk_eq_ok_iff (not_mem_directNames path),
    List.nil_append]
  constructor
  · rintro ⟨short, way, ⟨rfl, leads⟩, ends⟩
    exact ⟨short, leads, ends⟩
  · rintro ⟨short, leads, ends⟩
    exact ⟨short, _, ⟨rfl, leads⟩, ends⟩

/-- A file can be written exactly if the path to it leads through directories and no directory
stands at its end. -/
theorem openFault?_eq_none_iff {path : String} (h : pathStart path ≠ "") :
    tree.openFault? path = none ↔ pathSize (directPath path) ≤ pathLimit ∧
      tree.Leads [] (directNames path) ∧ tree.kindAt? (directNames path) ≠ some .directory := by
  have root : (pathStart path).isEmpty = false := by simpa using h
  rw [openFault?, root]
  constructor
  · intro writable
    cases ends : tree.find (directPath path) with
    | error fault => simp [ends] at writable
    | ok kind =>
      obtain ⟨short, leads, rfl⟩ := find_directPath_eq_ok_iff.1 ends
      refine ⟨short, leads, fun directory => ?_⟩
      simp [ends, directory] at writable
  · rintro ⟨short, leads, other⟩
    rw [find_directPath_eq_ok_iff.2 ⟨short, leads, rfl⟩, if_neg Bool.false_ne_true]
    rcases kind : tree.kindAt? (directNames path) with _ | _ | _ | _
    · rfl
    · exact absurd kind other
    · rfl
    · rfl

/-- Detours on the way to a file do not matter. -/
theorem openFault?_directPath {path : String} (h : pathStart path ≠ "") :
    tree.openFault? (directPath path) = tree.openFault? path := by
  have start : (pathStart path).isEmpty = false := by simpa using h
  have direct : (pathStart (directPath path)).isEmpty = false := by
    simpa using pathStart_directPath_ne path
  rw [openFault?, openFault?, directPath_directPath, start, direct]

/-! ## Home directories -/

theorem expanded?_of_pathStart {path : String} (h : pathStart path ≠ "") :
    tree.expanded? path = some path := by
  unfold expanded?
  split
  · contradiction
  · rfl

/-- A path stays as it is or begins with a home directory. -/
theorem eq_or_of_expanded? {path expanded : String} (h : tree.expanded? path = some expanded) :
    expanded = path ∨ ∃ user home rest, Entries.get? tree.homes user = some home ∧
      expanded = "/".intercalate ((if home.isEmpty ∧ rest.isEmpty then "/" else home) :: rest) := by
  unfold expanded? at h
  split at h
  · split at h
    · split at h
      · split at h
        · cases h
        · exact .inr ⟨_, _, _, ‹_›, (Option.some.inj h).symm⟩
      · cases h
    · exact .inl (Option.some.inj h).symm
  · exact .inl (Option.some.inj h).symm

/-- Where home directories are told from the root, one is put into a path once. -/
theorem expanded?_expanded? {path expanded : String}
    (rooted : ∀ user home, Entries.get? tree.homes user = some home → home.toList.head? = some '/')
    (h : tree.expanded? path = some expanded) : tree.expanded? expanded = some expanded := by
  obtain rfl | ⟨user, home, rest, found, rfl⟩ := eq_or_of_expanded? h
  · exact h
  · obtain ⟨chars, begins⟩ := List.head?_eq_some_iff.1 (rooted user home found)
    have filled : home ≠ "" := by
      rintro rfl
      simp at begins
    refine expanded?_of_pathStart fun none => pathStart_eq_empty_iff.1 none ?_
    rw [if_neg (by simp [filled]), Text.toList_intercalate]
    cases rest <;> simp [Text.joined, begins]

end FileTree

end PlanCompiler
