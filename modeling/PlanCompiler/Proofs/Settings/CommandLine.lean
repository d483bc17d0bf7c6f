import PlanCompiler.Proofs.Entries
import PlanCompiler.Proofs.Steps
import PlanCompiler.Settings.Variables

/-!
# What a command line names

Words are flags, values of flags, or left over. Whatever is read from them goes to a setting for
which there is a flag, and what is left over are words that are no flags, in their order.

* `Grammar.Has`, `Grammar.classify_eq_ok`: the flags of a grammar are all that is found in words;
* `Grammar.Clusters`, `Grammar.clusters_of_cluster`: the flags that stand in one word;
* `Grammar.Reads`, `Grammar.reads_of_readClassified`: what is read from words, and what is left;
* `Flags.Serves`, `Flags.serves_grammar`: the flags that are made for settings;
* `Lookup.names_of_readWords`, `Lookup.no_idle_of_readWords`: a whole command line names settings
  only, and no word in it is passed over.
-/

namespace PlanCompiler

namespace CommandLine

/-- The setting to which a flag gives a value. -/
def Purpose.setting? : Purpose → Option String
  | .value setting => some setting
  | .switch setting _ => some setting
  | .help => none

namespace Grammar

variable {g : Grammar} {flag : Flag}

/-- The flag is one of the grammar. -/
def Has (g : Grammar) (flag : Flag) : Prop :=
  ∃ spelling, g.find? spelling = some flag

/-! ## Words -/

/-- A word is taken for no flags but those of the grammar. -/
def HasWord (g : Grammar) : Word → Prop
  | .flag _ flag _ => g.Has flag
  | _ => True

theorem hasWord_beforeEquals? {word : List Char} {found : Word}
    (h : g.beforeEquals? word = some found) : g.HasWord found := by
  rw [beforeEquals?] at h
  split at h
  · obtain ⟨flag, there, rfl⟩ := Option.map_eq_some_iff.1 h
    exact ⟨_, there⟩
  · cases h

theorem hasWord_singleLetter? {word : List Char} {found : Word}
    (h : g.singleLetter? word = some found) : g.HasWord found := by
  unfold singleLetter? at h
  split at h
  · split at h
    · cases h
    · obtain ⟨flag, there, rfl⟩ := Option.map_eq_some_iff.1 h
      exact ⟨_, there⟩
  · cases h

theorem hasWord_classifyText (g : Grammar) (word : List Char) :
    g.HasWord (g.classifyText word) := by
  rw [classifyText]
  split
  · trivial
  · split
    · exact ⟨word, ‹_›⟩
    · split
      · trivial
      · split
        · rename_i found
          rcases Option.or_eq_some_iff.1 found with before | ⟨-, single⟩
          · exact hasWord_beforeEquals? before
          · exact hasWord_singleLetter? single
        · split <;> trivial

theorem hasWord_classifyOne {word : Payload} {kind : Word} (h : g.classifyOne word = .ok kind) :
    g.HasWord kind := by
  unfold classifyOne at h
  split at h
  · cases h
    trivial
  · split at h
    · cases h
      exact hasWord_classifyText g _
    · split at h
      · cases h
      · cases h
        trivial
    all_goals cases h

/-- Every word is classified as it stands, and for a flag only if there is such a flag. -/
theorem classify_eq_ok {words : List Payload} {classified : List (Payload × Word)}
    (h : g.classify words = .ok classified) :
    classified.map Prod.fst = words ∧ ∀ pair ∈ classified, g.HasWord pair.2 := by
  induction words generalizing classified with
  | nil =>
    cases h
    exact ⟨rfl, fun _ none => absurd none List.not_mem_nil⟩
  | cons word rest ih =>
    rw [classify] at h
    split at h
    · cases h
      refine ⟨by simp [Function.comp_def], fun pair there => ?_⟩
      rcases List.mem_cons.1 there with rfl | later
      · trivial
      · obtain ⟨other, -, rfl⟩ := List.mem_map.1 later
        trivial
    · split at h
      · cases h
      · obtain ⟨later, hlater, rfl⟩ := Except.map_eq_ok_iff.1 h
        obtain ⟨same, known⟩ := ih hlater
        refine ⟨congrArg (word :: ·) same, List.forall_mem_cons.2 ⟨?_, known⟩⟩
        exact hasWord_classifyOne ‹_›

/-- After two dashes nothing is a flag. -/
theorem classify_append_separator {before after : List Payload}
    {classified : List (Payload × Word)} (none : .text separator ∉ before)
    (h : g.classify (before ++ .text separator :: after) = .ok classified) :
    ∃ first, g.classify before = .ok first ∧
      classified =
        first ++ (.text separator, .idle) :: after.map fun word => (word, .plain) := by
  induction before generalizing classified with
  | nil =>
    rw [List.nil_append, classify, if_pos rfl] at h
    exact ⟨[], rfl, (Except.ok.inj h).symm⟩
  | cons word rest ih =>
    obtain ⟨other, later⟩ := List.ne_and_not_mem_of_not_mem_cons none
    rw [List.cons_append, classify, if_neg other.symm] at h
    rw [classify, if_neg other.symm]
    cases kind : g.classifyOne word with
    | error fault =>
      rw [kind] at h
      cases h
    | ok kind' =>
      rw [kind] at h
      obtain ⟨whole, hwhole, rfl⟩ := Except.map_eq_ok_iff.1 h
      obtain ⟨first, hfirst, rfl⟩ := ih later hwhole
      refine ⟨(word, kind') :: first, ?_, rfl⟩
      rw [hfirst]
      rfl

/-! ## Flags in one word -/

/-- The flags that stand in one word: one at least, all of them of the grammar, and only the last of
them may take a value. It takes the text that is left of the word, if there is any. -/
structure Clusters (g : Grammar) (flags : List Flag) (text : Option (List Char)) : Prop where
  known : ∀ flag ∈ flags, g.Has flag
  bare : ∀ flag ∈ flags.dropLast, flag.takesValue = false
  last : ∃ flag, flags.getLast? = some flag ∧ (text ≠ none → flag.takesValue = true)

theorem clusters_single (has : g.Has flag) {text : Option (List Char)}
    (takes : text ≠ none → flag.takesValue = true) : g.Clusters [flag] text where
  known _ there := List.mem_singleton.1 there ▸ has
  bare _ none := absurd none List.not_mem_nil
  last := ⟨flag, rfl, takes⟩

theorem Clusters.cons {flags : List Flag} {text : Option (List Char)}
    (later : g.Clusters flags text) (has : g.Has flag) (bare : flag.takesValue = false) :
    g.Clusters (flag :: flags) text := by
  obtain ⟨known, others, last, hlast, takes⟩ := later
  cases flags with
  | nil => cases hlast
  | cons next rest =>
    refine ⟨List.forall_mem_cons.2 ⟨has, known⟩, ?_, last, ?_, takes⟩
    · rw [List.dropLast_cons_cons]
      exact List.forall_mem_cons.2 ⟨bare, others⟩
    · rwa [List.getLast?_cons_cons]

theorem clusters_of_behind {spelling text : List Char} (has : g.Has flag) {flags : List Flag}
    {last : Option (List Char)} (h : cluster.behind g spelling flag text = .ok (flags, last)) :
    g.Clusters flags last := by
  induction text generalizing spelling flag flags last with
  | nil =>
    rw [cluster.behind] at h
    split at h
    · cases h
      exact clusters_single has fun _ => ‹_›
    · cases h
  | cons letter rest ih =>
    rw [cluster.behind] at h
    split at h
    · cases h
      exact clusters_single has fun _ => ‹_›
    · rename_i bare
      have bare : flag.takesValue = false := Bool.eq_false_iff.2 bare
      split at h
      · cases h
      · rename_i follower found
        have next : g.Has follower := by
          split at found
          · exact ⟨_, found⟩
          · cases found
        split at h
        · cases h
          exact (clusters_single next (absurd rfl)).cons has bare
        · obtain ⟨⟨flags', last'⟩, later, same⟩ := Except.map_eq_ok_iff.1 h
          cases same
          exact (ih next later).cons has bare

theorem clusters_of_cluster {spelling : List Char} {text : Option (List Char)} (has : g.Has flag)
    {flags : List Flag} {last : Option (List Char)}
    (h : g.cluster spelling flag text = .ok (flags, last)) : g.Clusters flags last := by
  cases text with
  | none =>
    cases h
    exact clusters_single has (absurd rfl)
  | some text => exact clusters_of_behind has h

/-- Flags that ask for no help give their values to their settings, one after another; one that asks
for help is the end. -/
theorem perform_eq_ok {value : Payload} {flags : List Flag} {found : Entries Payload}
    (h : perform value flags = .ok found) :
    (∀ flag ∈ flags, flag.purpose ≠ .help) ∧
      Entries.keys found = flags.filterMap (·.purpose.setting?) := by
  induction flags generalizing found with
  | nil =>
    cases h
    exact ⟨fun _ none => absurd none List.not_mem_nil, rfl⟩
  | cons flag rest ih =>
    rw [perform] at h
    cases purpose : flag.purpose with
    | help =>
      rw [purpose] at h
      cases h
    | value setting | switch setting _ =>
      rw [purpose] at h
      obtain ⟨later, hlater, rfl⟩ := Except.map_eq_ok_iff.1 h
      obtain ⟨noHelp, keys⟩ := ih hlater
      refine ⟨List.forall_mem_cons.2 ⟨by rw [purpose]; exact nofun, noHelp⟩, ?_⟩
      rw [Entries.keys_cons, keys, List.filterMap_cons, purpose]
      rfl

end Grammar

/-! ## All words -/

/-- The word is a flag. -/
def Word.isFlag : Word → Bool
  | .flag _ _ _ => true
  | _ => false

namespace Grammar

variable {g : Grammar} {found more : Entries Payload} {left : List Payload}
  {classified : List (Payload × Word)} {word : Payload} {spelling : List Char} {flag : Flag}
  {text : Option (List Char)}

/-- All values go to settings that have flags. -/
def Gives (g : Grammar) (found : Entries Payload) : Prop :=
  ∀ name ∈ Entries.keys found, ∃ flag, g.Has flag ∧ flag.purpose.setting? = some name

theorem gives_of_cluster {flags : List Flag} {last : Option (List Char)} {value : Payload}
    (has : g.Has flag) (cluster : g.cluster spelling flag text = .ok (flags, last))
    (performed : perform value flags = .ok found) : g.Gives found := by
  intro name there
  rw [(perform_eq_ok performed).2] at there
  obtain ⟨flag, mem, setting⟩ := List.mem_filterMap.1 there
  exact ⟨flag, (clusters_of_cluster has cluster).known flag mem, setting⟩

theorem Gives.append (first : g.Gives more) (later : g.Gives found) : g.Gives (more ++ found) := by
  intro name there
  rw [Entries.keys, List.map_append] at there
  exact (List.mem_append.1 there).elim (first name) (later name)

/-- What is read of words goes to settings that have flags. What is left over are words that are no
flags, in their order, and among them are all words that cannot be values. -/
structure Reads (g : Grammar) (classified : List (Payload × Word)) (found : Entries Payload)
    (left : List Payload) : Prop where
  gives : g.Gives found
  others : left.Sublist ((classified.filter (!·.2.isFlag)).map Prod.fst)
  idle : ((classified.filter (·.2 = .idle)).map Prod.fst).Sublist left

/-- A flag in front whose value stands in its word, or that takes none. -/
theorem Reads.flagged (later : g.Reads classified found left) (gives : g.Gives more) :
    g.Reads ((word, .flag spelling flag text) :: classified) (more ++ found) left :=
  ⟨gives.append later.gives, later.others, later.idle⟩

/-- A flag in front whose value is the next word. -/
theorem Reads.valued {value : Payload} (later : g.Reads classified found left)
    (gives : g.Gives more) :
    g.Reads ((word, .flag spelling flag text) :: (value, .plain) :: classified) (more ++ found)
      left :=
  ⟨gives.append later.gives, later.others.trans ((List.sublist_cons_self _ _).map _), later.idle⟩

/-- A word that is left over. -/
theorem Reads.leftOver {kind : Word} (later : g.Reads classified found left)
    (noFlag : kind.isFlag = false) : g.Reads ((word, kind) :: classified) found (word :: left) where
  gives := later.gives
  others := by
    rw [List.filter_cons_of_pos (by simpa using noFlag)]
    exact later.others.cons_cons word
  idle := by
    rw [List.filter_cons]
    split
    · exact later.idle.cons_cons word
    · exact later.idle.cons word

/-- The values of one word stand before those of the words after it. -/
theorem exists_of_performed {flags : List Flag} {value : Payload}
    {rest : Except CommandLineFault (Entries Payload × List Payload)}
    (h : (perform value flags >>= fun first =>
      rest.map fun (later, others) => (first ++ later, others)) = .ok (found, left)) :
    ∃ first later, perform value flags = .ok first ∧ rest = .ok (later, left) ∧
      found = first ++ later := by
  obtain ⟨first, performed, read⟩ := Except.bind_eq_ok_iff.1 h
  obtain ⟨⟨later, _⟩, hlater, same⟩ := Except.map_eq_ok_iff.1 read
  cases same
  exact ⟨first, later, performed, hlater, rfl⟩

theorem reads_of_readClassified (known : ∀ pair ∈ classified, g.HasWord pair.2)
    (h : g.readClassified classified = .ok (found, left)) : g.Reads classified found left := by
  induction classified using readClassified.induct g generalizing found left with
  | case1 =>
    cases h
    exact ⟨fun _ none => absurd none List.not_mem_nil, List.Sublist.refl _, List.Sublist.refl _⟩
  | case2 word spelling flag text rest fault cluster =>
    rw [readClassified, cluster] at h
    cases h
  | case3 word spelling flag text rest flags last cluster ih =>
    obtain ⟨has, known⟩ := List.forall_mem_cons.1 known
    rw [readClassified, cluster] at h
    obtain ⟨more, found', performed, later, rfl⟩ := exists_of_performed h
    exact (ih known later).flagged (gives_of_cluster has cluster performed)
  | case4 word spelling flag text flags cluster rest bare ih =>
    obtain ⟨has, known⟩ := List.forall_mem_cons.1 known
    rw [readClassified, cluster] at h
    simp only [bare] at h
    obtain ⟨more, found', performed, later, rfl⟩ := exists_of_performed h
    exact (ih known later).flagged (gives_of_cluster has cluster performed)
  | case5 word spelling flag text flags cluster last value after takes ih =>
    obtain ⟨has, -, known⟩ := List.forall_mem_cons.1 known |>.imp_right List.forall_mem_cons.1
    rw [readClassified, cluster] at h
    simp only [takes] at h
    obtain ⟨more, found', performed, later, rfl⟩ := exists_of_performed h
    exact (ih known later).valued (gives_of_cluster has cluster performed)
  | case6 word spelling flag text rest flags cluster last takes noValue =>
    rw [readClassified, cluster] at h
    simp only [takes] at h
    cases h
  | case7 word kind rest noFlag ih =>
    obtain ⟨-, known⟩ := List.forall_mem_cons.1 known
    rw [readClassified] at h
    · obtain ⟨⟨found', left'⟩, later, same⟩ := Except.map_eq_ok_iff.1 h
      cases same
      refine (ih known later).leftOver ?_
      cases kind with
      | flag spelling flag text => exact absurd rfl (noFlag spelling flag text)
      | plain | idle => rfl
    · exact noFlag

end Grammar

end CommandLine

/-! ## Flags for settings -/

namespace Flags

open CommandLine

variable {marks : List Char} {names : List String} {flags flags' : Entries Flag}
  {uses : Entries Purpose} {arguments : Entries Payload} {setting : FlaggedSetting}

/-- The spelling of a flag begins with a mark. -/
def IsMarked (marks : List Char) (spelling : String) : Prop :=
  ∃ c ∈ spelling.toList.head?, c ∈ marks

/-- Flags for the settings of the given names and for help, with a mark at the beginning of each. -/
structure Serves (marks : List Char) (names : List String) (flags : Entries Flag) : Prop where
  settings : ∀ entry ∈ flags, ∀ name ∈ entry.2.purpose.setting?, name ∈ names
  marked : ∀ entry ∈ flags, IsMarked marks entry.1

theorem helpMark_mem (filled : marks ≠ []) : helpMark marks ∈ marks := by
  rw [helpMark]
  split
  · rename_i dash
    exact List.contains_iff_mem.1 dash
  · cases marks with
    | nil => exact absurd rfl filled
    | cons first rest => exact List.mem_cons_self

theorem serves_helpFlags (names : List String) (filled : marks ≠ []) :
    Serves marks names (helpFlags marks) := by
  have mark := helpMark_mem filled
  constructor
  · simp [helpFlags, Purpose.setting?]
  · simp [helpFlags, IsMarked, mark]

theorem isMarked_of_checkSpelling {spelling : String} (h : checkSpelling marks spelling = .ok ()) :
    IsMarked marks spelling := by
  rw [checkSpelling] at h
  split at h
  · cases h
  · rename_i first _ start
    split at h
    · rename_i mark
      exact ⟨first, by rw [start]; rfl, List.contains_iff_mem.1 mark⟩
    · cases h

theorem isMarked_of_spellings {given : List Payload} {spelled : List String}
    (h : spellings marks given = .ok spelled) : ∀ spelling ∈ spelled, IsMarked marks spelling := by
  obtain ⟨each, -, rest⟩ := Except.bind_eq_ok_iff.1 h
  obtain ⟨⟨⟩, checked, same⟩ := Except.bind_eq_ok_iff.1 rest
  obtain rfl := Except.ok.inj same
  exact fun spelling there =>
    isMarked_of_checkSpelling (Except.forM_eq_ok_iff.1 checked spelling there)

/-- A long spelling begins with a dash, and so does the one that switches off. -/
theorem isMarked_withOffSpellings {spelled : List String}
    (marked : ∀ spelling ∈ spelled, IsMarked marks spelling) :
    ∀ spelling ∈ withOffSpellings spelled, IsMarked marks spelling := by
  intro spelling there
  obtain ⟨source, hsource, hspelling⟩ := List.mem_flatMap.1 there
  have mark := marked source hsource
  split at hspelling
  · rename_i long
    rcases List.mem_cons.1 hspelling with rfl | off
    · exact mark
    · rw [List.mem_singleton.1 off]
      obtain ⟨c, first, mem⟩ := mark
      rw [long] at first
      exact ⟨'-', by simp [offStart], Option.some.inj first ▸ mem⟩
  · rw [List.mem_singleton.1 hspelling]
    exact mark

theorem mem_purposes {spelled : List String}
    (marked : ∀ spelling ∈ spelled, IsMarked marks spelling) :
    ∀ entry ∈ purposes arguments setting spelled,
      entry.2.setting? = some setting.name ∧ IsMarked marks entry.1 := by
  intro entry there
  rw [purposes] at there
  split at there
  all_goals
    obtain ⟨spelling, mem, rfl⟩ := List.mem_map.1 there
  · exact ⟨rfl, marked spelling mem⟩
  · exact ⟨rfl, marked spelling mem⟩
  · exact ⟨rfl, isMarked_withOffSpellings marked spelling mem⟩

theorem Serves.addFlag (h : Serves marks names flags) (known : setting.name ∈ names)
    (purposes : ∀ entry ∈ uses, entry.2.setting? = some setting.name ∧ IsMarked marks entry.1)
    (added : addFlag flags uses = .ok flags') : Serves marks names flags' := by
  rw [Flags.addFlag] at added
  split at added
  · obtain rfl := Except.ok.inj added
    constructor
    · intro entry there
      rcases List.mem_append.1 there with old | new
      · exact h.settings entry old
      · obtain ⟨use, mem, rfl⟩ := List.mem_map.1 new
        intro name hname
        rw [(purposes use mem).1] at hname
        exact Option.some.inj hname ▸ known
    · intro entry there
      rcases List.mem_append.1 there with old | new
      · exact h.marked entry old
      · obtain ⟨use, mem, rfl⟩ := List.mem_map.1 new
        exact (purposes use mem).2
  · cases added

theorem Serves.addSetting {start : String} {known known' : Names}
    (h : Serves marks names known.flags) (there : setting.name ∈ names)
    (added : addSetting arguments marks start known setting = .ok known') :
    Serves marks names known'.flags := by
  rw [Flags.addSetting] at added
  obtain ⟨-, added⟩ := Except.guard_eq_ok_iff.1 added
  obtain ⟨given, -, added⟩ := Except.bind_eq_ok_iff.1 added
  split at added
  · exact Except.ok.inj added ▸ h
  · obtain ⟨spelled, hspelled, added⟩ := Except.bind_eq_ok_iff.1 added
    obtain ⟨flags', hflags, same⟩ := Except.bind_eq_ok_iff.1 added
    obtain rfl := Except.ok.inj same
    exact h.addFlag there (mem_purposes (isMarked_of_spellings hspelled)) hflags

theorem ne_nil_of_readMarks (h : readMarks arguments = .ok marks) : marks ≠ [] := by
  rw [readMarks] at h
  split at h
  · split at h
    · cases h
    · rename_i filled
      obtain rfl := Except.ok.inj h
      simpa using filled
  · cases h

/-- Whatever the arguments ask for, the flags are for the settings and for help. -/
theorem serves_grammar {settings : List FlaggedSetting} {g : Grammar}
    (h : grammar arguments settings = .ok g) :
    Serves g.marks (settings.map (·.name)) g.flags := by
  rw [grammar] at h
  obtain ⟨-, h⟩ := Except.guard_eq_ok_iff.1 h
  obtain ⟨start, -, h⟩ := Except.bind_eq_ok_iff.1 h
  obtain ⟨marks, hmarks, h⟩ := Except.bind_eq_ok_iff.1 h
  obtain ⟨start, -, h⟩ := Except.bind_eq_ok_iff.1 h
  obtain ⟨known, folded, same⟩ := Except.bind_eq_ok_iff.1 h
  obtain rfl := Except.ok.inj same
  have filled := ne_nil_of_readMarks hmarks
  refine Except.foldlM_induction (P := fun known => Serves marks _ known.flags) folded
    (serves_helpFlags _ filled) fun known hknown setting there known' added => ?_
  exact hknown.addSetting (List.mem_map_of_mem there) added

/-- Every flag is found as it is spelled: its mark keeps its spelling from being taken for a
value. -/
theorem Serves.classifyText_eq {g : Grammar} {flag : Flag} {word : List Char}
    (h : Serves g.marks names g.flags) (found : g.find? word = some flag) :
    g.classifyText word = .flag word flag none := by
  obtain ⟨c, first, mark⟩ := h.marked _ (Entries.mem_of_get? found)
  rw [String.toList_ofList] at first
  have marked : (word.head?.any fun c => g.marks.contains c) = true := by
    rw [first]
    exact List.contains_iff_mem.2 mark
  rw [Grammar.classifyText, marked, found]
  rfl

theorem Serves.setting_mem {g : Grammar} (h : Serves g.marks names g.flags) {flag : Flag}
    (has : g.Has flag) {name : String} (setting : flag.purpose.setting? = some name) :
    name ∈ names := by
  obtain ⟨spelling, found⟩ := has
  exact h.settings _ (Entries.mem_of_get? found) name setting

end Flags

/-! ## The whole command line -/

namespace Lookup

open CommandLine Options

variable {settings : List FlaggedSetting} {arguments named : Entries Payload} {words : Payload}

/-- What a command line comes down to: its words are classified by the flags for the settings, and
what is read of them is named. Only where the arguments allow it a word may be left over. -/
theorem exists_of_readWords (asked : option? arguments "_cli_parse_args" = some words)
    (h : readWords settings arguments = .ok named) :
    ∃ g given classified found left, Flags.grammar arguments settings = .ok g ∧
      g.classify given = .ok classified ∧ g.Reads classified found left ∧
      (left = [] ∨ isSet arguments "_cli_ignore_unknown_args" = true) ∧
      named = Entries.mapValues (fun p => if p = Flags.nullWord arguments then .null else p)
        ((Entries.putAll [] found).filter fun entry => entry.2 ≠ .null) := by
  rw [readWords, asked] at h
  obtain ⟨g, hg, h⟩ := Except.bind_eq_ok_iff.1 h
  obtain ⟨listed, -, h⟩ := Except.bind_eq_ok_iff.1 h
  obtain ⟨given, -, h⟩ := Except.bind_eq_ok_iff.1 h
  obtain ⟨classified, hclassified, h⟩ := Except.bind_eq_ok_iff.1 h
  obtain ⟨⟨found, left⟩, read, h⟩ := Except.bind_eq_ok_iff.1 h
  obtain ⟨⟨⟩, complete, same⟩ := Except.bind_eq_ok_iff.1 h
  have classification := Except.mapError_eq_ok_iff.1 hclassified
  have known := (Grammar.classify_eq_ok classification).2
  refine ⟨g, given, classified, found, left, Except.mapError_eq_ok_iff.1 hg, classification,
    Grammar.reads_of_readClassified known (Except.mapError_eq_ok_iff.1 read), ?_,
    (Except.ok.inj same).symm⟩
  rw [checkLeftOver] at complete
  split at complete
  · rename_i allowed
    exact (Bool.or_eq_true_iff.1 allowed).imp_left List.isEmpty_iff.1
  · split at complete <;> cases complete

/-- A command line names settings only, and each of them once. -/
theorem names_of_readWords (h : readWords settings arguments = .ok named) :
    (Entries.keys named).Nodup ∧
      ∀ name ∈ Entries.keys named, name ∈ settings.map (·.name) := by
  cases asked : option? arguments "_cli_parse_args" with
  | none =>
    rw [readWords, asked] at h
    cases h
    exact ⟨List.nodup_nil, fun _ none => absurd none List.not_mem_nil⟩
  | some words =>
    obtain ⟨g, given, classified, found, left, hg, -, reads, -, rfl⟩ := exists_of_readWords asked h
    rw [Entries.keys_mapValues]
    refine ⟨Entries.nodup_keys_filter (Entries.nodup_keys_putAll (t := []) List.nodup_nil found) _,
      fun name there => ?_⟩
    obtain ⟨entry, mem, rfl⟩ := List.mem_map.1 there
    have stored : entry.1 ∈ Entries.keys found := by
      rcases Entries.mem_putAll (List.mem_filter.1 mem).1 with none | put
      · cases none
      · exact Entries.mem_keys_of_mem put
    obtain ⟨flag, has, setting⟩ := reads.gives entry.1 stored
    exact (Flags.serves_grammar hg).setting_mem has setting

/-- No word that looks like a flag and is none is passed over, unless the arguments allow it. -/
theorem no_idle_of_readWords (asked : option? arguments "_cli_parse_args" = some words)
    (h : readWords settings arguments = .ok named)
    (strict : isSet arguments "_cli_ignore_unknown_args" = false) :
    ∃ g given classified, Flags.grammar arguments settings = .ok g ∧
      g.classify given = .ok classified ∧ ∀ pair ∈ classified, pair.2 ≠ .idle := by
  obtain ⟨g, given, classified, found, left, hg, hclassified, reads, none, -⟩ :=
    exists_of_readWords asked h
  refine ⟨g, given, classified, hg, hclassified, fun pair there idle => ?_⟩
  have empty : left = [] := none.resolve_right (by simp [strict])
  have kept := reads.idle.subset (List.mem_map_of_mem
    (List.mem_filter.2 ⟨there, decide_eq_true idle⟩))
  rw [empty] at kept
  cases kept

/-- Whichever options are used, what a command line names is what wins over all others. -/
theorem named_of_ofArguments {tree : FileTree} {l : Lookup}
    (h : ofArguments tree settings arguments = .ok l) :
    readWords settings arguments = .ok l.named := by
  rw [ofArguments] at h
  split at h
  on_goal 1 => obtain ⟨-, h⟩ := Except.guard_eq_ok_iff.1 h
  -- What is left is the same whether or not there is a number of splits.
  all_goals
    dsimp only at h
    split at h
    · cases h
    · obtain ⟨_, -, h⟩ := Except.bind_eq_ok_iff.1 h
      obtain ⟨named, read, h⟩ := Except.bind_eq_ok_iff.1 h
      split at h
      · cases h
      · obtain ⟨_, -, h⟩ := Except.bind_eq_ok_iff.1 h
        rw [← Except.ok.inj h, read]

end Lookup

end PlanCompiler
