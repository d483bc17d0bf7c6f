import PlanCompiler.Proofs.Schema.Reading
import PlanCompiler.Proofs.Settings.CommandLine
import PlanCompiler.Settings

/-!
# What settings are read from

Settings come from three places. A command line wins over the arguments, and these win over the
environment variables; options are no settings wherever they come from. Settings that were read are
valid, and are read again from what is written of them.

* `ReadFrom`, `read_eq_valid_iff`: when settings are accepted;
* `IsValid`: what holds of accepted settings, with `isValid_of_load` and `read_write`;
* `readVariables_eq_ok_iff`, `Lookup.find?_eq_some_iff`: the environment variables, and which of
  them a setting is looked up in;
* `get?_merged`, `get?_merged_of_mem_names`: which of the three places decides;
* `load_eq_ok_iff`: when a service has settings.
-/

namespace PlanCompiler

open Schema

namespace Settings

variable {s : Settings} {given : Entries Payload}

/-! ## Accepted settings -/

/-- The settings of a table: each is read from its own field, or stands for its default. -/
structure ReadFrom (given : Entries Payload) (s : Settings) : Prop where
  environment :
    optional given (.single "ENV") .dev (readChoice Environment.choices) = .valid s.environment
  databaseUrl : optional given (.single "DATABASE_URL") "sqlite:///./finplan.db" readUrl =
    .valid s.databaseUrl
  logLevel : optional given (.single "LOG_LEVEL") "INFO" readText = .valid s.logLevel
  logFormat :
    optional given (.single "LOG_FORMAT") .json (readChoice LogFormat.choices) = .valid s.logFormat
  logFile : nullable given (.single "LOG_FILE") readText = .valid s.logFile
  seedsBuiltIn :
    optional given (.single "SEED_DEFAULT_STRATEGIES") true readBoolean = .valid s.seedsBuiltIn
  listLimit : optional given (.single "REPORT_LIST_LIMIT") 100 readLimit = .valid s.listLimit
  defaultClient :
    optional given (.single "DEFAULT_CLIENT_ID") "anonymous" readText = .valid s.defaultClient
  others : unclaimed keys given = s.others

theorem read_eq_valid_iff : read given = .valid s ↔ ReadFrom given s := by
  simp only [read, Checked.functor_map_eq, Checked.applicative_seq_eq, Checked.pure_eq,
    Checked.seq_eq_valid_iff, Checked.map_eq_valid_iff, Checked.valid_inj, ↓existsAndEq, and_true,
    true_and, and_assoc]
  constructor
  · rintro ⟨_, _, _, _, _, _, _, _, h1, h2, h3, h4, h5, h6, h7, h8, rfl⟩
    exact ⟨h1, h2, h3, h4, h5, h6, h7, h8, rfl⟩
  · rintro ⟨h1, h2, h3, h4, h5, h6, h7, h8, others⟩
    exact ⟨_, _, _, _, _, _, _, _, h1, h2, h3, h4, h5, h6, h7, h8, others ▸ rfl⟩

/-- The names of settings. -/
def names : List String :=
  keys.map Key.wire

theorem nodup_names : names.Nodup := by decide

/-- What holds of settings that were accepted. -/
structure IsValid (s : Settings) : Prop where
  databaseUrl : s.databaseUrl ≠ ""
  listLimit : 1 ≤ s.listLimit
  /-- What is no setting has no setting's name. -/
  others : ∀ name ∈ names, name ∉ Entries.keys s.others

instance (s : Settings) : Decidable s.IsValid :=
  decidable_of_iff (s.databaseUrl ≠ "" ∧ 1 ≤ s.listLimit ∧
      ∀ name ∈ names, name ∉ Entries.keys s.others)
    ⟨fun h => ⟨h.1, h.2.1, h.2.2⟩, fun h => ⟨h.databaseUrl, h.listLimit, h.others⟩⟩

theorem readUrl_eq_valid_iff {p : Payload} {url : String} :
    readUrl p = .valid url ↔ p = .text url ∧ url ≠ "" := by
  rw [readUrl, Checked.ensure_eq_valid_iff, readText_eq_valid_iff]
  simp

theorem readLimit_eq_valid_iff {p : Payload} {limit : Int} :
    readLimit p = .valid limit ↔ readInteger p = .valid limit ∧ 1 ≤ limit := by
  rw [readLimit, Checked.ensure_eq_valid_iff, decide_eq_true_iff]

theorem find?_single (given : Entries Payload) (name : String) :
    find? given (.single name) = (Entries.get? given name).map fun p => (name, p) := by
  rw [find?, Key.single]
  cases Entries.get? given name <;> rfl

theorem eq_single_of_mem_keys : ∀ key ∈ keys, key = .single key.wire := by decide

/-- What is left over is what has no setting's name. -/
theorem unclaimed_eq (given : Entries Payload) :
    unclaimed keys given = given.filter fun entry => entry.1 ∉ names := by
  refine List.filter_congr fun entry there => ?_
  rw [Bool.eq_iff_iff, Bool.not_eq_true', ← Bool.not_eq_true, List.any_eq_true, decide_eq_true_iff]
  refine not_congr ⟨fun claimed => ?_, fun known => ?_⟩
  · obtain ⟨key, hkey, found⟩ := claimed
    rw [eq_single_of_mem_keys key hkey, find?_single, Option.any_map, Option.any_eq_true] at found
    obtain ⟨p, -, same⟩ := found
    exact of_decide_eq_true same ▸ List.mem_map_of_mem hkey
  · obtain ⟨key, hkey, same⟩ := List.mem_map.1 known
    obtain ⟨p, found⟩ := Option.isSome_iff_exists.1
      ((Entries.contains_iff_mem_keys _ _).2 (Entries.mem_keys_of_mem there))
    refine ⟨key, hkey, ?_⟩
    rw [eq_single_of_mem_keys key hkey, same, find?_single, found]
    simp

theorem ReadFrom.isValid (h : ReadFrom given s) : s.IsValid where
  databaseUrl := by
    rcases optional_eq_valid_iff.1 h.databaseUrl with ⟨-, same⟩ | ⟨_, p, -, read⟩
    · rw [← same]
      decide
    · exact (readUrl_eq_valid_iff.1 read).2
  listLimit := by
    rcases optional_eq_valid_iff.1 h.listLimit with ⟨-, same⟩ | ⟨_, p, -, read⟩
    · rw [← same]
      decide
    · exact (readLimit_eq_valid_iff.1 read).2
  others name known there := by
    obtain ⟨entry, mem, rfl⟩ := List.mem_map.1 there
    rw [← h.others, unclaimed_eq, List.mem_filter] at mem
    exact of_decide_eq_true mem.2 known

theorem optional_of_get? {α : Type} {name : String} {default a : α} {read : Payload → Checked α}
    {p : Payload} (found : Entries.get? given name = some p) (accepted : read p = .valid a) :
    optional given (.single name) default read = .valid a := by
  rw [optional_eq_valid_iff, find?_single, found]
  exact .inr ⟨name, p, rfl, accepted⟩

theorem readChoice_name_environment (e : Environment) :
    readChoice Environment.choices (.text e.name) = .valid e := by
  cases e <;> rfl

theorem readChoice_name_format (f : LogFormat) :
    readChoice LogFormat.choices (.text f.name) = .valid f := by
  cases f <;> rfl

/-- Valid settings are read again from what is written of them. -/
theorem IsValid.read_write (h : s.IsValid) :
    ∃ fields, s.write = .record fields ∧ read fields = .valid s := by
  refine ⟨_, rfl, read_eq_valid_iff.2 ?_⟩
  exact
    { environment := optional_of_get? rfl (readChoice_name_environment _)
      databaseUrl := optional_of_get? rfl (readUrl_eq_valid_iff.2 ⟨rfl, h.databaseUrl⟩)
      logLevel := optional_of_get? rfl rfl
      logFormat := optional_of_get? rfl (readChoice_name_format _)
      logFile := by
        refine optional_of_get? rfl ?_
        cases s.logFile <;> rfl
      seedsBuiltIn := optional_of_get? rfl rfl
      listLimit := optional_of_get? rfl (readLimit_eq_valid_iff.2 ⟨rfl, h.listLimit⟩)
      defaultClient := optional_of_get? rfl rfl
      others := by
        have kept : s.others.filter (fun entry => entry.1 ∉ names) = s.others := by
          refine List.filter_eq_self.2 fun entry there => decide_eq_true fun known => ?_
          exact h.others _ known (Entries.mem_keys_of_mem there)
        rw [unclaimed_eq, List.filter_append, kept]
        rfl }

end Settings

/-! ## Variables -/

/-- Name and text of an environment variable. -/
structure IsVariable (v : String × String) : Prop where
  named : v.1 ≠ ""
  noEquals : '=' ∉ v.1.toList
  noNull : '\x00' ∉ (v.1 ++ v.2).toList

theorem variableFault?_eq_none_iff {name : String} {value : Payload} :
    variableFault? name value = none ↔ ∃ text, value = .text text ∧ IsVariable (name, text) := by
  cases value with
  | text text =>
    have passes : variableFault? name (.text text) = none ↔
        '\x00' ∉ (name ++ text).toList ∧ '=' ∉ name.toList ∧ name ≠ "" := by
      simp [variableFault?, ite_eq_iff]
    rw [passes]
    constructor
    · rintro ⟨noNull, noEquals, named⟩
      exact ⟨text, rfl, named, noEquals, noNull⟩
    · rintro ⟨_, ⟨⟩, named, noEquals, noNull⟩
      exact ⟨noNull, noEquals, named⟩
  | _ => simp [variableFault?]

/-- A record is taken for variables if each of its fields is the name and the text of one. -/
theorem readVariables_eq_ok_iff {r : Entries Payload} {vars : Entries String} :
    readVariables r = .ok vars ↔ r = Entries.mapValues .text vars ∧ ∀ v ∈ vars, IsVariable v := by
  induction r generalizing vars with
  | nil => cases vars <;> simp [readVariables, Entries.mapValues]
  | cons entry rest ih =>
    obtain ⟨name, value⟩ := entry
    rw [readVariables]
    constructor
    · intro h
      split at h
      · cases h
      · rename_i fits
        obtain ⟨text, rfl, first⟩ := variableFault?_eq_none_iff.1 fits
        obtain ⟨later, hlater, rfl⟩ := Except.map_eq_ok_iff.1 h
        obtain ⟨rfl, others⟩ := ih.1 hlater
        exact ⟨rfl, List.forall_mem_cons.2 ⟨first, others⟩⟩
    · rintro ⟨same, each⟩
      cases vars with
      | nil => cases same
      | cons v others =>
        obtain ⟨name', text⟩ := v
        obtain ⟨first, each⟩ := List.forall_mem_cons.1 each
        cases same
        rw [variableFault?_eq_none_iff.2 ⟨text, rfl, first⟩, ih.2 ⟨rfl, each⟩]
        rfl

namespace Lookup

variable {l : Lookup} {vars : Entries String} {name : String} {p : Payload}

/-- The variable is looked at for a name. -/
def Counts (l : Lookup) (name : String) (v : String × String) : Prop :=
  l.normal v.1 = l.normal (l.start ++ name) ∧ ¬ (l.skipsEmpty = true ∧ v.2 = "")

/-- What is found under a name is the value of the last variable that is looked at for it. -/
theorem find?_eq_some_iff : l.find? vars name = some p ↔
    ∃ before v after, vars = before ++ v :: after ∧ l.Counts name v ∧
      (∀ other ∈ after, ¬ l.Counts name other) ∧ l.valueOf v.2 = p := by
  have counts (v : String × String) : (decide (l.normal v.1 = l.normal (l.start ++ name)) &&
      !(l.skipsEmpty && v.2.isEmpty)) = true ↔ l.Counts name v := by
    cases skips : l.skipsEmpty <;> simp [Counts, skips]
  simp only [find?, List.getLast?_filter, Option.map_eq_some_iff,
    List.find?_eq_some_iff_append, counts, Bool.not_eq_true', ← Bool.not_eq_true]
  constructor
  · rintro ⟨v, ⟨looked, after, before, backwards, later⟩, same⟩
    refine ⟨before.reverse, v, after.reverse, ?_, looked, ?_, same⟩
    · rw [← List.reverse_reverse vars, backwards]
      simp
    · exact fun other there => later other (List.mem_reverse.1 there)
  · rintro ⟨before, v, after, rfl, looked, later, same⟩
    refine ⟨v, ⟨looked, after.reverse, before.reverse, by simp, ?_⟩, same⟩
    exact fun other there => later other (List.mem_reverse.1 there)

end Lookup

namespace Settings

variable {lookup : Lookup} {vars : Entries String} {arguments : Entries Payload}

/-- No option has the name of a setting. -/
theorem not_isOption_of_mem_names : ∀ name ∈ names, Options.isOption name = false := by decide

/-- The variables that are settings, each under the name of its setting. -/
theorem get?_fromVariables (name : String) :
    Entries.get? (keys.filterMap fun key => (lookup.find? vars key.wire).map fun p => (key.wire, p))
      name = if name ∈ names then lookup.find? vars name else none := by
  rw [names]
  induction keys with
  | nil => rfl
  | cons key rest ih =>
    rw [List.filterMap_cons, List.map_cons]
    by_cases same : key.wire = name
    · subst same
      rw [if_pos List.mem_cons_self]
      cases found : lookup.find? vars key.wire with
      | some p => exact if_pos rfl
      | none =>
        rw [Option.map_none]
        dsimp only
        rw [ih, found, ite_self]
    · have other : name ∈ key.wire :: rest.map Key.wire ↔ name ∈ rest.map Key.wire :=
        List.mem_cons.trans (or_iff_right (Ne.symm same))
      simp only [other]
      cases lookup.find? vars key.wire with
      | some p => exact (if_neg same).trans ih
      | none => exact ih

/-- A command line wins over the arguments, and these over the variables. Options are not taken from
the arguments, and variables are taken for settings only. -/
theorem get?_merged (distinct : (Entries.keys arguments).Nodup)
    (once : (Entries.keys lookup.named).Nodup) (name : String) :
    Entries.get? (merged lookup vars arguments) name =
      ((Entries.get? lookup.named name).or
        (if Options.isOption name then none else Entries.get? arguments name)).or
          (if name ∈ names then lookup.find? vars name else none) := by
  rw [merged, Entries.get?_putAll, List.reverse_append, Entries.get?_append,
    Entries.get?_reverse once, Entries.get?_reverse (Entries.nodup_keys_filter distinct _),
    Entries.get?_filter distinct, get?_fromVariables]
  congr 2
  cases option : Options.isOption name <;> cases Entries.get? arguments name <;> simp [option]

/-- For a setting all three places count. -/
theorem get?_merged_of_mem_names (distinct : (Entries.keys arguments).Nodup)
    (once : (Entries.keys lookup.named).Nodup) {name : String} (known : name ∈ names) :
    Entries.get? (merged lookup vars arguments) name =
      ((Entries.get? lookup.named name).or (Entries.get? arguments name)).or
        (lookup.find? vars name) := by
  rw [get?_merged distinct once, not_isOption_of_mem_names name known, if_pos known]
  rfl

/-- Whatever the three places say, nothing is given twice. -/
theorem nodup_keys_merged (lookup : Lookup) (vars : Entries String) (arguments : Entries Payload) :
    (Entries.keys (merged lookup vars arguments)).Nodup := by
  refine Entries.nodup_keys_putAll (nodup_names.sublist ?_) _
  rw [names]
  induction keys with
  | nil => exact List.Sublist.refl _
  | cons key rest ih =>
    rw [List.filterMap_cons, List.map_cons]
    cases lookup.find? vars key.wire with
    | some p => exact ih.cons_cons key.wire
    | none => exact ih.cons key.wire

/-! ## Loading -/

variable {tree : FileTree} {environment given : Entries Payload} {s : Settings}

/-- Unless the arguments bring sources of their own, the settings are looked up in the three places,
and the command line names settings only. -/
theorem exists_of_gather (own : Options.option? arguments "_build_sources" = none)
    (h : gather tree vars arguments = .ok given) :
    ∃ lookup, (Entries.keys lookup.named).Nodup ∧
      (∀ name ∈ Entries.keys lookup.named, name ∈ names) ∧
      given = merged lookup vars arguments := by
  rw [gather, own] at h
  obtain ⟨lookup, hlookup, same⟩ := Except.bind_eq_ok_iff.1 h
  obtain ⟨once, known⟩ := Lookup.names_of_readWords (Lookup.named_of_ofArguments hlookup)
  exact ⟨lookup, once, known, (Except.ok.inj same).symm⟩

/-- There are settings if the environment consists of variables, no argument has the reserved name,
there is a way of looking settings up, and all that is found is accepted. -/
theorem load_eq_ok_iff : load tree environment arguments = .ok s ↔
    ∃ vars given, readVariables environment = .ok vars ∧
      Entries.contains arguments reservedName = false ∧
      gather tree vars arguments = .ok given ∧ ReadFrom given s := by
  simp only [load, Except.bind_eq_ok_iff, Except.mapError_eq_ok_iff, Except.guard_eq_ok_iff,
    Checked.named_eq_ok_iff, read_eq_valid_iff, Bool.not_eq_true]
  constructor
  · rintro ⟨vars, hvars, free, given, hgiven, from_⟩
    exact ⟨vars, given, hvars, free, hgiven, from_⟩
  · rintro ⟨vars, given, hvars, free, hgiven, from_⟩
    exact ⟨vars, hvars, free, given, hgiven, from_⟩

theorem isValid_of_load (h : load tree environment arguments = .ok s) : s.IsValid := by
  obtain ⟨_, _, -, -, -, fields⟩ := load_eq_ok_iff.1 h
  exact fields.isValid

/-- What the settings keep beside themselves are the arguments that are neither settings nor
options, with the values that they were given. -/
theorem get?_others_of_load (distinct : (Entries.keys arguments).Nodup)
    (own : Options.option? arguments "_build_sources" = none)
    (h : load tree environment arguments = .ok s) (name : String) :
    Entries.get? s.others name =
      if name ∈ names ∨ Options.isOption name = true then none
      else Entries.get? arguments name := by
  obtain ⟨vars, given, -, -, hgiven, fields⟩ := load_eq_ok_iff.1 h
  obtain ⟨lookup, once, known, rfl⟩ := exists_of_gather own hgiven
  rw [← fields.others, unclaimed_eq, Entries.get?_filter (nodup_keys_merged lookup vars arguments),
    get?_merged distinct once]
  by_cases setting : name ∈ names
  · simp [setting]
  · have unnamed : Entries.get? lookup.named name = none :=
      Entries.get?_eq_none_iff.2 (mt (known name) setting)
    rw [unnamed, if_neg setting, Option.none_or, Option.or_none]
    cases option : Options.isOption name <;> cases Entries.get? arguments name <;>
      simp [setting]

/-- An argument wins over a variable, and a flag over both. -/
example : (load .plain
    [("LOG_FORMAT", .text "text"), ("LOG_LEVEL", .text "DEBUG"), ("ENV", .text "staging")]
    [("LOG_FORMAT", .text "json"), ("ENV", .text "dev"),
      ("_cli_parse_args", .list [.text "--ENV=prod"])]).toOption.map
        (fun s => (s.logFormat, s.logLevel, s.environment)) = some (.json, "DEBUG", .prod) := by
  decide +kernel

end Settings

end PlanCompiler
