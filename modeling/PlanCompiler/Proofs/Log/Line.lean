import PlanCompiler.Log.Line
import PlanCompiler.Proofs.Json.Printable
import PlanCompiler.Proofs.Json.RoundTrip
import PlanCompiler.Proofs.Steps

/-!
# One record, one line

A record is written as one line of printable ASCII, whatever it contains, and the line reads back as
the members of the record.

Three things are asked of a record. Its arguments have to fill its message, and no value in it may
have an integer with too many digits or be nested too deeply: a record of any other kind is not
written at all. And a text that is to be read back must not have a lone high surrogate right before
a lone low one, because the escapes of the two are read as one character.
-/

namespace PlanCompiler

/-! ## Instants -/

namespace Instant

open Json (Printable)

theorem printable_padded (width n : Nat) : Printable (padded width n).toList := by
  rw [padded, String.toList_ofList]
  refine .append (fun c hc => ?_) (Json.printable_toDigits n)
  rw [List.eq_of_mem_replicate hc]
  decide

theorem printable_toList_append {s t : String} (hs : Printable s.toList)
    (ht : Printable t.toList) : Printable (s ++ t).toList := by
  rw [String.toList_append]
  exact hs.append ht

theorem printable_iso (t : Instant) : Printable t.iso.toList := by
  have micros : Printable (if t.micro = 0 then "" else "." ++ padded 6 t.micro).toList := by
    split
    · decide
    · exact printable_toList_append (by decide) (printable_padded _ _)
  have part {s : String} (hs : Printable s.toList) (separator : String)
      (here : Printable separator.toList) (n : Nat) :
      Printable (s ++ separator ++ padded 2 n).toList :=
    printable_toList_append (printable_toList_append hs here) (printable_padded 2 n)
  have month := part (printable_padded 4 t.date.year) "-" (by decide) t.date.month
  have day := part month "-" (by decide) t.date.day
  have hour := part day "T" (by decide) t.hour
  have minute := part hour ":" (by decide) t.minute
  have second := part minute ":" (by decide) t.second
  exact printable_toList_append second micros

end Instant

namespace LogRecord

open Json (Printable readWhole)
open Payload (maskedFields)

/-- The request that a record belongs to, if it names one. -/
def requestMember (r : LogRecord) : Entries Payload :=
  (r.requestId.map fun id => ("request_id", id)).toList

/-- The failure that a record reports, if it does. -/
def failureMember (r : LogRecord) : Entries Payload :=
  (r.failure.map fun f => ("exception", .text (failureText f))).toList

/-- What a record says besides its time, in the order in which it is set. -/
def given (r : LogRecord) (level : Payload) (text : String) : Entries Payload :=
  [("level", level), ("logger", r.logger), ("message", .text text)] ++
    r.requestMember ++ r.extras ++ r.failureMember

/-- All that is set in the line of a record. -/
def settings (r : LogRecord) (now : Instant) (level : Payload) (text : String) : Entries Payload :=
  ("timestamp", .text (now.iso ++ "+00:00")) :: r.given level text

variable {r : LogRecord} {now : Instant} {level : Payload} {text : String}
variable {spelling writing : Limits}

/-- A line holds what is set in it, each key at the place where it was set first. -/
theorem members_eq_putAll (r : LogRecord) (now : Instant) (level : Payload) (text : String) :
    r.members now level text = Entries.putAll [] (r.settings now level text) := by
  have fixed (later : Entries Payload) :
      Entries.putAll [] (r.fixedMembers now level text ++ later) =
        Entries.putAll (r.fixedMembers now level text) later := by
    simp [Entries.putAll, fixedMembers, Entries.put]
  have whole : r.settings now level text =
      r.fixedMembers now level text ++ (r.requestMember ++ r.extras ++ r.failureMember) := by
    simp [settings, given, fixedMembers]
  rw [whole, fixed]
  simp only [Entries.putAll, List.foldl_append]
  -- What is left is to store the request and the failure, or not.
  unfold members requestMember failureMember
  cases r.requestId <;> cases r.failure <;> rfl

/-- There is a line when each of the three steps to it succeeds. -/
theorem line_eq_ok_iff {line : String} : r.line spelling writing now = .ok line ↔
    ∃ level text, levelName spelling r.level = .ok level ∧ r.text spelling = .ok text ∧
      (Payload.record (r.members now level text)).Fits writing 0 ∧
      line = String.ofList (Json.write (.record (r.members now level text))) := by
  simp only [LogRecord.line, Except.bind_eq_ok_iff, Except.mapError_eq_ok_iff,
    Except.functor_map_eq_ok_iff, Json.writeWithin_eq_ok_iff]
  constructor
  · rintro ⟨level, named, text, filled, _, ⟨fits, rfl⟩, rfl⟩
    exact ⟨level, text, named, filled, fits, rfl⟩
  · rintro ⟨level, text, named, filled, fits, rfl⟩
    exact ⟨level, named, text, filled, _, ⟨fits, rfl⟩, rfl⟩

/-- Without arguments the message is put together whenever it is spelled out. -/
theorem exists_text_iff (none : r.arguments = []) :
    (∃ text, r.text spelling = .ok text) ↔ r.message.IsSpellable spelling := by
  simp only [LogRecord.text, none, List.isEmpty_nil, if_true, Except.bind_eq_ok_iff,
    Except.mapError_eq_ok_iff, Payload.spelledWithin_eq_ok_iff]
  constructor
  · rintro ⟨_, _, ⟨spellable, -⟩, -⟩
    exact spellable
  · intro spellable
    exact ⟨_, _, ⟨spellable, rfl⟩, rfl⟩

theorem isLegible_timestamp (now : Instant) :
    Text.isLegible (now.iso ++ "+00:00").toList = true := by
  have printable : Printable (now.iso ++ "+00:00").toList :=
    Instant.printable_toList_append (Instant.printable_iso now) (by decide)
  exact Text.isLegible_of_ascii fun c hc => Nat.lt_of_le_of_lt (printable c hc).2 (by decide)

/-- The line reads back as its members when what the record says is legible. -/
theorem exists_readWhole_members {limits : Limits}
    (legible : ∀ entry ∈ r.given level text, entry ∈ r.members now level text →
      Text.isLegible entry.1.toList = true ∧ Json.isLegible entry.2 = true)
    (fits : (Payload.record (r.members now level text)).Fits limits 0) :
    ∃ fields, readWhole limits (Json.write (.record (r.members now level text))) =
        .ok (.record fields) ∧ maskedFields fields = maskedFields (r.members now level text) := by
  have distinct : (Entries.keys (r.members now level text)).Nodup := by
    rw [members_eq_putAll]
    exact Entries.nodup_keys_putAll (t := []) List.nodup_nil _
  have timestamp : ∀ c ∈ "timestamp".toList, c.toNat < 0x80 := Text.forall_mem_of_all (by decide)
  have fields : Json.isLegibleFields (r.members now level text) = true := by
    refine Json.isLegibleFields_iff.2 fun entry there => ?_
    have set := there
    rw [members_eq_putAll] at set
    rcases Entries.mem_putAll set with none | set
    · cases none
    · rcases List.mem_cons.1 set with rfl | given
      · exact ⟨Text.isLegible_of_ascii timestamp, isLegible_timestamp now⟩
      · exact legible entry given there
  have whole : Json.isLegible (.record (r.members now level text)) = true := by
    rw [Json.isLegible, fields, decide_eq_true distinct]
    rfl
  obtain ⟨q, read, same⟩ := Json.readWhole_write whole fits
  cases q <;> simp only [Payload.masked, reduceCtorEq, Payload.record.injEq] at same
  exact ⟨_, read, same⟩

/-- A record is one line of printable ASCII, whatever it contains, as long as its level is
described, its message is put together and its members are within the limits of what is written;
without arguments the message is put together whenever it is spelled out. The line holds what the
record says, a key that is set again at its first place with its last value. Read within the same
limits, it gives back the same keys in the same order and the same texts, as long as what it says
is legible. -/
theorem line_reads_back (r : LogRecord) (spelling writing : Limits) (now : Instant) :
    ((∃ line, r.line spelling writing now = .ok line) ↔
      ∃ level text, levelName spelling r.level = .ok level ∧ r.text spelling = .ok text ∧
        (Payload.record (r.members now level text)).Fits writing 0) ∧
    (r.arguments = [] →
      ((∃ text, r.text spelling = .ok text) ↔ r.message.IsSpellable spelling)) ∧
    ∀ line, r.line spelling writing now = .ok line →
      ∃ level text, levelName spelling r.level = .ok level ∧ r.text spelling = .ok text ∧
        Printable line.toList ∧
        Entries.keys (r.members now level text) =
          (Entries.keys (r.settings now level text)).eraseDups ∧
        (∀ key, Entries.get? (r.members now level text) key =
          Entries.get? (r.settings now level text).reverse key) ∧
        ((∀ entry ∈ r.given level text, entry ∈ r.members now level text →
            Text.isLegible entry.1.toList = true ∧ Json.isLegible entry.2 = true) →
          ∀ limits : Limits, writing.digits ≤ limits.digits → writing.depth ≤ limits.depth →
          ∃ fields, readWhole limits line.toList = .ok (.record fields) ∧
            Entries.keys fields = Entries.keys (r.members now level text) ∧
            (∀ key s, Entries.get? (r.members now level text) key = some (.text s) →
              Entries.get? fields key = some (.text s)) ∧
            maskedFields fields = maskedFields (r.members now level text)) := by
  refine ⟨?_, exists_text_iff, fun line written => ?_⟩
  · simp only [line_eq_ok_iff]
    exact ⟨fun ⟨_, level, text, named, filled, fits, _⟩ => ⟨level, text, named, filled, fits⟩,
      fun ⟨level, text, named, filled, fits⟩ => ⟨_, level, text, named, filled, fits, rfl⟩⟩
  · obtain ⟨level, text, named, filled, fits, rfl⟩ := line_eq_ok_iff.1 written
    refine ⟨level, text, named, filled, ?_, ?_, fun key => ?_,
      fun legible limits digits depth => ?_⟩
    · rw [String.toList_ofList]
      exact Json.printable_write _
    · rw [members_eq_putAll, Entries.keys_putAll_nil]
    · rw [members_eq_putAll, Entries.get?_putAll, Entries.get?_nil, Option.or_none]
    · obtain ⟨fields, read, same⟩ := exists_readWhole_members legible (fits.mono digits depth)
      rw [String.toList_ofList]
      exact ⟨fields, read, Payload.keys_eq_of_maskedFields same,
        fun key s found => Payload.get?_text_of_maskedFields same found, same⟩

/-- A record with something of everything: line breaks, quotation marks, a character beyond the
basic plane, a lone surrogate, fields that set the level and the message again. -/
def sampleRecord : LogRecord where
  logger := .text "plans\n\"x\""
  level := .integer 20
  message := .text "%s: \\ and \x7f"
  arguments := [.text "😀"]
  requestId := some (.text "r-1")
  extras := [("level", .integer (-7)), ("nested", .list [.record [("k\r", .boolean true)], .null]),
    ("half", .text (String.ofList (Text.kept [0xD800, 0x41]))), ("share", .double (.infinite true))]
  failure := some { type := "ValueError", message := "a\tb" }

theorem line_reads_back_sampleRecord : ∃ line fields,
    sampleRecord.line {} {} .epoch = .ok line ∧
    readWhole {} line.toList = .ok (.record fields) ∧
    Entries.keys fields =
      ["timestamp", "level", "logger", "message", "request_id", "nested", "half", "share",
        "exception"] ∧
    Entries.get? fields "message" = some (.text "😀: \\ and \x7f") := by
  have named : levelName {} sampleRecord.level = .ok (.text "INFO") := by decide +kernel
  have filled : sampleRecord.text {} = .ok "😀: \\ and \x7f" := by decide +kernel
  obtain ⟨exists_iff, -, reads⟩ := line_reads_back sampleRecord {} {} .epoch
  obtain ⟨line, written⟩ := exists_iff.2 ⟨_, _, named, filled, by decide +kernel⟩
  obtain ⟨level, text, sameLevel, sameText, -, -, -, back⟩ := reads line written
  obtain rfl := Except.ok.inj (named.symm.trans sameLevel)
  obtain rfl := Except.ok.inj (filled.symm.trans sameText)
  have legible : ∀ entry ∈ sampleRecord.given (.text "INFO") "😀: \\ and \x7f",
      Text.isLegible entry.1.toList = true ∧ Json.isLegible entry.2 = true := by decide +kernel
  obtain ⟨fields, read, keys, texts, -⟩ :=
    back (fun entry given _ => legible entry given) {} (by decide) (by decide)
  exact ⟨line, fields, written, read, keys.trans (by decide +kernel),
    texts "message" _ (by decide +kernel)⟩

/-- A record whose message has more places than there are arguments is not written. -/
def unfilledRecord : LogRecord where
  logger := .text "n"
  level := .integer 20
  message := .text "%s %s"
  arguments := [.text "a"]

/-- A record with an integer in a field of its own. -/
def numberedRecord (value : Int) : LogRecord where
  logger := .text "n"
  level := .integer 20
  message := .text "m"
  extras := [("a", .integer value)]

/-- A record whose message holds both halves of a pair, each on its own. -/
def halvesRecord : LogRecord where
  logger := .text "n"
  level := .integer 20
  message := .text (String.ofList (Text.kept [0xD83D, 0xDE00]))

/-- The message that is found in the line of a record. -/
def foundMessage? (r : LogRecord) (now : Instant) : Option Payload :=
  match r.line {} {} now with
  | .error _ => none
  | .ok line =>
    match readWhole {} line.toList with
    | .ok (.record fields) => Entries.get? fields "message"
    | _ => none

/-- An integer that is too long keeps its record from being written. -/
theorem line_numberedRecord {value : Int}
    (long : 4300 < Binary64.decimalLength value.natAbs) :
    (numberedRecord value).line {} {} .epoch = .error (.members .digits) := by
  have named : levelName {} (numberedRecord value).level = .ok (.text "INFO") := rfl
  have filled : (numberedRecord value).text {} = .ok "m" := rfl
  have members : (numberedRecord value).members .epoch (.text "INFO") "m" =
      (numberedRecord value).fixedMembers .epoch (.text "INFO") "m" ++ [("a", .integer value)] :=
    rfl
  have excess : (Payload.record ((numberedRecord value).members .epoch (.text "INFO") "m")).excess?
      {} 0 = some .digits := by
    rw [members]
    simp [fixedMembers, numberedRecord, Payload.excess?, Payload.excessFrom?,
      Payload.excessFields?, long]
  rw [LogRecord.line, named, filled]
  simp only [Except.mapError, bind, Except.bind, Json.writeWithin, Payload.within, excess]
  rfl

theorem line_missing_or_altered :
    unfilledRecord.line {} {} .epoch = .error (.message .tooFew) ∧
    (numberedRecord (10 ^ 4300 : Nat)).line {} {} .epoch = .error (.members .digits) ∧
    foundMessage? halvesRecord .epoch = some (.text "😀") ∧
    halvesRecord.message ≠ .text "😀" :=
  ⟨by decide +kernel, line_numberedRecord (Binary64.lt_decimalLength_pow 4300), by decide +kernel,
    by decide +kernel⟩

end LogRecord

end PlanCompiler
