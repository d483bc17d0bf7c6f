import Mathlib.Data.List.ReduceOption
import Mathlib.Data.List.TakeWhile
import PlanCompiler.Proofs.Client.Data
import PlanCompiler.Proofs.Service.Generation
import PlanCompiler.Proofs.Service.Reachable
import PlanCompiler.Proofs.Text.Run

/-!
# The exported document

An exported report has a header of three lines, an empty line, and behind it the text of the report.
The first line ends in the client's name, which stands there as it was sent. So the document is
taken apart at its first empty line into what it was made of as long as there is no line feed in the
name, whatever lines the text is made of; and it is not if there is one.

* `Document.header`, `Document.body`: a document taken apart;
* `ClientData.shownName`: the name in the header;
* `StoredReport.header_body_iff`: when a document is taken apart into what it was made of;
* `Service.generated_document_iff`: the same for every report that is generated;
* `Service.header_forged`: a name that a document cannot be taken apart with.
-/

namespace PlanCompiler

open Schema Text

/-! ## Documents taken apart -/

namespace Document

/-- The lines of a document. -/
def lines (document : String) : List (List Char) :=
  parts '\n' document.toList

/-- The lines before the first empty one. -/
def header (document : String) : List String :=
  ((lines document).takeWhile fun line => !line.isEmpty).map String.ofList

/-- What stands behind the first empty line. -/
def body (document : String) : String :=
  String.ofList (joined ['\n'] ((lines document).dropWhile fun line => !line.isEmpty).tail)

variable {top rest : List (List Char)} {second third : List Char}

/-- A text with two lines, an empty one and another text below it. -/
theorem parts_above (text below : List Char) (hs : '\n' ∉ second) (ht : '\n' ∉ third) :
    parts '\n' (text ++ '\n' :: (second ++ '\n' :: (third ++ '\n' :: '\n' :: below))) =
      parts '\n' text ++ second :: third :: [] :: parts '\n' below := by
  have empty : parts '\n' ('\n' :: below) = [] :: parts '\n' below :=
    parts_append '\n' [] below
  rw [parts_append, parts_append, parts_append, empty, parts_of_not_mem hs, parts_of_not_mem ht]
  rfl

section Filled

variable (filled : ∀ line ∈ top, line ≠ []) (hs : second ≠ []) (ht : third ≠ [])

include filled hs ht

/-- The header of lines none of which is empty, with one that is below them. -/
theorem takeWhile_of_filled :
    ((top ++ second :: third :: [] :: rest).takeWhile fun line => !line.isEmpty) =
      top ++ [second, third] := by
  rw [List.takeWhile_append_of_pos fun line hl => by simpa using filled line hl]
  simp [hs, ht]

theorem dropWhile_of_filled :
    ((top ++ second :: third :: [] :: rest).dropWhile fun line => !line.isEmpty) = [] :: rest := by
  rw [List.dropWhile_append_of_pos fun line hl => by simpa using filled line hl]
  simp [hs, ht]

end Filled

/-- The higher up the first empty line is, the more stands behind it. -/
theorem length_lt_of_empty (second third : List Char) (more : rest ≠ []) (empty : [] ∈ top) :
    (joined ['\n'] rest).length <
      (joined ['\n'] ((top ++ second :: third :: [] :: rest).dropWhile
        fun line => !line.isEmpty).tail).length := by
  cases dropped : top.dropWhile fun line => !line.isEmpty with
  | nil => exact absurd (List.dropWhile_eq_nil_iff.1 dropped [] empty) (by simp)
  | cons line others =>
    have behind : ((top ++ second :: third :: [] :: rest).dropWhile
        fun line => !line.isEmpty).tail = (others ++ [second, third]) ++ [] :: rest := by
      rw [List.dropWhile_append, dropped]
      simp
    have one : (joined ['\n'] ([] :: rest)).length = (joined ['\n'] rest).length + 1 := by
      rw [joined_cons_of_ne_nil more]
      simp
    have all := length_joined_le_append ['\n'] (List.cons_ne_nil [] rest)
      (others ++ [second, third])
    rw [behind]
    omega

end Document

/-! ## The client's name -/

/-- The parts of the client's name that were filled in. -/
def ClientData.givenNames (c : ClientData) : List String :=
  [c.firstName, c.lastName].reduceOption.filter fun name => !name.isEmpty

/-- The name in the header of a document. -/
def ClientData.shownName (c : ClientData) : String :=
  match c.givenNames with
  | [] => StoredReport.unnamed
  | names => " ".intercalate names

namespace StoredReport

theorem nameTexts_texts (index : Nat) (names : List String) :
    nameTexts index (names.map Payload.text) = .ok names := by
  induction names generalizing index with
  | nil => rfl
  | cons name names ih =>
    rw [List.map_cons, nameTexts, ih]
    rfl

/-- What a part of a name that is missing or empty is stored as does not count. -/
theorem filter_isFilled (names : List (Option String)) :
    ((names.map fun name => Payload.ofOption .text name).filter fun p => p.isFilled) =
      (names.reduceOption.filter fun name => !name.isEmpty).map Payload.text := by
  induction names with
  | nil => rfl
  | cons name names ih =>
    cases name with
    | none => exact ih
    | some name =>
      rw [List.reduceOption_cons_of_some, List.map_cons]
      cases empty : name.isEmpty <;> simpa [Payload.ofOption, Payload.isFilled, empty] using ih

theorem nameParts_storedRecord (c : ClientData) :
    nameParts c.storedRecord = c.givenNames.map Payload.text :=
  filter_isFilled [c.firstName, c.lastName]

theorem clientName_of_storedRecord {r : StoredReport} {c : ClientData}
    (h : r.clientData = .record c.storedRecord) : r.clientName = .ok c.shownName := by
  have parts : nameTexts 0 (nameParts c.storedRecord) = .ok c.givenNames := by
    rw [nameParts_storedRecord, nameTexts_texts]
  have filled : (Payload.record c.storedRecord).isFilled = true := rfl
  rw [clientName, h, filled]
  dsimp only
  rw [parts]
  rfl

end StoredReport

/-! ## Lines that are never cut -/

/-- A number with leading zeros is made of digits. -/
theorem Instant.lineFeed_not_mem_padded (width n : Nat) : '\n' ∉ (padded width n).toList := by
  intro there
  rw [padded, String.toList_ofList, List.mem_append] at there
  rcases there with zero | digit
  · exact absurd (List.eq_of_mem_replicate zero) (by decide)
  · exact absurd (Nat.isDigit_of_mem_toDigits (by decide) (by decide) digit) (by decide)

theorem Instant.lineFeed_not_mem_minuteText (t : Instant) : '\n' ∉ t.minuteText.toList := by
  simp [minuteText, lineFeed_not_mem_padded]

theorem lineFeed_not_mem_hex (width n : Nat) : '\n' ∉ hex width n := by
  have digit : ∀ n : Fin 16, hexDigit n ≠ '\n' := by decide
  induction width generalizing n with
  | zero => exact List.not_mem_nil
  | succ width ih =>
    rw [hex, List.mem_append, List.mem_singleton, not_or]
    exact ⟨ih _, (digit ⟨n % 16, Nat.mod_lt _ (by decide)⟩).symm⟩

theorem Service.lineFeed_not_mem_reportId (serial : Nat) : '\n' ∉ (reportId serial).toList := by
  have tail : '\n' ∉ reportIdTail.toList := by decide
  rw [reportId, String.toList_append, List.mem_append, not_or, Catalog.serialText,
    String.toList_ofList]
  exact ⟨lineFeed_not_mem_hex _ _, tail⟩

theorem lineFeed_mem_intercalate (names : List String) :
    '\n' ∈ (" ".intercalate names).toList ↔ ∃ name ∈ names, '\n' ∈ name.toList := by
  induction names with
  | nil => simp
  | cons name names ih =>
    cases names with
    | nil => simp
    | cons next names =>
      rw [String.intercalate_cons_cons, String.toList_append, String.toList_append,
        List.mem_append, List.mem_append, ih]
      simp

/-- The name that is shown has no line feed but those that were sent. -/
theorem ClientData.lineFeed_mem_shownName (c : ClientData) :
    '\n' ∈ c.shownName.toList ↔ ∃ name ∈ c.givenNames, '\n' ∈ name.toList := by
  rw [shownName]
  split
  · rename_i missing
    have unnamed : '\n' ∉ StoredReport.unnamed.toList := by decide
    simp [missing, unnamed]
  · exact lineFeed_mem_intercalate _

/-! ## A report taken apart -/

namespace StoredReport

/-- The exported document, with a name for the client. -/
def shown (r : StoredReport) (name : String) : String :=
  r.header name ++ "\n" ++ r.text ++ "\n"

/-- Every report with client data in stored form can be exported. -/
theorem document_of_storedRecord {r : StoredReport} {c : ClientData}
    (h : r.clientData = .record c.storedRecord) : r.document = .ok (r.shown c.shownName) := by
  rw [document, clientName_of_storedRecord h]
  rfl

/-- The first line of a document. -/
def titleLine (name : String) : String := "FINANCIAL PLAN - " ++ name

/-- The line that says when the report was created. -/
def createdLine (r : StoredReport) : String := "Created: " ++ r.createdAt.minuteText

/-- The line with the id of the report. -/
def idLine (r : StoredReport) : String := "Report ID: " ++ r.id

variable {r : StoredReport} {name : String}

/-- A text with a line feed and more behind it. -/
theorem toList_lineFeed (s rest : String) :
    (s ++ ("\n" ++ rest)).toList = s.toList ++ '\n' :: rest.toList := by
  rw [String.toList_append, String.toList_append]
  rfl

theorem toList_shown (r : StoredReport) (name : String) :
    (r.shown name).toList = (titleLine name).toList ++ '\n' :: (r.createdLine.toList ++ '\n' ::
      (r.idLine.toList ++ '\n' :: '\n' :: (r.text ++ "\n").toList)) := by
  have pieces : r.shown name = titleLine name ++ "\n" ++ "Created: " ++ r.createdAt.minuteText ++
      "\n" ++ "Report ID: " ++ r.id ++ "\n" ++ "\n" ++ r.text ++ "\n" := rfl
  have nested : r.shown name = titleLine name ++ ("\n" ++ (r.createdLine ++ ("\n" ++ (r.idLine ++
      ("\n" ++ ("" ++ ("\n" ++ (r.text ++ "\n")))))))) := by
    rw [pieces, String.empty_append]
    simp only [createdLine, idLine, String.append_assoc]
  rw [nested, toList_lineFeed, toList_lineFeed, toList_lineFeed, toList_lineFeed]
  rfl

theorem lines_shown (whole : '\n' ∉ r.id.toList) (name : String) :
    Document.lines (r.shown name) =
      parts '\n' (titleLine name).toList ++ r.createdLine.toList :: r.idLine.toList :: [] ::
        parts '\n' (r.text ++ "\n").toList := by
  have created : '\n' ∉ r.createdLine.toList := by
    simp [createdLine, Instant.lineFeed_not_mem_minuteText]
  have line : '\n' ∉ r.idLine.toList := by
    simp [idLine, whole]
  rw [Document.lines, toList_shown, Document.parts_above _ _ created line]

theorem lineFeed_mem_titleLine (name : String) :
    '\n' ∈ (titleLine name).toList ↔ '\n' ∈ name.toList := by
  have label : '\n' ∉ "FINANCIAL PLAN - ".toList := by decide
  have pieces : titleLine name = "FINANCIAL PLAN - " ++ name := rfl
  rw [pieces, String.toList_append, List.mem_append]
  exact or_iff_right label

theorem toList_append_ne_nil {label : String} (h : label ≠ "") (s : String) :
    (label ++ s).toList ≠ [] := by
  simp [h]

theorem apart_of_oneLine (whole : '\n' ∉ r.id.toList) (oneLine : '\n' ∉ name.toList) :
    Document.header (r.shown name) = [titleLine name, r.createdLine, r.idLine] ∧
      Document.body (r.shown name) = r.text ++ "\n" := by
  have first : parts '\n' (titleLine name).toList = [(titleLine name).toList] :=
    parts_of_not_mem (mt (lineFeed_mem_titleLine name).1 oneLine)
  have filled : ∀ line ∈ [(titleLine name).toList], line ≠ [] :=
    List.forall_mem_singleton.2 (toList_append_ne_nil (by decide) _)
  have second : r.createdLine.toList ≠ [] := toList_append_ne_nil (by decide) _
  have third : r.idLine.toList ≠ [] := toList_append_ne_nil (by decide) _
  rw [Document.header, Document.body, lines_shown whole, first,
    Document.takeWhile_of_filled filled second third,
    Document.dropWhile_of_filled filled second third]
  simp

/-- A name of several lines makes the header longer, or leaves part of it behind the first empty
line. -/
theorem not_apart_of_lineFeed (whole : '\n' ∉ r.id.toList) (feed : '\n' ∈ name.toList) :
    ¬ ((Document.header (r.shown name)).length = 3 ∧
      Document.body (r.shown name) = r.text ++ "\n") := by
  have many := one_lt_length_parts ((lineFeed_mem_titleLine name).2 feed)
  have second : r.createdLine.toList ≠ [] := toList_append_ne_nil (by decide) _
  have third : r.idLine.toList ≠ [] := toList_append_ne_nil (by decide) _
  rw [Document.header, Document.body, lines_shown whole]
  rintro ⟨three, same⟩
  by_cases empty : [] ∈ parts '\n' (titleLine name).toList
  · have left := String.toList_ofList.symm.trans (congrArg String.toList same)
    have longer := congrArg List.length left
    have shorter := Document.length_lt_of_empty r.createdLine.toList r.idLine.toList
      (parts_ne_nil '\n' (r.text ++ "\n").toList) empty
    rw [joined_parts] at shorter
    exact absurd longer shorter.ne'
  · rw [Document.takeWhile_of_filled (fun line hl none => empty (none ▸ hl)) second third]
      at three
    have one : (parts '\n' (titleLine name).toList).length = 1 := by simpa using three
    omega

/-- Exactly if there is no line feed in the name, there are three lines in front of the first empty
one, and behind that the text of the report and a last line feed. The three lines are those that the
document was made of. -/
theorem header_body_iff (whole : '\n' ∉ r.id.toList) (name : String) :
    ((Document.header (r.shown name)).length = 3 ∧
        Document.body (r.shown name) = r.text ++ "\n" ↔ '\n' ∉ name.toList) ∧
      ('\n' ∉ name.toList →
        Document.header (r.shown name) = [titleLine name, r.createdLine, r.idLine]) := by
  refine ⟨⟨fun apart feed => not_apart_of_lineFeed whole feed apart, fun oneLine => ?_⟩,
    fun oneLine => (apart_of_oneLine whole oneLine).1⟩
  obtain ⟨header, body⟩ := apart_of_oneLine (r := r) whole oneLine
  exact ⟨congrArg List.length header, body⟩

end StoredReport

namespace Service

variable {v : Service} {down : Option String} {q : ReportRequest} {r : StoredReport}

/-- A report that was generated is exported under its id. The document is taken apart into three
lines and the text of the report exactly if the client's name was sent without a line feed, and the
lines are then that of the name, that of the time and that of the id. -/
theorem generated_document_iff (h : (v.generate down q).answer = .ok r) :
    ∃ document, (v.generate down q).service.exportReport (.text r.id) = .ok document ∧
      r.document = .ok document ∧
      ((Document.header document).length = 3 ∧ Document.body document = r.text ++ "\n" ↔
        ∀ name ∈ q.clientData.givenNames, '\n' ∉ name.toList) ∧
      ((∀ name ∈ q.clientData.givenNames, '\n' ∉ name.toList) →
        Document.header document = ["FINANCIAL PLAN - " ++ q.clientData.shownName,
          "Created: " ++ r.createdAt.minuteText, "Report ID: " ++ r.id]) := by
  obtain ⟨data, written, -, same⟩ := answer_generate_eq_ok_iff.1 h
  obtain ⟨-, rfl⟩ := ClientData.write_eq_ok_iff.1 written
  have exported : r.document = .ok (r.shown q.clientData.shownName) :=
    StoredReport.document_of_storedRecord (same ▸ rfl)
  have whole : '\n' ∉ r.id.toList := same ▸ lineFeed_not_mem_reportId v.serial
  have oneLine : '\n' ∉ q.clientData.shownName.toList ↔
      ∀ name ∈ q.clientData.givenNames, '\n' ∉ name.toList := by
    rw [ClientData.lineFeed_mem_shownName]
    simp only [not_exists, not_and]
  obtain ⟨apart, lines⟩ := StoredReport.header_body_iff whole q.clientData.shownName
  refine ⟨_, ?_, exported, apart.trans oneLine, fun sent => lines (oneLine.2 sent)⟩
  rw [exportReport, select_of_generate h]
  exact congrArg (Except.mapError Refusal.document) exported

/-- A request for a report on one strategy, by a client with a first name. -/
def namedRequest (firstName : String) : Payload :=
  .record [("clientData", .record [("firstName", .text firstName), ("lastName", .text "Lovelace")]),
    ("strategyConfigurations", .list [.record [("strategyId", .text "a"),
      ("isEnabled", .boolean true), ("inputValues", .record [("x", .integer 1)])]])]

/-- A name on one line. The text of the report has an empty line in it. -/
theorem generated_document_iff_sample : ∃ q r, ReportRequest.read (namedRequest "Ada") = .valid q ∧
    (sample.generate none q).answer = .ok r ∧ r.text = "ADDITIONAL STRATEGIES\n\n1" ∧
    ∃ document, r.document = .ok document ∧
      Document.header document = ["FINANCIAL PLAN - Ada Lovelace", "Created: 2024-01-01 00:00 UTC",
        "Report ID: 00000001-0000-0000-0000-000000000000"] ∧
      Document.body document = r.text ++ "\n" := by
  have apart {q : ReportRequest} {r : StoredReport} {lines : List String}
      (_ : ReportRequest.read (namedRequest "Ada") = .valid q)
      (h : (sample.generate none q).answer = .ok r)
      (sent : ∀ name ∈ q.clientData.givenNames, '\n' ∉ name.toList)
      (shown : ["FINANCIAL PLAN - " ++ q.clientData.shownName,
        "Created: " ++ r.createdAt.minuteText, "Report ID: " ++ r.id] = lines) :
      ∃ document, r.document = .ok document ∧ Document.header document = lines ∧
        Document.body document = r.text ++ "\n" := by
    obtain ⟨document, -, exported, apart, header⟩ := generated_document_iff h
    exact ⟨document, exported, (header sent).trans shown, (apart.2 sent).2⟩
  refine ⟨_, _, rfl, rfl, by decide, apart rfl rfl ?_ ?_⟩
  · decide +kernel
  · decide +kernel

/-- A name with lines of its own, one of them empty: it makes up a line of the header, and leaves
two of the header's lines in what stands behind it. -/
theorem header_forged : ∃ q r document,
    ReportRequest.read (namedRequest "Ada\nReport ID: 1\n\nCountess") = .valid q ∧
    (sample.generate none q).answer = .ok r ∧ r.document = .ok document ∧
    Document.header document = ["FINANCIAL PLAN - Ada", "Report ID: 1"] ∧
    Document.body document = "Countess Lovelace\nCreated: 2024-01-01 00:00 UTC\n" ++
      "Report ID: 00000001-0000-0000-0000-000000000000\n\n" ++ r.text ++ "\n" := by
  refine ⟨_, _, _, rfl, rfl, rfl, ?_⟩
  decide +kernel

end Service

end PlanCompiler
