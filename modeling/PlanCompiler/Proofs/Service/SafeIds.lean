import PlanCompiler.Proofs.Api.Routing
import PlanCompiler.Proofs.Service.Operation
import PlanCompiler.Proofs.Text.Slug

/-!
# Generated ids in addresses

A generated id is an origin, the slug of a title and eight hexadecimal digits, with single hyphens
between them. So it is a slug itself, whatever the title is: it stands in the path of an address as
it is, and the path leads to the strategy.

* `IsSafeId`: an id of this form, and how it stands in a path;
* `isSafeId_generatedId`: all generated ids are of this form;
* `generated_ids_are_safe`: all titles, and all operations that generate ids.
-/

namespace PlanCompiler

open Schema Text

namespace Service

open Catalog (generatedId serialText serialBound)

/-- The id is made of an origin, the slug of a title and eight hexadecimal digits. Nothing but small
letters, digits and hyphens is in it, it needs no escape in the path of an address, and there it
leads to the strategy that has it. -/
structure IsSafeId (origin title id : String) : Prop where
  form : ∃ digits, id.toList = origin.toList ++ '-' :: (slug title.toList ++ '-' :: digits) ∧
    digits.length = 8 ∧ ∀ c ∈ digits, ('0' ≤ c ∧ c ≤ '9') ∨ ('a' ≤ c ∧ c ≤ 'f')
  letters : ∀ c ∈ id.toList, isSlugChar c = true ∨ c = '-'
  unescaped : percentEncoded id.toList = id.toList
  addressed : Api.dispatch .get (Api.strategyPath id) = .found .getStrategy id

theorem toList_generatedId (origin title : String) (serial : Nat) :
    (generatedId origin title serial).toList =
      origin.toList ++ '-' :: (slug title.toList ++ '-' :: hex 8 (serial % serialBound)) := by
  simp [generatedId, serialText]

/-- No name that the routes have taken has a hyphen in it. -/
theorem isAddressable_of_isSlug {id : String} (h : IsSlug id.toList) (hyphen : '-' ∈ id.toList) :
    Api.IsAddressable id := by
  have taken : ∀ name ∈ Api.takenNames, '-' ∉ name.toList := by decide
  refine ⟨⟨?_, fun slash => ?_⟩, fun mem => taken id mem hyphen⟩
  · rintro rfl
    exact h.ne_nil rfl
  · exact absurd (h.forall_mem '/' slash) (by decide)

theorem isSafeId_generatedId {origin : String} (known : IsSlug origin.toList) (title : String)
    (serial : Nat) : IsSafeId origin title (generatedId origin title serial) := by
  have form := toList_generatedId origin title serial
  have whole : IsSlug (generatedId origin title serial).toList := by
    rw [form]
    exact known.append ((isSlug_slug _).append (isSlug_hex (by decide) _))
  have hyphen : '-' ∈ (generatedId origin title serial).toList := by
    rw [form]
    exact List.mem_append_right _ List.mem_cons_self
  exact {
    form := ⟨_, form, length_hex _ _, forall_mem_hex (by decide) _ _⟩
    letters := whole.forall_mem
    unescaped := percentEncoded_of_isSlug whole
    addressed := Api.dispatch_strategyPath (isAddressable_of_isSlug whole hyphen) }

theorem isSlug_origin : ∀ origin ∈ [addedOrigin, customOrigin, importedOrigin],
    IsSlug origin.toList := by
  have word : ∀ origin ∈ [addedOrigin, customOrigin, importedOrigin],
      origin.toList ≠ [] ∧ origin.toList.all isSlugChar = true := by decide
  exact fun origin mem => ⟨[origin.toList], List.cons_ne_nil _ _,
    List.forall_mem_singleton.2 ((word origin mem).imp_right List.all_eq_true.1), rfl⟩

/-! ## The operations -/

variable {v : Service}

theorem isSafeId_of_add {p : Payload} {d : Draft} (read : Draft.read p = .valid d)
    (unnamed : explicitId d = none) :
    ∃ s, (Command.run v (.add p)).answer = .ok (.strategy s) ∧
      IsSafeId addedOrigin d.title s.id := by
  have added : v.add d =
      addUnder { v with serial := v.catalog.freshSerial addedOrigin d.title v.serial + 1 }
        (generatedId addedOrigin d.title
          (v.catalog.freshSerial addedOrigin d.title v.serial)) d := by
    rw [add, unnamed]
  rw [Command.run, Model.named_eq_ok_iff.2 read, checked_ok, added,
    addUnder_eq _ _ (Draft.isValid_of_read read)]
  exact ⟨_, rfl, isSafeId_generatedId (isSlug_origin _ (by simp)) _ _⟩

theorem isSafeId_of_addCustom {title : String} {content sectionKey : Payload} {body : StrategyBody}
    (read : customBody title content sectionKey = .valid body) :
    ∃ s, (Command.run v (.addCustom title content sectionKey)).answer = .ok (.strategy s) ∧
      IsSafeId customOrigin title s.id := by
  rw [Command.run, addCustom, Model.named_eq_ok_iff.2 read, checked_ok]
  exact ⟨_, rfl, isSafeId_generatedId (isSlug_origin _ (by simp)) _ _⟩

theorem ImportedInto.forall₂_isSafeId {c : Catalog} {drafts : List Draft}
    {imported : List Strategy} (h : ImportedInto c drafts imported) :
    List.Forall₂ (fun (d : Draft) (s : Strategy) => IsSafeId importedOrigin d.title s.id) drafts
      imported := by
  induction h with
  | nil => exact .nil
  | cons serial _ ih =>
    exact .cons (isSafeId_generatedId (isSlug_origin _ (by simp)) _ _) ih

theorem isSafeId_of_importDrafts {payloads : List Payload} {drafts : List Draft}
    (read : Command.readDrafts payloads = .ok drafts) :
    ∃ imported, (Command.run v (.importDrafts payloads)).answer = .ok (.strategies imported) ∧
      List.Forall₂ (fun (d : Draft) (s : Strategy) => IsSafeId importedOrigin d.title s.id) drafts
        imported := by
  obtain ⟨next, imported, made, into⟩ := v.importDrafts_into (Command.isValid_of_readDrafts read)
  rw [Command.run, read, checked_ok, made]
  exact ⟨imported, rfl, into.forall₂_isSafeId⟩

/-- Every title has a slug, which is its own slug. So whatever titles are sent, and whatever is in
the catalog, the ids that the three operations generate can be part of an address as they are. -/
theorem generated_ids_are_safe :
    (∀ title : List Char, IsSlug (slug title) ∧ slug (slug title) = slug title) ∧
    ∀ v : Service,
      (∀ p d, Draft.read p = .valid d → explicitId d = none →
        ∃ s, (Command.run v (.add p)).answer = .ok (.strategy s) ∧
          IsSafeId addedOrigin d.title s.id) ∧
      (∀ title content sectionKey body, customBody title content sectionKey = .valid body →
        ∃ s, (Command.run v (.addCustom title content sectionKey)).answer = .ok (.strategy s) ∧
          IsSafeId customOrigin title s.id) ∧
      ∀ payloads drafts, Command.readDrafts payloads = .ok drafts →
        ∃ imported,
          (Command.run v (.importDrafts payloads)).answer = .ok (.strategies imported) ∧
            List.Forall₂ (fun d s => IsSafeId importedOrigin d.title s.id) drafts imported := by
  refine ⟨fun title => ?_, fun v => ⟨fun p d => isSafeId_of_add,
    fun title content sectionKey body => isSafeId_of_addCustom,
    fun payloads drafts => isSafeId_of_importDrafts⟩⟩
  exact ⟨isSlug_slug title, slug_of_isSlug (isSlug_slug title)⟩

/-- The third word of this title is the sign of a unit, and `k` in small letters. -/
def sampleUnit : Payload :=
  .record [("title", .text "— 273 \u212A / Größe?"), ("content", .text "")]

theorem generated_ids_are_safe_sampleUnit :
    ∃ s, (Command.run {} (.add sampleUnit)).answer = .ok (.strategy s) ∧
      IsSafeId addedOrigin "— 273 \u212A / Größe?" s.id ∧
      (Command.run {} (.add sampleUnit)).service.catalog.ids =
        ["strategy-273-k-gr-e-00000001"] := by
  obtain ⟨s, answer, safe⟩ := (generated_ids_are_safe.2 {}).1 sampleUnit _ rfl rfl
  exact ⟨s, answer, safe, by decide +kernel⟩

end Service

end PlanCompiler
