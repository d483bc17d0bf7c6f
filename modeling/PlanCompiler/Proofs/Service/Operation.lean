import PlanCompiler.Proofs.Catalog.Change
import PlanCompiler.Proofs.Catalog.FreshId
import PlanCompiler.Proofs.Service.Generation
import PlanCompiler.Proofs.Strategy.Revision

/-!
# What an operation does to the catalog

The records that strategies are read from are always accepted where a draft or a revision was
(`addUnder_eq`, `update_eq`, `importDrafts_eq`). An import draws its ids one after another
(`ImportedInto`), each of them free as long as the catalog supplies them (`SuppliesIds`).

What an operation makes of the catalog is told once for each: `Adds`, `AddsCustom`, `Revises`,
`RevisesCustom`, `Removes`, `Imports`. An operation makes that in one piece, or fails when there is
nothing for it to make (`Outcome.Whole`, with one lemma for each operation).
-/

namespace PlanCompiler

open Schema

@[simp] theorem Schema.Model.named_eq_ok_iff {α : Type} {model : Model} {x : Checked α} {a : α} :
    model.named x = .ok a ↔ x = .valid a :=
  Checked.named_eq_ok_iff

namespace Service

variable {α β : Type}

@[simp] theorem service_conclude {ε : Type} (v : Service) (x : Except ε α) (refusal : ε → Refusal) :
    (v.conclude x refusal).service = v := by
  cases x <;> rfl

@[simp] theorem checked_ok (v : Service) (a : α) (next : α → Outcome β) :
    v.checked (.ok a) next = next a := rfl

theorem checked_error (v : Service) (rejection : Rejection) (next : α → Outcome β) :
    v.checked (.error rejection) next = v.refuse (.invalid rejection) := rfl

/-! ## Strategies -/

/-- A draft that was accepted is stored under any id. -/
theorem addUnder_eq (v : Service) (id : String) {d : Draft} (h : d.toStrategyBody.IsValid) :
    v.addUnder id d =
      { answer := .ok (d.toStrategy id)
        service := v.withCatalog (v.catalog.insert (d.toStrategy id))
        events := [.added d.title id] } := by
  rw [addUnder, Draft.restored_storedRecord h, checked_ok]
  rfl

/-- A revision that was accepted can be made of every strategy that is there. -/
theorem update_eq (v : Service) {id : String} {p : Payload} {r : Revision} {existing : Strategy}
    (h : Revision.read p = .valid r) (found : v.catalog.get? id = some existing)
    (valid : existing.toStrategyBody.IsValid) :
    v.update id r =
      { answer := .ok (some { r.apply existing with id })
        service := v.withCatalog (v.catalog.insert { r.apply existing with id })
        events := [.updated (r.apply existing).title id] } := by
  rw [update, found]
  simp only [Revision.restored_mergedRecord h valid, checked_ok]

/-- Drafts become strategies one after another, each under an id generated by the catalog that holds
the strategies before it. -/
inductive ImportedInto : Catalog → List Draft → List Strategy → Prop
  | nil {c : Catalog} : ImportedInto c [] []
  | cons {c : Catalog} {d : Draft} {rest : List Draft} {imported : List Strategy} (serial : Nat)
    (later : ImportedInto (c.place (d.toImported (c.freshId importedOrigin d.title serial))) rest
      imported) :
    ImportedInto c (d :: rest) (d.toImported (c.freshId importedOrigin d.title serial) :: imported)

/-- Accepted drafts are imported all of them, each as a strategy that a user wrote. -/
theorem importEach_eq (v : Service) {drafts : List Draft}
    (h : ∀ d ∈ drafts, d.toStrategyBody.IsValid) :
    ∃ next imported, v.importEach drafts =
        { answer := .ok imported
          service :=
            { v with catalog := imported.foldl Catalog.place v.catalog, serial := next } } ∧
      ImportedInto v.catalog drafts imported := by
  induction drafts generalizing v with
  | nil => exact ⟨v.serial, [], rfl, .nil⟩
  | cons d rest ih =>
    obtain ⟨next, imported, hrest, hall⟩ :=
      ih (withCatalog { v with serial := v.catalog.freshSerial importedOrigin d.title v.serial + 1 }
          (v.catalog.place (d.toImported (v.catalog.freshId importedOrigin d.title v.serial))))
        fun e he => h e (List.mem_cons_of_mem _ he)
    refine ⟨next, _ :: imported, ?_, .cons v.serial hall⟩
    rw [importEach, ← Catalog.freshId, Draft.restored_importedRecord (h d List.mem_cons_self),
      checked_ok, hrest]
    rfl

theorem ImportedInto.forall₂ {c : Catalog} {drafts : List Draft} {imported : List Strategy}
    (h : ImportedInto c drafts imported) :
    List.Forall₂ (fun d s => ∃ id, s = d.toImported id) drafts imported := by
  induction h with
  | nil => exact .nil
  | cons serial _ ih => exact .cons ⟨_, rfl⟩ ih

/-- Generated ids are not empty. -/
theorem ImportedInto.filled {c : Catalog} {drafts : List Draft} {imported : List Strategy}
    (h : ImportedInto c drafts imported) : ∀ s ∈ imported, s.id ≠ "" := by
  induction h with
  | nil => intro s hs; cases hs
  | cons serial _ ih =>
    intro s hs
    rcases List.mem_cons.1 hs with rfl | later
    · exact Catalog.generatedId_ne_empty _ _ _
    · exact ih s later

/-- Every draft finds a free id when its turn comes, whatever ids those before it were given. -/
def SuppliesIds : Catalog → List Draft → Prop
  | _, [] => True
  | c, d :: rest => c.HasFreeId importedOrigin d.title ∧
    ∀ serial, SuppliesIds (c.place (d.toImported (c.freshId importedOrigin d.title serial))) rest

/-- No id that is generated for one of the drafts is taken. -/
theorem ImportedInto.nodup_of_supplies {c : Catalog} {drafts : List Draft}
    {imported : List Strategy} (h : ImportedInto c drafts imported) (distinct : c.ids.Nodup)
    (supplied : SuppliesIds c drafts) : (c.ids ++ imported.map (·.id)).Nodup := by
  induction h with
  | nil => rwa [List.map_nil, List.append_nil]
  | @cons c d rest imported serial _ ih =>
    -- The drafts after this one meet a catalog that is larger by its strategy.
    have free : (d.toImported (c.freshId importedOrigin d.title serial)).id ∉ c.ids :=
      Catalog.not_mem_ids_freshId supplied.1 serial
    have later := ih (Entries.nodup_keys_put distinct _ _) (supplied.2 serial)
    rw [Catalog.ids_place free, List.append_assoc] at later
    exact later

/-- While there is room for all of the drafts, there are ids for them. -/
theorem suppliesIds_of_room {c : Catalog} {drafts : List Draft}
    (room : c.size + drafts.length ≤ Catalog.serialBound) : SuppliesIds c drafts := by
  induction drafts generalizing c with
  | nil => trivial
  | cons d rest ih =>
    rw [List.length_cons] at room
    have free := Catalog.hasFreeId_of_room (c := c) (by omega) importedOrigin d.title
    refine ⟨free, fun serial => ih ?_⟩
    have size : (c.place (d.toImported (c.freshId importedOrigin d.title serial))).size =
        c.size + 1 := Catalog.size_place (Catalog.not_mem_ids_freshId free serial)
    omega

theorem forall₂_isValid {drafts : List Draft} {imported : List Strategy}
    (h : ∀ d ∈ drafts, d.toStrategyBody.IsValid)
    (hall : List.Forall₂ (fun d s => ∃ id, s = d.toImported id) drafts imported) :
    ∀ s ∈ imported, s.toStrategyBody.IsValid := by
  intro s hs
  obtain ⟨d, hd, id, rfl⟩ := exists_of_forall₂ hall hs
  have valid := h d hd
  exact ⟨valid.titled, valid.whole, valid.inputFields⟩

/-- An import adds all strategies in one change. -/
theorem importDrafts_into (v : Service) {drafts : List Draft}
    (h : ∀ d ∈ drafts, d.toStrategyBody.IsValid) :
    ∃ next imported, v.importDrafts drafts =
        { answer := .ok imported
          service := { v with catalog := v.catalog.insertAll imported, serial := next }
          events := [.imported imported.length] } ∧
      ImportedInto v.catalog drafts imported := by
  obtain ⟨next, imported, heq, hall⟩ := v.importEach_eq h
  refine ⟨next, imported, ?_, hall⟩
  rw [importDrafts, heq]
  cases imported with
  | nil => rfl
  | cons s rest =>
    rw [Catalog.insertAll_cons]
    rfl

theorem importDrafts_eq (v : Service) {drafts : List Draft}
    (h : ∀ d ∈ drafts, d.toStrategyBody.IsValid) :
    ∃ next imported, v.importDrafts drafts =
        { answer := .ok imported
          service := { v with catalog := v.catalog.insertAll imported, serial := next }
          events := [.imported imported.length] } ∧
      List.Forall₂ (fun d s => ∃ id, s = d.toImported id) drafts imported := by
  obtain ⟨next, imported, heq, hall⟩ := v.importDrafts_into h
  exact ⟨next, imported, heq, hall.forall₂⟩

end Service

/-! ## Whole changes -/

/-- An operation leaves one of the things behind that it can make of the catalog, and does not
report anything as missing; or it fails, since there is nothing that it can make, and leaves
everything as it was but for the serial number. -/
inductive Outcome.Whole {α : Type} (v : Service) (missing : α → Prop)
    (makes : α → Catalog → Prop) (o : Outcome α) : Prop
  | made {a : α} {c : Catalog} {serial : Nat} (answered : o.answer = .ok a) (there : ¬ missing a)
    (made : makes a c) (service : o.service = { v with catalog := c, serial })
  | kept {serial : Nat} (failed : ∀ a, o.answer = .ok a → missing a)
    (unmade : ∀ a c, ¬ makes a c) (service : o.service = { v with serial })

/-- Nothing can be missing. -/
def Outcome.never {α : Type} (_ : α) : Prop := False

namespace Outcome.Whole

variable {α β : Type} {v : Service} {missing : α → Prop} {makes : α → Catalog → Prop}
  {o : Outcome α}

theorem answered {a : α} (gone : missing a) (unmade : ∀ a c, ¬ makes a c) :
    Whole v missing makes (v.answer a) :=
  .kept (fun _ same => Except.ok.inj same ▸ gone) unmade rfl

theorem refused (refusal : Refusal) (unmade : ∀ a c, ¬ makes a c) :
    Whole v missing makes (v.refuse refusal) :=
  .kept nofun unmade rfl

/-- A number that was drawn before counts with the outcome. -/
theorem of_drawn {n : Nat} (h : Whole { v with serial := n } missing makes o) :
    Whole v missing makes o := by
  cases h with
  | made answered there made service => exact .made answered there made service
  | kept failed unmade service => exact .kept failed unmade service

/-- The same outcome with another answer. -/
theorem map {gone : β → Prop} {makes' : β → Catalog → Prop} {f : α → β}
    (h : Whole v missing makes o) (same : ∀ a, gone (f a) ↔ missing a)
    (forth : ∀ a c, makes a c → makes' (f a) c) (back : ∀ b c, makes' b c → ∃ a, makes a c) :
    Whole v gone makes' (o.map f) := by
  cases h with
  | made answered there made service =>
    refine .made ?_ (mt (same _).1 there) (forth _ _ made) service
    rw [Outcome.map, answered]
    rfl
  | kept failed unmade service =>
    refine .kept (fun b answered => ?_) (fun b c made => ?_) service
    · cases answer : o.answer with
      | error refusal =>
        rw [Outcome.map, answer] at answered
        cases answered
      | ok a =>
        rw [Outcome.map, answer] at answered
        exact Except.ok.inj answered ▸ (same a).2 (failed a answer)
    · obtain ⟨a, made⟩ := back b c made
      exact unmade a c made

/-- What is made needs an argument that is accepted. -/
theorem checked {x : Except Rejection β} {next : β → Outcome α}
    (accepted : ∀ b, x = .ok b → Whole v missing makes (next b))
    (read : ∀ a c, makes a c → ∃ b, x = .ok b) : Whole v missing makes (v.checked x next) := by
  cases x with
  | error rejection => exact refused _ fun a c made => nomatch read a c made
  | ok b => exact accepted b rfl

/-- What is made of an argument that is accepted, under another answer. -/
theorem checked_map {γ : Type} {gone : β → Prop} {makes' : β → Catalog → Prop} {f : α → β}
    {x : Except Rejection γ} {next : γ → Outcome α} (makesOf : γ → α → Catalog → Prop)
    (accepted : ∀ b, x = .ok b → Whole v missing (makesOf b) (next b))
    (same : ∀ a, gone (f a) ↔ missing a)
    (forth : ∀ b, x = .ok b → ∀ a c, makesOf b a c → makes' (f a) c)
    (back : ∀ a' c, makes' a' c → ∃ b, x = .ok b ∧ ∃ a, makesOf b a c) :
    Whole v gone makes' (v.checked x fun b => (next b).map f) := by
  refine .checked (fun b read => ?_) fun a' c made => ?_
  · refine (accepted b read).map same (forth b read) fun a' c made => ?_
    obtain ⟨b', read', made⟩ := back a' c made
    obtain rfl := Except.ok.inj (read.symm.trans read')
    exact made
  · obtain ⟨b, read, -⟩ := back a' c made
    exact ⟨b, read⟩

end Outcome.Whole

namespace Service

open Outcome (Whole)

variable {v : Service} {c : Catalog} {id title : String} {content sectionKey : Payload} {d : Draft}
  {drafts : List Draft} {imported : List Strategy} {r : Revision} {s : Strategy}
  {x : Except Rejection Revision}

/-! ### Adding -/

/-- The id of a draft that is added: the one on which it insists if that is not taken, a generated
one if it insists on none. -/
inductive Takes (v : Service) (d : Draft) : String → Prop
  | explicit {id : String} (chosen : explicitId d = some id)
    (free : v.catalog.contains id = false) : Takes v d id
  | generated (none : explicitId d = none) :
    Takes v d (v.catalog.freshId addedOrigin d.title v.serial)

/-- A draft is added. -/
inductive Adds (v : Service) (d : Draft) : Strategy → Catalog → Prop
  | made {id : String} (takes : v.Takes d id) :
    Adds v d (d.toStrategy id) (v.catalog.insert (d.toStrategy id))

/-- A strategy that a user wrote is added. -/
inductive AddsCustom (v : Service) (title : String) (content sectionKey : Payload) :
    Strategy → Catalog → Prop
  | made {body : StrategyBody} {s : Strategy}
    (read : customBody title content sectionKey = .valid body)
    (same : s = { body with id := v.catalog.freshId customOrigin title v.serial }) :
    AddsCustom v title content sectionKey s (v.catalog.insert s)

/-- An empty id does not count as one. -/
theorem ne_empty_of_explicitId (h : explicitId d = some id) : id ≠ "" := by
  rintro rfl
  have := (Option.filter_eq_some_iff.1 h).2
  simp at this

theorem Takes.filled (h : v.Takes d id) : id ≠ "" := by
  cases h with
  | explicit chosen _ => exact ne_empty_of_explicitId chosen
  | generated _ => exact Catalog.generatedId_ne_empty _ _ _

theorem Adds.change (h : v.Adds d s c) (valid : d.toStrategyBody.IsValid) :
    Catalog.Change v.catalog c := by
  obtain ⟨takes⟩ := h
  exact .insert takes.filled valid

theorem whole_add (valid : d.toStrategyBody.IsValid) :
    Whole v Outcome.never (v.Adds d) (v.add d) := by
  rw [add]
  cases explicit : explicitId d with
  | none =>
    refine .of_drawn (n := v.catalog.freshSerial addedOrigin d.title v.serial + 1) ?_
    show Whole _ _ _ (addUnder _ _ _)
    rw [addUnder_eq _ _ valid]
    exact .made rfl not_false (.made (.generated explicit)) rfl
  | some id =>
    show Whole v _ _ (if v.catalog.contains id then _ else _)
    cases taken : v.catalog.contains id with
    | true =>
      refine .refused _ fun s c adds => ?_
      obtain ⟨takes⟩ := adds
      cases takes with
      | explicit chosen free =>
        obtain rfl := Option.some.inj (explicit.symm.trans chosen)
        cases taken.symm.trans free
      | generated none => cases explicit.symm.trans none
    | false =>
      show Whole v _ _ (v.addUnder id d)
      rw [addUnder_eq v id valid]
      exact .made rfl not_false (.made (.explicit explicit taken)) rfl

theorem isValid_of_customBody {b : StrategyBody}
    (h : customBody title content sectionKey = .valid b) : b.IsValid :=
  (StrategyBody.read_eq_valid_iff.1 h).isValid

theorem AddsCustom.change (h : v.AddsCustom title content sectionKey s c) :
    Catalog.Change v.catalog c := by
  obtain ⟨read, rfl⟩ := h
  exact .insert (Catalog.generatedId_ne_empty _ _ _) (isValid_of_customBody read)

theorem whole_addCustom (title : String) (content sectionKey : Payload) :
    Whole v Outcome.never (v.AddsCustom title content sectionKey)
      (v.addCustom title content sectionKey) := by
  refine .of_drawn (.checked (fun body read => ?_) fun s c adds => ?_)
  · exact .made rfl not_false (.made (Model.named_eq_ok_iff.1 read) rfl) rfl
  · obtain ⟨read, -⟩ := adds
    exact ⟨_, Model.named_eq_ok_iff.2 read⟩

/-! ### Revising -/

/-- A strategy gets another text. -/
inductive Revises (v : Service) (id : String) (r : Revision) : Strategy → Catalog → Prop
  | made {existing s : Strategy} (found : v.catalog.get? id = some existing)
    (merged : restored (r.mergedRecord existing id) = .ok s) :
    Revises v id r s (v.catalog.insert s)

/-- A strategy that a user wrote gets another text. -/
inductive RevisesCustom (v : Service) (id : String) (x : Except Rejection Revision) (s : Strategy)
    (c : Catalog) : Prop
  | made {existing : Strategy} {r : Revision} (found : v.custom? id = some existing)
    (read : x = .ok r) (revises : v.Revises id r s c)

/-- The new text is the revision of the strategy that was there. -/
theorem Revises.exists_apply (h : v.Revises id r s c) (wellFormed : v.catalog.WellFormed)
    {p : Payload} (read : Revision.read p = .valid r) :
    ∃ existing, v.catalog.get? id = some existing ∧ s = { r.apply existing with id } ∧
      c = v.catalog.insert s := by
  obtain @⟨existing, s, found, merged⟩ := h
  have valid := wellFormed.isValid_of_get? found
  rw [Revision.restored_mergedRecord read valid] at merged
  exact ⟨existing, found, (Except.ok.inj merged).symm, rfl⟩

theorem Revises.change (h : v.Revises id r s c) (wellFormed : v.catalog.WellFormed) {p : Payload}
    (read : Revision.read p = .valid r) : Catalog.Change v.catalog c := by
  obtain ⟨existing, found, rfl, rfl⟩ := h.exists_apply wellFormed read
  exact .revise found rfl (Revision.isValid_apply read (wellFormed.isValid_of_get? found))

theorem whole_update (id : String) (r : Revision) :
    Whole v (· = none) (fun s? c => ∃ s, s? = some s ∧ v.Revises id r s c) (v.update id r) := by
  rw [update]
  cases found : v.catalog.get? id with
  | none =>
    refine .answered rfl fun _ c made => ?_
    obtain ⟨s, -, there, -⟩ := made
    cases found.symm.trans there
  | some existing =>
    refine .checked (fun s merged => ?_) fun _ c made => ?_
    · exact .made rfl (Option.some_ne_none s) ⟨s, rfl, .made found merged⟩ rfl
    · obtain ⟨s, -, there, merged⟩ := made
      obtain rfl := Option.some.inj (found.symm.trans there)
      exact ⟨s, merged⟩

theorem whole_updateCustom (id : String) (x : Except Rejection Revision) :
    Whole v (· = none) (fun s? c => ∃ s, s? = some s ∧ v.RevisesCustom id x s c)
      (v.updateCustom id x) := by
  rw [updateCustom]
  cases found : v.custom? id with
  | none =>
    refine .answered rfl fun _ c made => ?_
    obtain ⟨s, -, there, -⟩ := made
    cases found.symm.trans there
  | some existing =>
    refine .checked (fun r read => ?_) fun _ c made => ?_
    · have same (s : Strategy) (c : Catalog) :
          v.RevisesCustom id x s c ↔ v.Revises id r s c := by
        refine ⟨fun ⟨_, read', revises⟩ => ?_, .made found read⟩
        obtain rfl := Except.ok.inj (read.symm.trans read')
        exact revises
      simp only [same]
      exact whole_update id r
    · obtain ⟨s, -, -, read, -⟩ := made
      exact ⟨_, read⟩

/-! ### Removing -/

/-- A strategy that a user wrote is deleted. -/
inductive Removes (v : Service) (id : String) : Catalog → Prop
  | made {s : Strategy} (found : v.catalog.get? id = some s) (custom : s.isCustom = true) :
    Removes v id (v.catalog.remove id)

theorem Removes.change (h : v.Removes id c) : Catalog.Change v.catalog c := by
  obtain ⟨found, custom⟩ := h
  exact .remove found custom

theorem whole_delete (id : String) :
    Whole v (· = false) (fun done c => done = true ∧ v.Removes id c) (v.delete id) := by
  rw [delete]
  cases found : v.catalog.get? id with
  | none =>
    refine .answered rfl fun _ c made => ?_
    obtain ⟨-, there, -⟩ := made
    cases found.symm.trans there
  | some s =>
    show Whole v _ _ (if s.isCustom then _ else _)
    cases custom : s.isCustom with
    | true => exact .made rfl Bool.noConfusion ⟨rfl, .made found custom⟩ rfl
    | false =>
      refine .refused _ fun _ c made => ?_
      obtain ⟨-, there, custom'⟩ := made
      obtain rfl := Option.some.inj (found.symm.trans there)
      cases custom.symm.trans custom'

theorem whole_removeCustom (id : String) :
    Whole v (· = false) (fun done c => done = true ∧ v.Removes id c) (v.removeCustom id) := by
  rw [removeCustom]
  cases found : v.custom? id with
  | some _ => exact whole_delete id
  | none =>
    refine .answered rfl fun _ c made => ?_
    obtain ⟨-, there, custom⟩ := made
    rw [custom?, there] at found
    cases found.symm.trans (if_pos custom)

/-! ### Importing -/

/-- Drafts are imported. -/
inductive Imports (v : Service) (drafts : List Draft) : List Strategy → Catalog → Prop
  | made {imported : List Strategy} (into : ImportedInto v.catalog drafts imported) :
    Imports v drafts imported (v.catalog.insertAll imported)

theorem Imports.change (h : v.Imports drafts imported c)
    (valid : ∀ d ∈ drafts, d.toStrategyBody.IsValid) : Catalog.Change v.catalog c := by
  obtain ⟨into⟩ := h
  exact .extend _ into.filled (forall₂_isValid valid into.forall₂)

theorem whole_importDrafts (valid : ∀ d ∈ drafts, d.toStrategyBody.IsValid) :
    Whole v Outcome.never (v.Imports drafts) (v.importDrafts drafts) := by
  obtain ⟨next, imported, heq, into⟩ := v.importDrafts_into valid
  rw [heq]
  exact .made rfl not_false (.made into) rfl

/-! ### The rest -/

theorem whole_saveConfigs (client : String) (configs : List ClientConfig) :
    Whole v Outcome.never
      (fun kept c => kept = v.catalog.known configs ∧ c = v.catalog.storeConfigs client configs)
      (v.saveConfigs client configs) :=
  .made rfl not_false ⟨rfl, rfl⟩ rfl

/-- The built-in strategies that are not there. -/
def unseeded (v : Service) : List Strategy :=
  BuiltIn.all.filter fun s => !v.catalog.contains s.id

theorem change_seed : Catalog.Change v.catalog (v.catalog.insertAll v.unseeded) := by
  refine .extend _ (fun s hs => ?_) fun s hs => ?_
  · exact BuiltIn.id_ne_empty_of_mem s (List.mem_filter.1 hs).1
  · exact BuiltIn.isValid_of_mem s (List.mem_filter.1 hs).1

/-- A report that cannot be stored leaves the client's new list behind. -/
theorem change_generate (down : Option String) (q : ReportRequest) :
    Catalog.Change v.catalog (v.generate down q).service.catalog := by
  rw [catalog_generate]
  split
  · rw [catalogWith]
    split
    · exact .store _ _
    · exact .keep
  · exact .keep

end Service

end PlanCompiler
