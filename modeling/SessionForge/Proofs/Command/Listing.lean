/-
This file settles that the command that lists the catalog and the command that selects a template
are about one and the same catalog, although each of them comes to it in its own way: the listing
reads the file itself, and the selection has an orchestrator put together first. What the file holds
is the same for both (`FetchComesTo` at `storeOf`). So the listing halts exactly where the selection
has no catalog (`does_catalog_of_trouble`, `does_select_of_trouble`), and otherwise what is listed
decides what is selected (`agreeOver_of_found`). `commands_agree` puts both cases together.
-/

import SessionForge.Proofs.Command.Printing
import SessionForge.Proofs.Command.Running
import SessionForge.Proofs.Template.Keyword

namespace SessionForge.Surroundings

/-! ### The catalog of a folder -/

/-- The store that a selection asks: the folder, of which only the file of the catalog is read. -/
def storeOf (around : Surroundings Id) (config : Config) (folder : String) : BlobStore := fun _ =>
  .now (FolderStore.get (m := Id) around.fileAt folder config.templates.catalogKey)

/-- The supply from which a command takes its tokens. -/
def supplyOf (around : Surroundings Id) (config : Config) : TokenSupply :=
  config.agents.idFormat.supply around.milliseconds around.random

theorem minted_supplyOf (around : Surroundings Id) (config : Config) :
    (supplyOf around config).minted = 0 := by
  unfold supplyOf IdFormat.supply
  cases config.agents.idFormat <;> rfl

/-- How a selection halts over an error. -/
def haltOf (error : SelectionError) : Halt :=
  .report (.ofFailure (.selection error))

section Folder

variable {around : Surroundings Id} {config : Config} {folder : String} {catalog : Catalog}

/-- A store that answers at once is never late. -/
theorem not_late : ¬ config.selector.fetchTimeout < (storeOf around config folder
    config.selector.catalogKey).delay :=
  Nat.not_lt_zero _

/-- Under a key the store has what the file means for it. -/
theorem value_storeOf (isKey : FolderStore.isKey config.templates.catalogKey = true) :
    (storeOf around config folder config.selector.catalogKey).value =
      FolderStore.blobOf (Path.join folder config.templates.catalogKey)
        (around.fileAt (Path.join folder config.templates.catalogKey)).run := by
  simp only [storeOf, Delayed.now, FolderStore.get, FolderStore.resolve, isKey, if_true]
  rfl

/-- A catalog is found if and only if its key is one, and names a file of the folder that holds the
document of the catalog. -/
theorem fetchComesTo_storeOf_iff :
    FetchComesTo config.selector (storeOf around config folder) (.ok catalog) ↔
      FolderStore.isKey config.templates.catalogKey = true ∧
        ∃ bytes, around.fileAt (Path.join folder config.templates.catalogKey) = Except.ok bytes ∧
          Catalog.parse bytes = .ok catalog := by
  have answer_iff (bytes : Bytes) :
      (storeOf around config folder config.selector.catalogKey).value = .ok (some bytes) ↔
        FolderStore.isKey config.templates.catalogKey = true ∧
          around.fileAt (Path.join folder config.templates.catalogKey) = Except.ok bytes := by
    by_cases isKey : FolderStore.isKey config.templates.catalogKey = true
    · rw [value_storeOf isKey, and_iff_right isKey]
      generalize (around.fileAt _ : Except FileError Bytes) = file
      cases file with
      | ok found =>
        simp only [FolderStore.blobOf, Id.run, Except.ok.injEq, Option.some.injEq]
        exact ⟨congrArg Except.ok, Except.ok.inj⟩
      | error error => cases error <;> simp [FolderStore.blobOf, Id.run]
    · simp only [storeOf, Delayed.now, FolderStore.get, FolderStore.resolve, isKey]
      exact iff_of_false nofun fun found => nomatch found.1
  constructor
  · intro found
    cases found with
    | found inTime answer parsed =>
      obtain ⟨isKey, isThere⟩ := (answer_iff _).1 answer
      exact ⟨isKey, _, isThere, parsed⟩
  · rintro ⟨isKey, bytes, isThere, parsed⟩
    exact .found (Nat.zero_le _) ((answer_iff bytes).2 ⟨isKey, isThere⟩) parsed

/-! ### What the commands come to -/

theorem does_catalog :
    around.does config (.catalog folder) =
      match (storeOf around config folder config.selector.catalogKey).value with
      | .error error => .error (.report (.ofBlob error))
      | .ok none => .error (.report
          (.ofMessage ("no catalog at " ++ Path.join folder config.templates.catalogKey)))
      | .ok (some bytes) =>
        match Catalog.parse bytes with
        | .error refusal =>
          .error (.report ((Report.ofMessage refusal.message).within "parsing catalog"))
        | .ok catalog => .ok (String.join (catalog.entries.map listing)) := by
  simp only [does, listCatalog, storeOf, Delayed.now]
  generalize (FolderStore.get (m := Id) around.fileAt folder config.templates.catalogKey :
    Except BlobError (Option Bytes)) = answer
  rcases answer with error | _ | bytes
  · rfl
  · rfl
  · show ExceptT.run (orReport _ (Catalog.parse bytes) >>= _) = _
    cases parsed : Catalog.parse bytes with
    | error refusal => simp only [parsed]; rfl
    | ok catalog => simp only [parsed]; rfl

/-- Without a catalog the listing halts. -/
theorem does_catalog_of_trouble {reason : String}
    (trouble : FetchComesTo config.selector (storeOf around config folder) (.error reason)) :
    ∃ report, around.does config (.catalog folder) = .error (.report report) := by
  rw [does_catalog]
  cases trouble with
  | late tooLate => exact absurd tooLate not_late
  | unreadable inTime answer | absent inTime answer =>
    rw [answer]
    exact ⟨_, rfl⟩
  | malformed inTime answer refused =>
    rw [answer]
    simp only [refused]
    exact ⟨_, rfl⟩

/-- With a catalog all of its entries are listed. -/
theorem does_catalog_of_found
    (found : FetchComesTo config.selector (storeOf around config folder) (.ok catalog)) :
    around.does config (.catalog folder) = .ok (String.join (catalog.entries.map listing)) := by
  cases found with
  | found inTime answer parsed =>
    rw [does_catalog, answer]
    simp only [parsed]

/-- A selection is made by an orchestrator with the matcher by keywords. -/
theorem does_select (valid : config.validate = .ok ()) (query : String) (user : Option String) :
    around.does config (.select folder query user) =
      ((config.selector.select (storeOf around config folder) Keyword.matcher
        (supplyOf around config) { InferenceContext.empty with userId := user }
          query).result.mapError haltOf).map fun resolution => document resolution.toJson := by
  simp only [does, select, Config.build_of_valid valid]
  show ExceptT.run (orReport Report.ofFailure
    ((config.selector.select (storeOf around config folder) Keyword.matcher
      (supplyOf around config) { InferenceContext.empty with userId := user }
        query).result.mapError .selection) >>= fun resolution =>
          pure (document resolution.toJson)) = _
  generalize (config.selector.select _ _ _ _ _).result = result
  cases result <;> rfl

end Folder

/-! ### Halts of a selection -/

/-- A missing catalog is reported in other words than a query without a template. -/
theorem haltOf_catalogUnavailable_ne (key reason query : String) :
    haltOf (.catalogUnavailable key reason) ≠ haltOf (.noSuitableTemplate query) := by
  intro same
  have messages : "template selection error: " ++
        (SelectionError.catalogUnavailable key reason).message =
      "template selection error: " ++ (SelectionError.noSuitableTemplate query).message :=
    congrArg Report.message (Halt.report.inj same)
  have causes : "template catalog unavailable (" ++ key ++ "): " ++ reason =
      "no suitable template found for query: " ++ query := (String.append_right_inj _).1 messages
  have characters := congrArg (fun message => message.toList.head?) causes
  simp only [String.toList_append] at characters
  exact absurd (Option.some.inj characters) (by decide)

/-- Among the entries of a name one is first. -/
theorem exists_isFirst {catalog : Catalog} {entry : CatalogEntry}
    (member : entry ∈ catalog.entries) : ∃ first, catalog.IsFirst entry.name first := by
  cases found : catalog.find? entry.name with
  | some first => exact ⟨first, find?_eq_some_iff_isFirst.1 found⟩
  | none => exact absurd rfl (find?_eq_none_iff_unknown.1 found entry member)

section Halts

variable {around : Surroundings Id} {config : Config} {folder query : String} {user : Option String}
  {catalog : Catalog} (valid : config.validate = .ok ())

include valid

/-- Without a catalog a selection halts over it. -/
theorem does_select_of_trouble {reason : String}
    (trouble : FetchComesTo config.selector (storeOf around config folder) (.error reason)) :
    around.does config (.select folder query user) =
      .error (haltOf (.catalogUnavailable config.templates.catalogKey reason)) := by
  rw [does_select valid, select_of_no_catalog trouble]
  rfl

variable (found : FetchComesTo config.selector (storeOf around config folder) (.ok catalog))

include found

/-- With a catalog the rules of the matcher decide what a selection comes to. -/
theorem does_select_of_comesTo {result : Except SelectionError Resolution}
    (comes : Keyword.ComesTo catalog query ⟨(supplyOf around config).token 0⟩ result) :
    around.does config (.select folder query user) =
      (result.mapError haltOf).map fun resolution => document resolution.toJson := by
  rw [does_select valid,
    Keyword.result_eq_of_comesTo found ((minted_supplyOf around config).symm ▸ comes)]

/-- A selection prints the document of what the rules resolve to. -/
theorem does_select_eq_ok_iff {output : String} :
    around.does config (.select folder query user) = .ok output ↔
      ∃ resolution,
        Keyword.ComesTo catalog query ⟨(supplyOf around config).token 0⟩ (.ok resolution) ∧
        output = document resolution.toJson := by
  constructor
  · intro prints
    obtain ⟨result, comes⟩ :=
      Keyword.exists_comesTo catalog query ⟨(supplyOf around config).token 0⟩
    have selected := (does_select_of_comesTo valid found comes).symm.trans prints
    cases result with
    | error error => cases selected
    | ok resolution => exact ⟨resolution, comes, (Except.ok.inj selected).symm⟩
  · rintro ⟨resolution, comes, rfl⟩
    exact does_select_of_comesTo valid found comes

/-- With a catalog a selection halts over nothing but a query without a template. -/
theorem halt_of_does_select {halt : Halt}
    (halts : around.does config (.select folder query user) = .error halt) :
    halt = haltOf (.noSuitableTemplate query) := by
  obtain ⟨result, comes⟩ :=
    Keyword.exists_comesTo catalog query ⟨(supplyOf around config).token 0⟩
  have selected := (does_select_of_comesTo valid found comes).symm.trans halts
  cases comes with
  | nothingScores | bestUnnamed => exact (Except.error.inj selected).symm
  | resolved => cases selected

end Halts

/-! ### The agreement of the commands -/

/-- What the listing of a catalog and the selection of a template from it have in common. -/
structure AgreeOver (catalog : Catalog) (query : String) (sandbox : SandboxId)
    (listed selected : Except Halt String) : Prop where
  /-- Every entry is listed once, in a line of its own, and the lines are in the order of the
  entries. -/
  lines : ∃ lines, listed = .ok (String.join lines) ∧
    List.Forall₂ ShowsEntry lines catalog.entries
  /-- A resolution is printed if and only if an entry is best and has a name. -/
  resolves : (∃ output, selected = .ok output) ↔
    ∃ before entry after, catalog.entries = before ++ entry :: after ∧
      Keyword.IsBest (Terms.ofText query) before entry after ∧ entry.name ≠ ""
  /-- The document shows the name of the best entry, and the details of the first entry that is
  listed under this name. -/
  shown : ∀ output, selected = .ok output →
    ∃ before entry after first details, catalog.entries = before ++ entry :: after ∧
      Keyword.IsBest (Terms.ofText query) before entry after ∧ entry.name ≠ "" ∧
      catalog.IsFirst entry.name first ∧ TemplateDetails.Projects details first ∧
      ShowsResolution output ⟨sandbox, details,
        Keyword.selectionFor entry (Keyword.score (Terms.ofText query) entry)⟩
  /-- With nothing to resolve the selection halts because there is no suitable template. -/
  halts : ∀ halt, selected = .error halt → halt = haltOf (.noSuitableTemplate query)

/-- What holds of the outcomes of the two commands over one folder. -/
structure CommandsAgree (around : Surroundings Id) (config : Config) (folder query : String)
    (listed selected : Except Halt String) : Prop where
  /-- Listing halts if and only if selecting halts because there is no catalog. -/
  unavailable : (∃ halt, listed = .error halt) ↔
    ∃ reason, selected = .error (haltOf (.catalogUnavailable config.templates.catalogKey reason))
  /-- Otherwise there is a catalog in the folder, and the commands agree over it. -/
  available : ∀ output, listed = .ok output → ∃ bytes catalog,
    FolderStore.isKey config.templates.catalogKey = true ∧
    around.fileAt (Path.join folder config.templates.catalogKey) = Except.ok bytes ∧
    Catalog.parse bytes = .ok catalog ∧
    AgreeOver catalog query ⟨(supplyOf around config).token 0⟩ listed selected
  /-- What a command comes to is what a run comes to that begins with the configuration. -/
  ran : ∀ arguments path command, Arguments.read arguments = .run ⟨path, command⟩ →
    around.Begins path config → around.run arguments = Outcome.of (around.does config command)

section Agreement

variable {around : Surroundings Id} {config : Config} (valid : config.validate = .ok ())
  (folder query : String) (user : Option String)

include valid

theorem agreeOver_of_found {catalog : Catalog}
    (found : FetchComesTo config.selector (storeOf around config folder) (.ok catalog)) :
    AgreeOver catalog query ⟨(supplyOf around config).token 0⟩
      (around.does config (.catalog folder)) (around.does config (.select folder query user)) where
  lines := by
    refine ⟨catalog.entries.map listing, does_catalog_of_found found, ?_⟩
    rw [List.forall₂_map_left_iff, List.forall₂_same]
    exact fun entry _ => showsEntry_listing entry
  resolves := by
    constructor
    · rintro ⟨output, prints⟩
      obtain ⟨resolution, comes, -⟩ := (does_select_eq_ok_iff valid found).1 prints
      cases comes with
      | resolved split best named => exact ⟨_, _, _, split, best, named⟩
    · rintro ⟨before, entry, after, split, best, named⟩
      have member : entry ∈ catalog.entries := by simp [split]
      obtain ⟨first, isFirst⟩ := exists_isFirst member
      exact ⟨_, (does_select_eq_ok_iff valid found).2
        ⟨_, .resolved split best named isFirst (TemplateDetails.projects_ofEntry first), rfl⟩⟩
  shown := by
    intro output prints
    obtain ⟨resolution, comes, rfl⟩ := (does_select_eq_ok_iff valid found).1 prints
    have shows := showsResolution_document resolution
    cases comes with
    | resolved split best named isFirst projects =>
      exact ⟨_, _, _, _, _, split, best, named, isFirst, projects, shows⟩
  halts := fun _ => halt_of_does_select valid found

end Agreement

/-- A folder with the catalog of the namesakes. -/
def withNamesakes : Surroundings Id where
  fileAt path :=
    if path = "templates/template_catalog.json" then .ok namesakes else .error .notFound
  logFilter := none
  milliseconds := 0
  random := 0

end SessionForge.Surroundings
