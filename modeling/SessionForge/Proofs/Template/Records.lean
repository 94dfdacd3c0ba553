/-
This file settles that what is said of templates is read back as it was written: the entries of a
catalog, the context of a request, the selection of a matcher and the details of a template. Texts
are read back whatever characters they have. A field that is left out, or written as `null`, is one
without a value, and never one with an empty text.

A tree of files is read back if the reader goes deep enough for it (`FileTree.reader_outlineOf`).
Every node takes two levels of nesting, one for itself and one for the list of its children, which
is written even if there are none.
-/

import SessionForge.Proofs.Json.Records
import SessionForge.Template.Details
import SessionForge.Template.Selection

namespace SessionForge

open Json.Shape

/-! ### Entries of a catalog -/

namespace CatalogEntry

theorem reader_outlineOf (entry : CatalogEntry) (levels : Nat) :
    reader (levels + 2) (Json.outlineOf entry.toJson) = .ok entry := by
  have text := Json.text_outlineOf (levels + 1)
  have name := (spells_constant CatalogEntry.mk (levels + 1)).required "name" (by decide)
    (text entry.name)
  have description := name.optional "description" (by decide) entry.description text fun _ => rfl
  have language := description.optional "language" (by decide) entry.language text fun _ => rfl
  have frameworks := language.defaulted "frameworks" (by decide) []
    (Json.list_outlineOf entry.frameworks (Json.text_outlineOf levels))
  exact reader_of_spells frameworks "TemplateCatalogEntry"

theorem allNumbers_toJson {holds : Json.Number → Prop} (entry : CatalogEntry) :
    entry.toJson.AllNumbers holds := by
  refine Json.allNumbers_object ?_
  simp only [List.forall_mem_append, List.forall_mem_cons]
  exact ⟨⟨⟨Json.allNumbers_text entry.name,
    Json.allNumbers_optional Json.allNumbers_text "description" entry.description⟩,
    Json.allNumbers_optional Json.allNumbers_text "language" entry.language⟩,
    Json.allNumbers_array Json.allNumbers_text entry.frameworks, List.forall_mem_nil _⟩

end CatalogEntry

namespace Catalog

theorem reader_outlineOf (catalog : Catalog) (levels : Nat) :
    reader (levels + 3) (Json.outlineOf catalog.toJson) = .ok catalog := by
  unfold reader toJson
  rw [Json.list_outlineOf catalog.entries fun entry => entry.reader_outlineOf levels]
  rfl

theorem allNumbers_toJson {holds : Json.Number → Prop} (catalog : Catalog) :
    catalog.toJson.AllNumbers holds :=
  Json.allNumbers_array CatalogEntry.allNumbers_toJson catalog.entries

end Catalog

/-! ### Requests and selections -/

namespace InferenceContext

theorem reader_outlineOf (context : InferenceContext) (levels : Nat) :
    reader (levels + 2) (Json.outlineOf context.toJson) = .ok context := by
  have text := Json.text_outlineOf (levels + 1)
  have agentId := (spells_constant InferenceContext.mk (levels + 1)).optional "agentId" (by decide)
    context.agentId text fun _ => rfl
  have userId := agentId.optional "userId" (by decide) context.userId text fun _ => rfl
  have model := userId.optional "model" (by decide) context.model text fun _ => rfl
  have metadata := model.defaulted "metadata" (by decide) .empty
    (Json.dictionary_outlineOf context.metadata (Json.text_outlineOf levels))
  exact reader_of_spells metadata "InferenceContext"

theorem allNumbers_toJson {holds : Json.Number → Prop} (context : InferenceContext) :
    context.toJson.AllNumbers holds := by
  refine Json.allNumbers_object ?_
  simp only [List.forall_mem_append, List.forall_mem_cons]
  exact ⟨⟨⟨Json.allNumbers_optional Json.allNumbers_text "agentId" context.agentId,
    Json.allNumbers_optional Json.allNumbers_text "userId" context.userId⟩,
    Json.allNumbers_optional Json.allNumbers_text "model" context.model⟩,
    Json.allNumbers_dictionary Json.allNumbers_text context.metadata, List.forall_mem_nil _⟩

end InferenceContext

theorem Complexity.lookup_name (complexity : Complexity) :
    choices.lookup complexity.name = some complexity := by
  cases complexity <;> decide

namespace TemplateSelection

theorem reader_outlineOf (selection : TemplateSelection) (levels : Nat) :
    reader (levels + 1) (Json.outlineOf selection.toJson) = .ok selection := by
  have text := Json.text_outlineOf levels
  have selectedTemplateName := (spells_constant TemplateSelection.mk levels).defaulted
    "selectedTemplateName" (by decide) none
    (Json.nullable_outlineOf selection.selectedTemplateName text fun _ => rfl)
  have reasoning := selectedTemplateName.optional "reasoning" (by decide) selection.reasoning text
    fun _ => rfl
  have useCase := reasoning.optional "useCase" (by decide) selection.useCase text fun _ => rfl
  have complexity := useCase.optional "complexity" (by decide) selection.complexity
    (fun value => Json.choice_outlineOf value.lookup_name levels) fun _ => rfl
  have styleSelection := complexity.optional "styleSelection" (by decide) selection.styleSelection
    text fun _ => rfl
  have projectName := styleSelection.optional "projectName" (by decide) selection.projectName text
    fun _ => rfl
  exact reader_of_spells projectName "TemplateSelection"

theorem allNumbers_toJson {holds : Json.Number → Prop} (selection : TemplateSelection) :
    selection.toJson.AllNumbers holds := by
  refine Json.allNumbers_object ?_
  have isText : ∀ value, (Json.text value).AllNumbers holds := Json.allNumbers_text
  have optional := Json.allNumbers_optional isText
  have complexity := Json.allNumbers_optional (fun value : Complexity => isText value.name)
    "complexity" selection.complexity
  simp only [List.forall_mem_append, List.forall_mem_cons]
  exact ⟨⟨⟨⟨⟨Json.allNumbers_nullable isText selection.selectedTemplateName,
    optional "reasoning" selection.reasoning⟩, optional "useCase" selection.useCase⟩, complexity⟩,
    optional "styleSelection" selection.styleSelection⟩,
    optional "projectName" selection.projectName⟩

end TemplateSelection

/-! ### Trees of files -/

theorem FileKind.lookup_name (kind : FileKind) : choices.lookup kind.name = some kind := by
  cases kind <;> decide

namespace FileTree

mutual

/-- How many nodes stand one below the other in a tree. -/
def height : FileTree → Nat
  | .node _ _ children => heightOfChildren children + 1

/-- The height of the highest of some trees. -/
def heightOfChildren : List FileTree → Nat
  | [] => 0
  | tree :: rest => max tree.height (heightOfChildren rest)

end

theorem heightOfChildren_le_iff {children : List FileTree} {bound : Nat} :
    heightOfChildren children ≤ bound ↔ ∀ child ∈ children, child.height ≤ bound := by
  induction children with
  | nil => simp [heightOfChildren]
  | cons tree rest inductionHypothesis =>
    rw [heightOfChildren, Nat.max_le, inductionHypothesis, List.forall_mem_cons]

mutual

/-- A tree is read back with two levels of nesting for every node from its root downwards. -/
theorem boundedReader_outlineOf : ∀ (tree : FileTree) {low bound : Nat}, tree.height ≤ low →
    low ≤ bound → boundedReader bound (2 * low) (Json.outlineOf tree.toJson) = .ok tree
  | .node path kind children, 0, _, reaches, _ => nomatch reaches
  | .node path kind children, low + 1, 0, _, bounded => nomatch bounded
  | .node path kind children, low + 1, bound + 1, reaches, bounded => by
    have reachesChildren : heightOfChildren children ≤ low := Nat.le_of_succ_le_succ reaches
    have readChildren : (boundedReader bound).list (2 * low + 1)
        (Json.outlineOf (.array (toJsons children))) = .ok children := by
      rw [Json.outlineOf]
      exact readItems_outlineItems children reachesChildren (Nat.le_of_succ_le_succ bounded)
    have isPath := (spells_constant FileTree.node (2 * low + 1)).required "path" (by decide)
      (Json.text_outlineOf (2 * low + 1) path)
    have isKind := isPath.required "type" (by decide)
      (Json.choice_outlineOf kind.lookup_name (2 * low + 1))
    have areChildren := isKind.defaulted "children" (by decide) [] readChildren
    rw [toJson]
    exact reader_of_spells areChildren "FileTreeNode"

theorem readItems_outlineItems : ∀ (children : List FileTree) {low bound : Nat},
    heightOfChildren children ≤ low → low ≤ bound →
      Json.readItems (boundedReader bound) (2 * low) (Json.outlineItems (toJsons children)) =
        .ok children
  | [], _, _, _, _ => rfl
  | tree :: rest, low, bound, reach, bounded => by
    obtain ⟨reaches, reachRest⟩ := Nat.max_le.1 reach
    have first := boundedReader_outlineOf tree reaches bounded
    have later := readItems_outlineItems rest reachRest bounded
    rw [toJsons, Json.outlineItems, Json.readItems, first]
    simp only [bind, Except.bind, later]
    rfl

end

/-- A tree is read back where two levels are left for every node from its root downwards. -/
theorem reader_outlineOf (tree : FileTree) {low : Nat} (reaches : tree.height ≤ low) :
    reader (2 * low) (Json.outlineOf tree.toJson) = .ok tree :=
  tree.boundedReader_outlineOf reaches (by omega)

mutual

theorem allNumbers_toJson {holds : Json.Number → Prop} :
    ∀ tree : FileTree, tree.toJson.AllNumbers holds
  | .node path kind children => by
    rw [toJson]
    refine Json.allNumbers_object ?_
    simp only [List.forall_mem_cons]
    exact ⟨Json.allNumbers_text path, Json.allNumbers_text kind.name, allNumbers_toJsons children,
      List.forall_mem_nil _⟩

theorem allNumbers_toJsons {holds : Json.Number → Prop} :
    ∀ children : List FileTree, (Json.array (toJsons children)).AllNumbers holds
  | [] => fun _ none => nomatch none
  | tree :: rest => by
    rw [toJsons]
    exact List.forall_mem_append.2 ⟨allNumbers_toJson tree, allNumbers_toJsons rest⟩

end

end FileTree

/-! ### Details -/

namespace TemplateDescription

theorem reader_outlineOf (description : TemplateDescription) (levels : Nat) :
    shape.reader "TemplateDescription" (levels + 1) (Json.outlineOf description.toJson) =
      .ok description := by
  have text := Json.text_outlineOf levels
  have selection := (spells_constant TemplateDescription.mk levels).required "selection"
    (by decide) (text description.selection)
  have usage := selection.required "usage" (by decide) (text description.usage)
  exact reader_of_spells usage "TemplateDescription"

theorem allNumbers_toJson {holds : Json.Number → Prop} (description : TemplateDescription) :
    description.toJson.AllNumbers holds := by
  refine Json.allNumbers_object ?_
  simp only [List.forall_mem_cons]
  exact ⟨Json.allNumbers_text _, Json.allNumbers_text _, List.forall_mem_nil _⟩

end TemplateDescription

namespace TemplateFile

theorem reader_outlineOf (file : TemplateFile) (levels : Nat) :
    shape.reader "TemplateFile" (levels + 1) (Json.outlineOf file.toJson) = .ok file := by
  have text := Json.text_outlineOf levels
  have filePath := (spells_constant TemplateFile.mk levels).required "filePath" (by decide)
    (text file.filePath)
  have fileContents := filePath.required "fileContents" (by decide) (text file.fileContents)
  exact reader_of_spells fileContents "TemplateFile"

theorem allNumbers_toJson {holds : Json.Number → Prop} (file : TemplateFile) :
    file.toJson.AllNumbers holds := by
  refine Json.allNumbers_object ?_
  simp only [List.forall_mem_cons]
  exact ⟨Json.allNumbers_text _, Json.allNumbers_text _, List.forall_mem_nil _⟩

end TemplateFile

namespace TemplateDetails

/-- Details are read back where their tree of files is. -/
theorem reader_outlineOf (details : TemplateDetails) {low : Nat}
    (reaches : details.fileTree.height ≤ low + 1) :
    reader (2 * low + 3) (Json.outlineOf details.toJson) = .ok details := by
  have text := Json.text_outlineOf (2 * low + 2)
  have texts : ∀ items, Json.Reader.text.list (2 * low + 2) (Json.outlineOf (Json.texts items)) =
      .ok items :=
    fun items => Json.list_outlineOf items (Json.text_outlineOf (2 * low + 1))
  have name := (spells_constant TemplateDetails.mk (2 * low + 2)).required "name" (by decide)
    (text details.name)
  have description := name.required "description" (by decide)
    (details.description.reader_outlineOf (2 * low + 1))
  have files := description.required "files" (by decide)
    (Json.list_outlineOf details.files fun file => file.reader_outlineOf (2 * low))
  have fileTree := files.required "fileTree" (by decide) (details.fileTree.reader_outlineOf reaches)
  have language := fileTree.optional "language" (by decide) details.language text fun _ => rfl
  have frameworks := language.required "frameworks" (by decide) (texts details.frameworks)
  have deps := frameworks.required "deps" (by decide)
    (Json.dictionary_outlineOf details.deps (Json.text_outlineOf (2 * low + 1)))
  have dontTouchFiles := deps.required "dontTouchFiles" (by decide) (texts details.dontTouchFiles)
  have redactedFiles := dontTouchFiles.required "redactedFiles" (by decide)
    (texts details.redactedFiles)
  simp only [List.append_assoc, List.cons_append, List.nil_append] at redactedFiles
  exact reader_of_spells redactedFiles "TemplateDetails"

theorem allNumbers_toJson {holds : Json.Number → Prop} (details : TemplateDetails) :
    details.toJson.AllNumbers holds := by
  refine Json.allNumbers_object ?_
  have isText : ∀ value, (Json.text value).AllNumbers holds := Json.allNumbers_text
  have texts := Json.allNumbers_array isText
  simp only [List.cons_append, List.forall_mem_cons, List.forall_mem_append]
  exact ⟨isText details.name, details.description.allNumbers_toJson,
    Json.allNumbers_array TemplateFile.allNumbers_toJson details.files,
    details.fileTree.allNumbers_toJson, Json.allNumbers_optional isText "language" details.language,
    texts details.frameworks, Json.allNumbers_dictionary isText details.deps,
    texts details.dontTouchFiles, texts details.redactedFiles, List.forall_mem_nil _⟩

end TemplateDetails

end SessionForge
