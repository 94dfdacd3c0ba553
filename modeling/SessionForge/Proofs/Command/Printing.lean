/-
This file says what is to be seen of templates in the output of a command: an entry of the catalog
in a line of the listing (`ShowsEntry`), and a resolution in a document (`ShowsResolution`). Both
are said of the printed text, without the functions that print.

A line has two columns and the description behind them. A column is filled up with blanks, and it is
wider than usual where its text is. A document is judged by the grammar of documents: it spells an
object of three members, and what these tell is the sandbox, the details and the selection.
-/

import SessionForge.Command.Run
import SessionForge.Proofs.Json.Indented
import SessionForge.Proofs.Json.PrintedRecords
import SessionForge.Proofs.Written

namespace SessionForge.Surroundings

open Json (Tree treeOf)

/-! ### Lines of the listing -/

/-- A column of some width: a text and blanks behind it, as wide as the text if that is wider. -/
structure FillsColumn (width : Nat) (text column : String) : Prop where
  filled : ∃ blanks, column = text ++ String.ofList (List.replicate blanks ' ')
  length : column.length = max width text.length

/-- A line shows an entry: its name, its language or a dash, and its description, if it has one. -/
def ShowsEntry (line : String) (entry : CatalogEntry) : Prop :=
  ∃ name language, FillsColumn 32 entry.name name ∧
    FillsColumn 12 (entry.language.getD "-") language ∧
    line = name ++ " " ++ language ++ " " ++ entry.description.getD "" ++ "\n"

theorem fillsColumn_padded (width : Nat) (text : String) :
    FillsColumn width text (padded width text) where
  filled := ⟨_, rfl⟩
  length := by
    rw [padded, String.length_append, String.length_ofList, List.length_replicate]
    omega

theorem showsEntry_listing (entry : CatalogEntry) : ShowsEntry (listing entry) entry :=
  ⟨_, _, fillsColumn_padded 32 entry.name, fillsColumn_padded 12 (entry.language.getD "-"), rfl⟩

/-! ### Documents of resolutions -/

/-- A text is the document of a resolution. It has three members: the name of the sandbox, the
details of the template and the selection of the matcher, the latter two as records with the names
of their fields. -/
def ShowsResolution (output : String) (resolution : Resolution) : Prop :=
  ∃ members sandbox details selection,
    (Tree.object members).Spells (Utf8.ofString output) ∧
    Tree.named? members = some [("sandboxSessionId", sandbox), ("templateDetails", details),
      ("selection", selection)] ∧
    sandbox.IsText resolution.sandbox.token ∧
    details.IsPrinted TemplateDetails.fieldNames
      (TemplateDetails.ToldBy resolution.details.fileTree.height) resolution.details ∧
    selection.IsPrinted TemplateSelection.fieldNames TemplateSelection.ToldBy resolution.selection

theorem isPrinted_details (details : TemplateDetails) :
    (treeOf details.toJson).IsPrinted TemplateDetails.fieldNames
      (TemplateDetails.ToldBy details.fileTree.height) details := by
  obtain ⟨low, isHeight⟩ : ∃ low, details.fileTree.height = low + 1 := by
    cases details.fileTree with
    | node path kind children =>
      exact ⟨FileTree.heightOfChildren children, by rw [FileTree.height]⟩
  rw [isHeight]
  refine Json.isPrinted_treeOf (TemplateDetails.reader_means low)
    (details.reader_outlineOf (Nat.le_of_eq isHeight)) details.allNumbers_toJson ?_
  have language := Json.names_optional_sublist "language" (details.language.map .text)
  rw [List.map_append]
  exact ((List.Sublist.refl ["name", "description", "files", "fileTree"]).append language).append
    (List.Sublist.refl ["frameworks", "deps", "dontTouchFiles", "redactedFiles"])

theorem isPrinted_selection (selection : TemplateSelection) :
    (treeOf selection.toJson).IsPrinted TemplateSelection.fieldNames TemplateSelection.ToldBy
      selection := by
  refine Json.isPrinted_treeOf (TemplateSelection.reader_means 1)
    (selection.reader_outlineOf 2) selection.allNumbers_toJson ?_
  have optional := Json.names_optional_sublist
  have names : TemplateSelection.fieldNames = ["selectedTemplateName"] ++ ["reasoning"]
      ++ ["useCase"] ++ ["complexity"] ++ ["styleSelection"] ++ ["projectName"] := rfl
  simp only [names, List.map_append]
  refine List.Sublist.append ?_ (optional "projectName" _)
  refine List.Sublist.append ?_ (optional "styleSelection" _)
  refine List.Sublist.append ?_ (optional "complexity" _)
  refine List.Sublist.append ?_ (optional "useCase" _)
  exact (List.Sublist.refl ["selectedTemplateName"]).append (optional "reasoning" _)

theorem showsResolution_document (resolution : Resolution) :
    ShowsResolution (document resolution.toJson) resolution := by
  have fits : resolution.toJson.AllNumbers Json.Number.Fits := by
    refine Json.allNumbers_object ?_
    simp only [List.forall_mem_cons]
    exact ⟨Json.allNumbers_text _, resolution.details.allNumbers_toJson,
      resolution.selection.allNumbers_toJson, List.forall_mem_nil _⟩
  exact ⟨_, _, _, _, Json.spells_pretty fits (.blank (by decide) (.none [])),
    Json.named?_treeMembers _, Json.isText_treeOf _, isPrinted_details _, isPrinted_selection _⟩

end SessionForge.Surroundings
