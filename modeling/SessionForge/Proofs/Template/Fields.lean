/-
What the details of a template stand for in a document. Descriptions, files, nodes of a tree and
the details themselves are records, in either way of writing one.

A node of a tree has its children inside a list, and so every level of a tree takes two levels of
nesting. Where an even number of levels is left, half of it is the height that a tree may have
(`FileTree.reader_means`). Details take one level for themselves, and the limit for documents is
odd, so that nothing is lost: a tree of files that has been read is never too high to be read again
(`TemplateDetails.height_le_of_isTold`).
-/

import SessionForge.Proofs.Json.Members
import SessionForge.Proofs.Template.Records

namespace SessionForge

open Json (Tree Once AtMostOnce)

/-! ### Trees of files -/

namespace FileTree

/-- The names of the fields of a node, in their order. -/
def fieldNames : List String :=
  ["path", "type", "children"]

/-- Named trees tell a node whose children are told in some way. -/
inductive ToldBy (isChild : Tree → FileTree → Prop) (pairs : List (String × Tree)) :
    FileTree → Prop where
  | node {path : String} {kind : FileKind} {children : List FileTree}
      (isPath : Once Tree.IsText (given "path" pairs) path)
      (isKind : Once (Tree.IsChoice FileKind.choices) (given "type" pairs) kind)
      (areChildren : AtMostOnce (Tree.IsListOf isChild) [] (given "children" pairs) children) :
      ToldBy isChild pairs (.node path kind children)

/-- A tree is a certain tree of files, of no more than some height. -/
def IsToldWithin : Nat → Tree → FileTree → Prop
  | 0 => fun _ _ => False
  | height + 1 => Tree.IsRecord fieldNames (ToldBy (IsToldWithin height))

theorem shape_means {child : Json.Reader FileTree} {isChild : Tree → FileTree → Prop}
    {levels : Nat} (means : child.Means levels isChild) :
    (shape child).Means (levels + 1) fieldNames (ToldBy isChild) := by
  have path := (Json.Shape.means_constant (levels + 1) FileTree.node).append
    (Json.Shape.means_required "path" (Json.Reader.text_means (levels + 1))) (by simp)
  have kind := path.append
    (Json.Shape.means_required "type" (Json.Reader.choice_means levels FileKind.choices)) (by simp)
  have children := kind.append
    (Json.Shape.means_defaulted "children" (Json.Reader.list_means means) []) (by simp)
  refine children.of_iff fun {pairs tree} => ⟨?_, ?_⟩
  · rintro ⟨_, children, ⟨_, kind, ⟨_, path, rfl, isPath, rfl⟩, isKind, rfl⟩, areChildren, rfl⟩
    exact .node isPath isKind areChildren
  · rintro ⟨isPath, isKind, areChildren⟩
    exact ⟨_, _, ⟨_, _, ⟨_, _, rfl, isPath, rfl⟩, isKind, rfl⟩, areChildren, rfl⟩

/-- Where no level is left, there is no record. -/
theorem reader_zero_ne_ok {α : Type} (shape : Json.Shape α) (name : String)
    (outline : Json.Outline) (value : α) : shape.reader name 0 outline ≠ .ok value := by
  cases outline with
  | array | object => exact nofun
  | null | boolean | number | text | cut | cutNull | fault =>
    simp only [Json.Shape.reader]
    exact Json.refuse_ne_ok _ _ _

theorem boundedReader_means {height bound : Nat} (fits : height ≤ bound) :
    (boundedReader bound).Means (2 * height) (IsToldWithin height) := by
  induction height generalizing bound with
  | zero =>
    have untold {tree : Tree} {files : FileTree} : ¬ IsToldWithin 0 tree files := id
    intro outline files
    refine iff_of_false (fun isRead => ?_) fun ⟨_, _, told⟩ => untold told
    cases bound with
    | zero => cases isRead
    | succ bound => exact reader_zero_ne_ok _ _ outline files isRead
  | succ height inductionHypothesis =>
    cases bound with
    | zero => exact absurd fits (Nat.not_succ_le_zero height)
    | succ bound =>
      have means := inductionHypothesis (Nat.le_of_succ_le_succ fits)
      exact Json.Shape.reader_means (shape_means means) "FileTreeNode"

theorem reader_means (height : Nat) :
    Json.Reader.Means reader (2 * height) (IsToldWithin height) :=
  boundedReader_means (by omega)

/-- Half the levels that are left bound the height of what is read. -/
theorem height_le_of_isToldWithin : ∀ {bound : Nat} {tree : Tree} {files : FileTree},
    IsToldWithin bound tree files → files.height ≤ bound
  | bound + 1, tree, files, told => by
    obtain ⟨pairs, toldBy⟩ : ∃ pairs, ToldBy (IsToldWithin bound) pairs files := by
      cases told with
      | object named toldBy => exact ⟨_, toldBy⟩
      | array fit toldBy => exact ⟨_, toldBy⟩
    obtain ⟨-, -, areChildren⟩ := toldBy
    refine Nat.succ_le_succ (heightOfChildren_le_iff.2 ?_)
    rcases areChildren with ⟨_, -, items, -, all⟩ | ⟨-, rfl⟩
    · intro child member
      obtain ⟨item, isChild⟩ := Json.forall₂_exists_iff.1 ⟨items, all.flip⟩ child member
      exact height_le_of_isToldWithin isChild
    · exact List.forall_mem_nil _

end FileTree

/-! ### Details -/

namespace TemplateDescription

/-- The names of the fields of a description, in their order. -/
def fieldNames : List String :=
  ["selection", "usage"]

/-- Named trees tell a description: both fields once. -/
structure ToldBy (pairs : List (String × Tree)) (description : TemplateDescription) : Prop where
  selection : Once Tree.IsText (given "selection" pairs) description.selection
  usage : Once Tree.IsText (given "usage" pairs) description.usage

theorem shape_means (levels : Nat) : shape.Means levels fieldNames ToldBy := by
  have text := Json.Reader.text_means levels
  have selection := (Json.Shape.means_constant levels TemplateDescription.mk).append
    (Json.Shape.means_required "selection" text) (by simp)
  have usage := selection.append (Json.Shape.means_required "usage" text) (by simp)
  refine usage.of_iff fun {pairs description} => ⟨?_, ?_⟩
  · rintro ⟨_, usage, ⟨_, selection, rfl, toldSelection, rfl⟩, toldUsage, rfl⟩
    exact ⟨toldSelection, toldUsage⟩
  · rintro ⟨toldSelection, toldUsage⟩
    exact ⟨_, _, ⟨_, _, rfl, toldSelection, rfl⟩, toldUsage, rfl⟩

end TemplateDescription

namespace TemplateFile

/-- The names of the fields of a file, in their order. -/
def fieldNames : List String :=
  ["filePath", "fileContents"]

/-- Named trees tell a file: both fields once. -/
structure ToldBy (pairs : List (String × Tree)) (file : TemplateFile) : Prop where
  filePath : Once Tree.IsText (given "filePath" pairs) file.filePath
  fileContents : Once Tree.IsText (given "fileContents" pairs) file.fileContents

theorem shape_means (levels : Nat) : shape.Means levels fieldNames ToldBy := by
  have text := Json.Reader.text_means levels
  have filePath := (Json.Shape.means_constant levels TemplateFile.mk).append
    (Json.Shape.means_required "filePath" text) (by simp)
  have fileContents := filePath.append (Json.Shape.means_required "fileContents" text) (by simp)
  refine fileContents.of_iff fun {pairs file} => ⟨?_, ?_⟩
  · rintro ⟨_, fileContents, ⟨_, filePath, rfl, toldPath, rfl⟩, toldContents, rfl⟩
    exact ⟨toldPath, toldContents⟩
  · rintro ⟨toldPath, toldContents⟩
    exact ⟨_, _, ⟨_, _, rfl, toldPath, rfl⟩, toldContents, rfl⟩

end TemplateFile

namespace TemplateDetails

/-- The names of the fields of details, in their order. -/
def fieldNames : List String :=
  ["name", "description", "files", "fileTree", "language", "frameworks", "deps", "dontTouchFiles",
    "redactedFiles"]

/-- Named trees tell details, with a tree of files of no more than some height. -/
structure ToldBy (height : Nat) (pairs : List (String × Tree)) (details : TemplateDetails) :
    Prop where
  name : Once Tree.IsText (given "name" pairs) details.name
  description : Once (Tree.IsRecord TemplateDescription.fieldNames TemplateDescription.ToldBy)
    (given "description" pairs) details.description
  files : Once (Tree.IsListOf (Tree.IsRecord TemplateFile.fieldNames TemplateFile.ToldBy))
    (given "files" pairs) details.files
  fileTree : Once (FileTree.IsToldWithin height) (given "fileTree" pairs) details.fileTree
  language : AtMostOnce (Tree.IsOptional Tree.IsText) none (given "language" pairs)
    details.language
  frameworks : Once (Tree.IsListOf Tree.IsText) (given "frameworks" pairs) details.frameworks
  deps : Once (Tree.IsDictionaryOf Tree.IsText) (given "deps" pairs) details.deps
  dontTouchFiles : Once (Tree.IsListOf Tree.IsText) (given "dontTouchFiles" pairs)
    details.dontTouchFiles
  redactedFiles : Once (Tree.IsListOf Tree.IsText) (given "redactedFiles" pairs)
    details.redactedFiles

/-- A tree is certain details, in either way of writing them. -/
def IsTold (height : Nat) : Tree → TemplateDetails → Prop :=
  Tree.IsRecord fieldNames (ToldBy height)

theorem shape_means (height : Nat) :
    shape.Means (2 * height + 2) fieldNames (ToldBy (height + 1)) := by
  have text := Json.Reader.text_means (2 * height + 2)
  have texts := Json.Reader.list_means (Json.Reader.text_means (2 * height + 1))
  have name := (Json.Shape.means_constant (2 * height + 2) TemplateDetails.mk).append
    (Json.Shape.means_required "name" text) (by simp)
  have description := name.append (Json.Shape.means_required "description"
    (Json.Shape.reader_means (TemplateDescription.shape_means (2 * height + 1))
      "TemplateDescription")) (by simp)
  have files := description.append (Json.Shape.means_required "files"
    (Json.Reader.list_means (Json.Shape.reader_means (TemplateFile.shape_means (2 * height))
      "TemplateFile"))) (by simp)
  have fileTree := files.append (Json.Shape.means_required "fileTree"
    (FileTree.reader_means (height + 1))) (by simp)
  have language := fileTree.append (Json.Shape.means_optional "language" text) (by simp)
  have frameworks := language.append (Json.Shape.means_required "frameworks" texts) (by simp)
  have deps := frameworks.append (Json.Shape.means_required "deps"
    (Json.Reader.dictionary_means (Json.Reader.text_means (2 * height + 1)))) (by simp)
  have dontTouchFiles := deps.append (Json.Shape.means_required "dontTouchFiles" texts) (by simp)
  have redactedFiles := dontTouchFiles.append (Json.Shape.means_required "redactedFiles" texts)
    (by simp)
  refine redactedFiles.of_iff fun {pairs details} => ⟨?_, ?_⟩
  · rintro ⟨_, _, ⟨_, _, ⟨_, _, ⟨_, _, ⟨_, _, ⟨_, _, ⟨_, _, ⟨_, _, ⟨_, _, rfl, toldName, rfl⟩,
      toldDescription, rfl⟩, toldFiles, rfl⟩, toldTree, rfl⟩, toldLanguage, rfl⟩, toldFrameworks,
      rfl⟩, toldDeps, rfl⟩, toldUntouched, rfl⟩, toldRedacted, rfl⟩
    exact ⟨toldName, toldDescription, toldFiles, toldTree, toldLanguage, toldFrameworks, toldDeps,
      toldUntouched, toldRedacted⟩
  · rintro ⟨toldName, toldDescription, toldFiles, toldTree, toldLanguage, toldFrameworks, toldDeps,
      toldUntouched, toldRedacted⟩
    exact ⟨_, _, ⟨_, _, ⟨_, _, ⟨_, _, ⟨_, _, ⟨_, _, ⟨_, _, ⟨_, _, ⟨_, _, rfl, toldName, rfl⟩,
      toldDescription, rfl⟩, toldFiles, rfl⟩, toldTree, rfl⟩, toldLanguage, rfl⟩, toldFrameworks,
      rfl⟩, toldDeps, rfl⟩, toldUntouched, rfl⟩, toldRedacted, rfl⟩

theorem reader_means (height : Nat) :
    reader.Means (2 * height + 3) (IsTold (height + 1)) :=
  Json.Shape.reader_means (shape_means height) "TemplateDetails"

theorem height_le_of_isTold {height : Nat} {tree : Tree} {details : TemplateDetails}
    (told : IsTold height tree details) : details.fileTree.height ≤ height := by
  obtain ⟨pairs, toldBy⟩ : ∃ pairs, ToldBy height pairs details := by
    cases told with
    | object named toldBy => exact ⟨_, toldBy⟩
    | array fit toldBy => exact ⟨_, toldBy⟩
  obtain ⟨files, -, toldTree⟩ := toldBy.fileTree
  exact FileTree.height_le_of_isToldWithin toldTree

end TemplateDetails

end SessionForge
