/-
This file settles how records may be written so that they are read as what they are: the selection
of a matcher, the context of a request, the details of a template with its tree of files, the marker
of a run and the report of an error (`read_eq_ok_iff_written`). A record is written in one of two
ways, and so is every record inside it, whatever the one around it is written like; members that are
no fields of a record may be of any shape, and nested without limit.

The writing of a value goes through the value from the outside to the inside, and hands on how many
levels of nesting are left. A tree of files takes two levels for every node from its root downwards,
and so its writing is compared with what a tree is told by height by height.
-/

import SessionForge.Proofs.Instant.RoundTrip
import SessionForge.Proofs.Json.Writing
import SessionForge.Proofs.Session.Fields
import SessionForge.Proofs.Template.Fields

namespace SessionForge

open Json (Tree Once AtMostOnce Writing Field)

/-! ### Selections -/

namespace Complexity

theorem named_of_mem_choices : ∀ choice ∈ choices, choice.1 = name choice.2 := by
  decide

end Complexity

namespace TemplateSelection

/-- The names of the fields of a selection, in their order. -/
def fieldNames : List String :=
  ["selectedTemplateName", "reasoning", "useCase", "complexity", "styleSelection", "projectName"]

/-- Named trees tell a selection: every field at most once. -/
structure ToldBy (pairs : List (String × Tree)) (selection : TemplateSelection) : Prop where
  selectedTemplateName : AtMostOnce (Tree.IsOptional Tree.IsText) none
    (given "selectedTemplateName" pairs) selection.selectedTemplateName
  reasoning : AtMostOnce (Tree.IsOptional Tree.IsText) none (given "reasoning" pairs)
    selection.reasoning
  useCase : AtMostOnce (Tree.IsOptional Tree.IsText) none (given "useCase" pairs) selection.useCase
  complexity : AtMostOnce (Tree.IsOptional (Tree.IsChoice Complexity.choices)) none
    (given "complexity" pairs) selection.complexity
  styleSelection : AtMostOnce (Tree.IsOptional Tree.IsText) none (given "styleSelection" pairs)
    selection.styleSelection
  projectName : AtMostOnce (Tree.IsOptional Tree.IsText) none (given "projectName" pairs)
    selection.projectName

/-- A tree is a certain selection, in either way of writing one. -/
def IsTold : Tree → TemplateSelection → Prop :=
  Tree.IsRecord fieldNames ToldBy

theorem shape_means (levels : Nat) : shape.Means (levels + 1) fieldNames ToldBy := by
  have text := Json.Reader.text_means (levels + 1)
  have selectedTemplateName :=
    (Json.Shape.means_constant (levels + 1) TemplateSelection.mk).append
      (Json.Shape.means_optional "selectedTemplateName" text) (by simp)
  have reasoning := selectedTemplateName.append (Json.Shape.means_optional "reasoning" text)
    (by simp)
  have useCase := reasoning.append (Json.Shape.means_optional "useCase" text) (by simp)
  have complexity := useCase.append (Json.Shape.means_optional "complexity"
    (Json.Reader.choice_means levels Complexity.choices)) (by simp)
  have styleSelection := complexity.append (Json.Shape.means_optional "styleSelection" text)
    (by simp)
  have projectName := styleSelection.append (Json.Shape.means_optional "projectName" text)
    (by simp)
  refine projectName.of_iff fun {pairs selection} => ⟨?_, ?_⟩
  · rintro ⟨_, _, ⟨_, _, ⟨_, _, ⟨_, _, ⟨_, _, ⟨_, _, rfl, toldName, rfl⟩, toldReasoning, rfl⟩,
      toldUse, rfl⟩, toldComplexity, rfl⟩, toldStyle, rfl⟩, toldProject, rfl⟩
    exact ⟨toldName, toldReasoning, toldUse, toldComplexity, toldStyle, toldProject⟩
  · rintro ⟨toldName, toldReasoning, toldUse, toldComplexity, toldStyle, toldProject⟩
    exact ⟨_, _, ⟨_, _, ⟨_, _, ⟨_, _, ⟨_, _, ⟨_, _, rfl, toldName, rfl⟩, toldReasoning, rfl⟩,
      toldUse, rfl⟩, toldComplexity, rfl⟩, toldStyle, rfl⟩, toldProject, rfl⟩

theorem reader_means (levels : Nat) : reader.Means (levels + 2) IsTold :=
  Json.Shape.reader_means (shape_means levels) "TemplateSelection"

/-- The ways in which a selection may be written. -/
def writing (selection : TemplateSelection) : Writing :=
  .record
    [.optional "selectedTemplateName" (selection.selectedTemplateName.map .text),
      .optional "reasoning" (selection.reasoning.map .text),
      .optional "useCase" (selection.useCase.map .text),
      .optional "complexity" (selection.complexity.map fun complexity => .choice complexity.name),
      .optional "styleSelection" (selection.styleSelection.map .text),
      .optional "projectName" (selection.projectName.map .text)]

theorem writing_iff (levels : Nat) (selection : TemplateSelection) (tree : Tree) :
    selection.writing (levels + 2) tree ↔ IsTold tree selection := by
  refine Writing.record_iff (show fieldNames.Nodup by decide) rfl ?_ tree
  intro pairs
  simp only [List.forall_mem_cons, Field.optional_name,
    Field.optional_isGivenBy_iff Writing.text_iff, Field.optional_isGivenBy_iff
      (Writing.choice_iff Complexity.lookup_name Complexity.named_of_mem_choices)]
  constructor
  · rintro ⟨name, reasoning, useCase, complexity, style, project, -⟩
    exact ⟨name, reasoning, useCase, complexity, style, project⟩
  · rintro ⟨name, reasoning, useCase, complexity, style, project⟩
    exact ⟨name, reasoning, useCase, complexity, style, project, List.forall_mem_nil _⟩

end TemplateSelection

/-! ### Contexts of requests -/

namespace InferenceContext

/-- The names of the fields of a context, in their order. -/
def fieldNames : List String :=
  ["agentId", "userId", "model", "metadata"]

/-- Named trees tell a context: every field at most once. -/
structure ToldBy (pairs : List (String × Tree)) (context : InferenceContext) : Prop where
  agentId : AtMostOnce (Tree.IsOptional Tree.IsText) none (given "agentId" pairs) context.agentId
  userId : AtMostOnce (Tree.IsOptional Tree.IsText) none (given "userId" pairs) context.userId
  model : AtMostOnce (Tree.IsOptional Tree.IsText) none (given "model" pairs) context.model
  metadata : AtMostOnce (Tree.IsDictionaryOf Tree.IsText) .empty (given "metadata" pairs)
    context.metadata

/-- A tree is a certain context, in either way of writing one. -/
def IsTold : Tree → InferenceContext → Prop :=
  Tree.IsRecord fieldNames ToldBy

theorem shape_means (levels : Nat) : shape.Means (levels + 1) fieldNames ToldBy := by
  have text := Json.Reader.text_means (levels + 1)
  have agentId := (Json.Shape.means_constant (levels + 1) InferenceContext.mk).append
    (Json.Shape.means_optional "agentId" text) (by simp)
  have userId := agentId.append (Json.Shape.means_optional "userId" text) (by simp)
  have model := userId.append (Json.Shape.means_optional "model" text) (by simp)
  have metadata := model.append (Json.Shape.means_defaulted "metadata"
    (Json.Reader.dictionary_means (Json.Reader.text_means levels)) .empty) (by simp)
  refine metadata.of_iff fun {pairs context} => ⟨?_, ?_⟩
  · rintro ⟨_, _, ⟨_, _, ⟨_, _, ⟨_, _, rfl, toldAgent, rfl⟩, toldUser, rfl⟩, toldModel, rfl⟩,
      toldMetadata, rfl⟩
    exact ⟨toldAgent, toldUser, toldModel, toldMetadata⟩
  · rintro ⟨toldAgent, toldUser, toldModel, toldMetadata⟩
    exact ⟨_, _, ⟨_, _, ⟨_, _, ⟨_, _, rfl, toldAgent, rfl⟩, toldUser, rfl⟩, toldModel, rfl⟩,
      toldMetadata, rfl⟩

theorem reader_means (levels : Nat) : reader.Means (levels + 2) IsTold :=
  Json.Shape.reader_means (shape_means levels) "InferenceContext"

/-- The ways in which a context may be written. -/
def writing (context : InferenceContext) : Writing :=
  .record
    [.optional "agentId" (context.agentId.map .text),
      .optional "userId" (context.userId.map .text),
      .optional "model" (context.model.map .text),
      .defaulted "metadata" (.dictionary context.metadata) (context.metadata = .empty)]

theorem writing_iff (levels : Nat) (context : InferenceContext) (tree : Tree) :
    context.writing (levels + 2) tree ↔ IsTold tree context := by
  refine Writing.record_iff (show fieldNames.Nodup by decide) rfl ?_ tree
  intro pairs
  simp only [List.forall_mem_cons, Field.optional_name, Field.defaulted_name,
    Field.optional_isGivenBy_iff Writing.text_iff,
    Field.defaulted_isGivenBy_iff Writing.dictionary_iff]
  constructor
  · rintro ⟨agentId, userId, model, metadata, -⟩
    exact ⟨agentId, userId, model, metadata⟩
  · rintro ⟨agentId, userId, model, metadata⟩
    exact ⟨agentId, userId, model, metadata, List.forall_mem_nil _⟩

end InferenceContext

/-! ### Details of templates -/

theorem FileKind.named_of_mem_choices :
    ∀ choice ∈ FileKind.choices, choice.1 = FileKind.name choice.2 := by
  decide

namespace FileTree

mutual

/-- The ways in which a tree of files may be written. -/
def writing : FileTree → Writing
  | .node path kind children =>
    .record
      [.required "path" (.text path), .required "type" (.choice kind.name),
        .defaulted "children" (.list (writings children)) (children = [])]

/-- The ways in which each of several trees may be written. -/
def writings : List FileTree → List Writing
  | [] => []
  | files :: rest => files.writing :: writings rest

end

theorem writings_eq_map (children : List FileTree) : writings children = children.map writing := by
  induction children with
  | nil => rfl
  | cons files rest inductionHypothesis => rw [writings, inductionHypothesis, List.map_cons]

theorem writing_iff : ∀ (height : Nat) (files : FileTree) (tree : Tree),
    files.writing (2 * height) tree ↔ IsToldWithin height tree files
  | 0, .node path kind children, tree => by
    rw [writing]
    exact iff_of_false nofun id
  | height + 1, .node path kind children, tree => by
    rw [writing, writings_eq_map, Nat.mul_add_one]
    refine Writing.record_iff (show fieldNames.Nodup by decide) rfl ?_ tree
    intro pairs
    simp only [List.forall_mem_cons, Field.required_name, Field.defaulted_name,
      Field.required_isGivenBy_iff Writing.text_iff, Field.required_isGivenBy_iff
        (Writing.choice_iff FileKind.lookup_name FileKind.named_of_mem_choices),
      Field.defaulted_isGivenBy_iff (Writing.list_iff (writing_iff height))]
    constructor
    · rintro ⟨isPath, isKind, areChildren, -⟩
      exact .node isPath isKind areChildren
    · rintro ⟨isPath, isKind, areChildren⟩
      exact ⟨isPath, isKind, areChildren, List.forall_mem_nil _⟩

end FileTree

namespace TemplateDescription

/-- The ways in which a description may be written. -/
def writing (description : TemplateDescription) : Writing :=
  .record
    [.required "selection" (.text description.selection),
      .required "usage" (.text description.usage)]

theorem writing_iff {levels : Nat} (description : TemplateDescription) (tree : Tree) :
    description.writing (levels + 1) tree ↔ tree.IsRecord fieldNames ToldBy description := by
  refine Writing.record_iff (show fieldNames.Nodup by decide) rfl ?_ tree
  intro pairs
  simp only [List.forall_mem_cons, Field.required_name,
    Field.required_isGivenBy_iff Writing.text_iff]
  constructor
  · rintro ⟨selection, usage, -⟩
    exact ⟨selection, usage⟩
  · rintro ⟨selection, usage⟩
    exact ⟨selection, usage, List.forall_mem_nil _⟩

end TemplateDescription

namespace TemplateFile

/-- The ways in which a file may be written. -/
def writing (file : TemplateFile) : Writing :=
  .record
    [.required "filePath" (.text file.filePath), .required "fileContents" (.text file.fileContents)]

theorem writing_iff {levels : Nat} (file : TemplateFile) (tree : Tree) :
    file.writing (levels + 1) tree ↔ tree.IsRecord fieldNames ToldBy file := by
  refine Writing.record_iff (show fieldNames.Nodup by decide) rfl ?_ tree
  intro pairs
  simp only [List.forall_mem_cons, Field.required_name,
    Field.required_isGivenBy_iff Writing.text_iff]
  constructor
  · rintro ⟨filePath, fileContents, -⟩
    exact ⟨filePath, fileContents⟩
  · rintro ⟨filePath, fileContents⟩
    exact ⟨filePath, fileContents, List.forall_mem_nil _⟩

end TemplateFile

namespace TemplateDetails

/-- The ways in which details may be written. -/
def writing (details : TemplateDetails) : Writing :=
  .record
    [.required "name" (.text details.name),
      .required "description" details.description.writing,
      .required "files" (.list (details.files.map TemplateFile.writing)),
      .required "fileTree" details.fileTree.writing,
      .optional "language" (details.language.map .text),
      .required "frameworks" (.list (details.frameworks.map .text)),
      .required "deps" (.dictionary details.deps),
      .required "dontTouchFiles" (.list (details.dontTouchFiles.map .text)),
      .required "redactedFiles" (.list (details.redactedFiles.map .text))]

theorem writing_iff (height : Nat) (details : TemplateDetails) (tree : Tree) :
    details.writing (2 * height + 3) tree ↔ IsTold (height + 1) tree details := by
  have fileTrees := FileTree.writing_iff (height + 1)
  rw [Nat.mul_add_one] at fileTrees
  refine Writing.record_iff (show fieldNames.Nodup by decide) rfl ?_ tree
  intro pairs
  simp only [List.forall_mem_cons, Field.required_name, Field.optional_name,
    Field.required_isGivenBy_iff Writing.text_iff, Field.optional_isGivenBy_iff Writing.text_iff,
    Field.required_isGivenBy_iff TemplateDescription.writing_iff,
    Field.required_isGivenBy_iff (Writing.list_iff TemplateFile.writing_iff),
    Field.required_isGivenBy_iff fileTrees,
    Field.required_isGivenBy_iff (Writing.list_iff Writing.text_iff),
    Field.required_isGivenBy_iff Writing.dictionary_iff]
  constructor
  · rintro ⟨name, description, files, fileTree, language, frameworks, deps, untouched, redacted, -⟩
    exact ⟨name, description, files, fileTree, language, frameworks, deps, untouched, redacted⟩
  · rintro ⟨name, description, files, fileTree, language, frameworks, deps, untouched, redacted⟩
    exact ⟨name, description, files, fileTree, language, frameworks, deps, untouched, redacted,
      List.forall_mem_nil _⟩

end TemplateDetails

/-! ### Records inside a session -/

namespace Instant

/-- An instant is written as any text that is read as it. -/
def writing (instant : Instant) : Writing :=
  fun _ tree => IsTold tree instant

theorem writing_iff {levels : Nat} (instant : Instant) (tree : Tree) :
    instant.writing levels tree ↔ IsTold tree instant :=
  Iff.rfl

/-- The printed text of an instant is one of the ways to write it. -/
theorem writing_of_render {levels : Nat} {instant : Instant} {tree : Tree}
    (isText : tree.IsText instant.render) : instant.writing levels tree :=
  ⟨instant.render, isText, parse_render instant⟩

end Instant

namespace GenerationMarker

/-- The ways in which a marker may be written. -/
def writing (marker : GenerationMarker) : Writing :=
  .record
    [.required "runId" (.text marker.runId), .required "startedAt" marker.startedAt.writing]

theorem writing_iff (levels : Nat) (marker : GenerationMarker) (tree : Tree) :
    marker.writing (levels + 1) tree ↔ IsTold tree marker := by
  refine Writing.record_iff (show fieldNames.Nodup by decide) rfl ?_ tree
  intro pairs
  simp only [List.forall_mem_cons, Field.required_name,
    Field.required_isGivenBy_iff Writing.text_iff,
    Field.required_isGivenBy_iff Instant.writing_iff]
  constructor
  · rintro ⟨runId, startedAt, -⟩
    exact ⟨runId, startedAt⟩
  · rintro ⟨runId, startedAt⟩
    exact ⟨runId, startedAt, List.forall_mem_nil _⟩

end GenerationMarker

namespace ErrorReport

/-- The ways in which a report may be written. -/
def writing (report : ErrorReport) : Writing :=
  .record
    [.required "message" (.text report.message),
      .optional "stack" (report.stack.map .text),
      .optional "reportedAt" (report.reportedAt.map Instant.writing)]

theorem writing_iff (levels : Nat) (report : ErrorReport) (tree : Tree) :
    report.writing (levels + 1) tree ↔ IsTold tree report := by
  refine Writing.record_iff (show fieldNames.Nodup by decide) rfl ?_ tree
  intro pairs
  simp only [List.forall_mem_cons, Field.required_name, Field.optional_name,
    Field.required_isGivenBy_iff Writing.text_iff, Field.optional_isGivenBy_iff Writing.text_iff,
    Field.optional_isGivenBy_iff Instant.writing_iff]
  constructor
  · rintro ⟨message, stack, reportedAt, -⟩
    exact ⟨message, stack, reportedAt⟩
  · rintro ⟨message, stack, reportedAt⟩
    exact ⟨message, stack, reportedAt, List.forall_mem_nil _⟩

end ErrorReport

/-! ### Documents -/

/-- Bytes are read as a record exactly if they spell one of the ways in which it may be written with
no more levels of nesting than a document may have. -/
theorem read_eq_ok_iff_written (bytes : List UInt8) :
    (∀ selection : TemplateSelection, Json.read TemplateSelection.reader bytes = .ok selection ↔
      ∃ tree : Tree, tree.Spells bytes ∧ selection.writing Json.greatestDepth tree) ∧
    (∀ context : InferenceContext, Json.read InferenceContext.reader bytes = .ok context ↔
      ∃ tree : Tree, tree.Spells bytes ∧ context.writing Json.greatestDepth tree) ∧
    (∀ details : TemplateDetails, Json.read TemplateDetails.reader bytes = .ok details ↔
      ∃ tree : Tree, tree.Spells bytes ∧ details.writing Json.greatestDepth tree) ∧
    (∀ marker : GenerationMarker, Json.read GenerationMarker.reader bytes = .ok marker ↔
      ∃ tree : Tree, tree.Spells bytes ∧ marker.writing Json.greatestDepth tree) ∧
    ∀ report : ErrorReport, Json.read ErrorReport.reader bytes = .ok report ↔
      ∃ tree : Tree, tree.Spells bytes ∧ report.writing Json.greatestDepth tree := by
  exact
    ⟨Json.read_eq_ok_iff_writing (TemplateSelection.reader_means 125)
      (TemplateSelection.writing_iff 125),
    Json.read_eq_ok_iff_writing (InferenceContext.reader_means 125)
      (InferenceContext.writing_iff 125),
    Json.read_eq_ok_iff_writing (TemplateDetails.reader_means 62) (TemplateDetails.writing_iff 62),
    Json.read_eq_ok_iff_writing (GenerationMarker.reader_means 126)
      (GenerationMarker.writing_iff 126),
    Json.read_eq_ok_iff_writing (ErrorReport.reader_means 126) (ErrorReport.writing_iff 126)⟩

example : (Json.readString TemplateSelection.reader
    "[\"vite\", null, \"shop\", \x7b\"complex\": null\x7d]").toOption =
      some ⟨some "vite", none, some "shop", some .complex, none, none⟩ := by
  decide +kernel

end SessionForge
