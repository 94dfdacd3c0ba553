/-
What a matcher is asked with and what it answers: the context of a request, and the selection of a
template. A selection may name no template.
-/

import SessionForge.Json.Shape

namespace SessionForge

/-! ### The context of a request -/

/-- Who asks a matcher, and with what settings. -/
structure InferenceContext where
  agentId : Option String
  userId : Option String
  model : Option String
  metadata : Dictionary String
  deriving DecidableEq

namespace InferenceContext

/-- A context that says nothing. -/
def empty : InferenceContext :=
  ⟨none, none, none, .empty⟩

/-- A context as a value of a document. -/
def toJson (context : InferenceContext) : Json :=
  .object (Json.optional "agentId" (context.agentId.map .text)
    ++ Json.optional "userId" (context.userId.map .text)
    ++ Json.optional "model" (context.model.map .text)
    ++ [("metadata", .object (context.metadata.map Json.text).entries)])

/-- The fields of a context. -/
def shape : Json.Shape InferenceContext :=
  InferenceContext.mk <$> .optional "agentId" Json.Reader.text
    <*> .optional "userId" Json.Reader.text
    <*> .optional "model" Json.Reader.text
    <*> .defaulted "metadata" Json.Reader.text.dictionary .empty

/-- Reads a context. -/
def reader : Json.Reader InferenceContext :=
  shape.reader "InferenceContext"

end InferenceContext

/-! ### Selections -/

/-- How complex a project is. -/
inductive Complexity where
  | simple
  | moderate
  | complex
  deriving DecidableEq

namespace Complexity

/-- The name of a complexity. -/
def name : Complexity → String
  | .simple => "simple"
  | .moderate => "moderate"
  | .complex => "complex"

/-- The complexities by name. -/
def choices : List (String × Complexity) :=
  [(name .simple, .simple), (name .moderate, .moderate), (name .complex, .complex)]

end Complexity

/-- The answer of a matcher. -/
structure TemplateSelection where
  selectedTemplateName : Option String
  reasoning : Option String
  useCase : Option String
  complexity : Option Complexity
  styleSelection : Option String
  projectName : Option String
  deriving DecidableEq

namespace TemplateSelection

/-- The selection of no template. -/
def nothing : TemplateSelection :=
  ⟨none, none, none, none, none, none⟩

/-- The selection of a template by its name. -/
def named (name : String) : TemplateSelection :=
  { nothing with selectedTemplateName := some name }

/-- The name of the selected template; the empty name selects nothing. -/
def templateName? (selection : TemplateSelection) : Option String :=
  selection.selectedTemplateName.filter fun name => !name.isEmpty

/-- A selection as a value of a document. -/
def toJson (selection : TemplateSelection) : Json :=
  .object (("selectedTemplateName", (selection.selectedTemplateName.map .text).getD .null)
    :: Json.optional "reasoning" (selection.reasoning.map .text)
    ++ Json.optional "useCase" (selection.useCase.map .text)
    ++ Json.optional "complexity" (selection.complexity.map fun value => .text value.name)
    ++ Json.optional "styleSelection" (selection.styleSelection.map .text)
    ++ Json.optional "projectName" (selection.projectName.map .text))

/-- The fields of a selection. -/
def shape : Json.Shape TemplateSelection :=
  TemplateSelection.mk <$> .optional "selectedTemplateName" Json.Reader.text
    <*> .optional "reasoning" Json.Reader.text
    <*> .optional "useCase" Json.Reader.text
    <*> .optional "complexity" (Json.Reader.choice Complexity.choices)
    <*> .optional "styleSelection" Json.Reader.text
    <*> .optional "projectName" Json.Reader.text

/-- Reads a selection. -/
def reader : Json.Reader TemplateSelection :=
  shape.reader "TemplateSelection"

end TemplateSelection

end SessionForge
