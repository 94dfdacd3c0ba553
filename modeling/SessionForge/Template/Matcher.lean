/-
Matchers: whoever selects a template for a query. A matcher is asked with the entries of the
catalog, takes some time, and answers with a selection or an error.
-/

import SessionForge.Template.Catalog
import SessionForge.Template.Selection

namespace SessionForge

/-- Something that becomes ready after some milliseconds. -/
structure Delayed (α : Type) where
  delay : Nat
  value : α

/-- Something that is ready at once. -/
def Delayed.now {α : Type} (value : α) : Delayed α :=
  ⟨0, value⟩

/-- What is ready when a budget of milliseconds has run out; what becomes ready in its very last
moment still counts. -/
def Delayed.within? {α : Type} (delayed : Delayed α) (budget : Nat) : Option α :=
  if delayed.delay ≤ budget then some delayed.value else none

/-- What a matcher is asked. -/
structure MatcherRequest where
  context : InferenceContext
  query : String
  catalog : List CatalogEntry
  deriving DecidableEq

/-- Why a matcher has no answer. -/
inductive MatcherError where
  | inference (reason : String)
  | invalidResponse (reason : String)
  deriving DecidableEq

/-- The message of an error of a matcher. -/
def MatcherError.message : MatcherError → String
  | .inference reason => "inference failed: " ++ reason
  | .invalidResponse reason => "invalid inference response: " ++ reason

/-- Whoever selects a template. -/
abbrev Matcher := MatcherRequest → Delayed (Except MatcherError TemplateSelection)

end SessionForge
