/-
Selecting a template for a query. The catalog is fetched from a store, a sandbox is named for the
project to come, a matcher selects a template, and its details are taken from the catalog. Fetching
and matching have a budget of time each. What is wrong first decides the error.
-/

import SessionForge.Identity
import SessionForge.Template.BlobStore
import SessionForge.Template.Details

namespace SessionForge

/-! ### Settings, answers and errors -/

/-- The settings of a selector: where the catalog is, and the budgets in milliseconds. -/
structure SelectorConfig where
  catalogKey : String
  fetchTimeout : Nat
  inferenceTimeout : Nat
  deriving DecidableEq

instance : Inhabited SelectorConfig :=
  ⟨"template_catalog.json", 10000, 60000⟩

/-- The stages of a selection. -/
inductive SelectionStage where
  | idle
  | fetchingCatalog
  | selecting
  | resolved
  | failed
  deriving DecidableEq

namespace SelectionStage

/-- The stages in their order. -/
def all : List SelectionStage :=
  [.idle, .fetchingCatalog, .selecting, .resolved, .failed]

/-- The name of a stage. -/
def name : SelectionStage → String
  | .idle => "idle"
  | .fetchingCatalog => "fetching_catalog"
  | .selecting => "selecting"
  | .resolved => "resolved"
  | .failed => "failed"

/-- Whether nothing follows a stage. -/
def isTerminal : SelectionStage → Bool
  | .resolved | .failed => true
  | .idle | .fetchingCatalog | .selecting => false

end SelectionStage

/-- What a selection comes to: the sandbox for the project, the details of the template, and the
answer of the matcher as it was given. -/
structure Resolution where
  sandbox : SandboxId
  details : TemplateDetails
  selection : TemplateSelection

/-- A resolution as a value of a document. -/
def Resolution.toJson (resolution : Resolution) : Json :=
  .object [("sandboxSessionId", .text resolution.sandbox.token),
    ("templateDetails", resolution.details.toJson), ("selection", resolution.selection.toJson)]

/-- Why a selection failed. -/
inductive SelectionError where
  | catalogUnavailable (key : String) (reason : String)
  | noSuitableTemplate (query : String)
  | selectionNotFound (name : String)
  | failed (operation : String) (reason : String)
  deriving DecidableEq

/-- The message of a failed selection. -/
def SelectionError.message : SelectionError → String
  | .catalogUnavailable key reason => "template catalog unavailable (" ++ key ++ "): " ++ reason
  | .noSuitableTemplate query => "no suitable template found for query: " ++ query
  | .selectionNotFound name => "selected template not found in catalog: " ++ name
  | .failed operation reason => operation ++ " failed: " ++ reason

/-! ### Fetching the catalog -/

/-- Why there is no catalog. -/
inductive CatalogTrouble where
  | late (budget : Nat)
  | unreadable (error : BlobError)
  | absent
  | malformed (refusal : Json.Refusal)
  deriving DecidableEq

/-- The words for a budget that has run out. -/
def describeLate (budget : Nat) : String :=
  "timed out after " ++ toString budget ++ "ms"

/-- The words for a missing catalog. -/
def CatalogTrouble.message : CatalogTrouble → String
  | .late budget => describeLate budget
  | .unreadable error => error.message
  | .absent => "not found"
  | .malformed refusal => "malformed catalog: " ++ refusal.message

namespace SelectorConfig

/-- Fetches the catalog from a store. -/
def fetch (config : SelectorConfig) (store : BlobStore) : Except CatalogTrouble Catalog :=
  match (store config.catalogKey).within? config.fetchTimeout with
  | none => .error (.late config.fetchTimeout)
  | some (.error error) => .error (.unreadable error)
  | some (.ok none) => .error .absent
  | some (.ok (some bytes)) => (Catalog.parse bytes).mapError .malformed

/-! ### Matching -/

/-- The answer of a matcher that came in time. -/
def consult (config : SelectorConfig) (matcher : Matcher) (request : MatcherRequest) :
    Except SelectionError TemplateSelection :=
  match (matcher request).within? config.inferenceTimeout with
  | none => .error (.failed "inference" (describeLate config.inferenceTimeout))
  | some (.error error) => .error (.failed "inference" error.message)
  | some (.ok selection) => .ok selection

/-- The entry that a selection names. -/
def resolve (query : String) (catalog : Catalog) (selection : TemplateSelection) :
    Except SelectionError CatalogEntry :=
  match selection.templateName? with
  | none => .error (.noSuitableTemplate query)
  | some name =>
    match catalog.find? name with
    | none => .error (.selectionNotFound name)
    | some entry => .ok entry

end SelectorConfig

/-! ### The whole selection -/

/-- What a selection did: its result, the tokens that are left, and what the matcher was asked, if
it was asked at all. -/
structure SelectionRun where
  result : Except SelectionError Resolution
  supply : TokenSupply
  asked : Option MatcherRequest

/-- Selects a template for a query. A token is minted as soon as there is a catalog, whether or not
the selection comes to a resolution. -/
def SelectorConfig.select (config : SelectorConfig) (store : BlobStore) (matcher : Matcher)
    (supply : TokenSupply) (context : InferenceContext) (query : String) : SelectionRun :=
  match config.fetch store with
  | .error trouble =>
    { result := .error (.catalogUnavailable config.catalogKey trouble.message)
      supply, asked := none }
  | .ok catalog =>
    let (sandbox, supply) := supply.mintSandbox
    let request := { context, query, catalog := catalog.entries }
    { result := do
        let selection ← config.consult matcher request
        let entry ← SelectorConfig.resolve query catalog selection
        return { sandbox, details := .ofEntry entry, selection }
      supply, asked := some request }

end SessionForge
