/-
The calls that are made to an orchestrator, and to the agents through the handles that it gives
out. Each of them is a task, so that calls can be under way at the same time. Agents and selections
draw their names from the one supply of the orchestrator.
-/

import SessionForge.Agent.Locator
import SessionForge.Orchestrator

namespace SessionForge

/-! ### Selections as tasks -/

/-- Mints the name of a new sandbox. -/
def AgentTask.mintSandbox : AgentTask SandboxId :=
  .minting fun token => pure ⟨token⟩

/-- Selecting a template as a task, which asks nothing of any agent. Like every task it may be
interrupted before it mints. -/
def SelectorConfig.task (config : SelectorConfig) (store : BlobStore) (matcher : Matcher)
    (context : InferenceContext) (query : String) :
    AgentTask (Except SelectionError Resolution) :=
  match config.fetch store with
  | .error trouble => pure (.error (.catalogUnavailable config.catalogKey trouble.message))
  | .ok catalog => do
    let sandbox ← AgentTask.mintSandbox
    return do
      let selection ← config.consult matcher { context, query, catalog := catalog.entries }
      let entry ← SelectorConfig.resolve query catalog selection
      return { sandbox, details := .ofEntry entry, selection }

/-- Done in a row, the task of a selection is the selection. -/
theorem SelectorConfig.run_task {σ : Type} (answerer : AgentTask.Answerer σ)
    (config : SelectorConfig) (store : BlobStore) (matcher : Matcher) (context : InferenceContext)
    (query : String) (state : σ) (supply : TokenSupply) :
    (config.task store matcher context query).run answerer state supply =
      (.ok (config.select store matcher supply context query).result, state,
        (config.select store matcher supply context query).supply) := by
  unfold SelectorConfig.task SelectorConfig.select
  cases config.fetch store <;> rfl

/-! ### Calls -/

/-- A call. What the store and the matcher do during a selection is part of the call, since they
need not do the same every time. -/
inductive OrchestratorCall where
  | resolve (identity : AgentIdentity) (jurisdiction : Jurisdiction)
  | isInitialized (handle : AgentHandle)
  | read (handle : AgentHandle)
  | fetch (handle : AgentHandle)
  | write (handle : AgentHandle) (state : SessionState)
  | clone (source : AgentIdentity)
  | select (store : BlobStore) (matcher : Matcher) (context : InferenceContext) (query : String)

/-- What a call gives in the end. -/
inductive OrchestratorAnswer where
  | resolved (handle : AgentHandle)
  | known (initialized : Bool)
  | state (state : SessionState)
  | written
  | cloned (clone : ClonedAgent)
  | selected (result : Except SelectionError Resolution)

/-- What a call does. -/
def OrchestratorCall.task (config : Config) : OrchestratorCall → AgentTask OrchestratorAnswer
  | .resolve identity jurisdiction =>
    return .resolved ((AgentLocator.mk config.locationHint).resolve identity jurisdiction)
  | .isInitialized handle => return .known (← handle.isInitialized)
  | .read handle => return .state (← handle.read)
  | .fetch handle => return .state (← handle.fetch)
  | .write handle state => do
    handle.write state
    return .written
  | .clone source => return .cloned (← (AgentLocator.mk config.locationHint).clone source)
  | .select store matcher context query =>
    return .selected (← config.selector.task store matcher context query)

end SessionForge
