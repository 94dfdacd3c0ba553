/-
The orchestrator: agents, the selection of templates and one supply of tokens under one
configuration. Clones and selections mint their tokens from the same supply.
-/

import SessionForge.Agent.Locator
import SessionForge.Failure

namespace SessionForge

/-- An orchestrator, with all that has been asked of its matcher so far. -/
structure Orchestrator where
  config : Config
  store : BlobStore
  matcher : Matcher
  directory : Directory
  supply : TokenSupply
  asked : List MatcherRequest

namespace Orchestrator

/-! ### Putting it together -/

/-- What an orchestrator is made of. The directory and the supply may be left out. -/
structure Parts where
  config : Config
  store : Option BlobStore
  matcher : Option Matcher
  directory : Option Directory
  supply : Option TokenSupply

/-- A part that must be there. -/
def needed {α : Type} (part : Option α) (name : String) : Except Failure α :=
  match part with
  | some value => .ok value
  | none => .error (.config (.invalid (name ++ " is required")))

/-- Puts an orchestrator together, if its configuration is valid and nothing is missing. Without a
directory it gets an empty one; without a supply, one in the form that the configuration names,
which starts from a time and from random bits. -/
def build (parts : Parts) (milliseconds random : Nat) : Except Failure Orchestrator := do
  parts.config.validate.mapError .config
  let store ← needed parts.store "catalog store"
  let matcher ← needed parts.matcher "inference matcher"
  return {
    config := parts.config
    store, matcher
    directory :=
      parts.directory.getD (.withCapacity parts.config.agents.mailboxCapacity.toNat)
    supply := parts.supply.getD (parts.config.agents.idFormat.supply milliseconds random)
    asked := [] }

/-! ### What it does -/

/-- Does a task with agents. -/
def perform {α : Type} (orchestrator : Orchestrator) (task : AgentTask α) :
    Except Failure α × Orchestrator :=
  let (result, directory, supply) :=
    task.run Directory.answer orchestrator.directory orchestrator.supply
  (result.mapError .agent, { orchestrator with directory, supply })

/-- The state of an agent. -/
def fetch (orchestrator : Orchestrator) (identity : AgentIdentity) :
    Except Failure SessionState × Orchestrator :=
  orchestrator.perform (.fetch identity)

/-- Writes the state of an agent. -/
def write (orchestrator : Orchestrator) (identity : AgentIdentity) (state : SessionState) :
    Except Failure Unit × Orchestrator :=
  orchestrator.perform (.write identity orchestrator.config.locationHint state)

/-- Makes a clone of an agent. -/
def clone (orchestrator : Orchestrator) (source : AgentIdentity) :
    Except Failure AgentIdentity × Orchestrator :=
  orchestrator.perform (.clone orchestrator.config.locationHint source)

/-- Selects a template for a query. -/
def select (orchestrator : Orchestrator) (context : InferenceContext) (query : String) :
    Except Failure Resolution × Orchestrator :=
  let run :=
    orchestrator.config.selector.select orchestrator.store orchestrator.matcher
      orchestrator.supply context query
  (run.result.mapError .selection,
    { orchestrator with
      supply := run.supply, asked := orchestrator.asked ++ run.asked.toList })

end Orchestrator

end SessionForge
