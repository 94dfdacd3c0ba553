/-
Handles of agents, and what is done through them. A locator resolves an identity to a handle, which
knows where a write through it places the agent if that write makes it. Resolving asks nothing of
the directory. There is one region only, so that looking everywhere finds what looking at home
finds.
-/

import SessionForge.Agent.Task

namespace SessionForge

/-! ### Handles -/

/-- How far to look for an agent. -/
inductive Jurisdiction where
  | home
  | everywhere
  deriving DecidableEq

/-- A handle to one agent. -/
structure AgentHandle where
  identity : AgentIdentity
  location : LocationHint
  deriving DecidableEq

namespace AgentHandle

/-- Whether the agent has been written to. -/
def isInitialized (handle : AgentHandle) : AgentTask Bool :=
  .isInitialized handle.identity

/-- The state of the agent. -/
def read (handle : AgentHandle) : AgentTask SessionState :=
  .read handle.identity

/-- The state of the agent, which has to say of itself that it has been written to. -/
def fetch (handle : AgentHandle) : AgentTask SessionState :=
  .fetch handle.identity

/-- Replaces the state of the agent, which is made there if it is not yet. -/
def write (handle : AgentHandle) (state : SessionState) : AgentTask Unit :=
  .write handle.identity handle.location state

end AgentHandle

/-- Whoever resolves identities, with the place for the agents that its handles make. -/
structure AgentLocator where
  location : LocationHint
  deriving DecidableEq

namespace AgentLocator

/-- The handle of an identity. -/
def resolve (locator : AgentLocator) (identity : AgentIdentity) : Jurisdiction → AgentHandle
  | .home | .everywhere => ⟨identity, locator.location⟩

end AgentLocator

/-! ### Clones -/

/-- A clone that has been made. -/
structure ClonedAgent where
  identity : AgentIdentity
  handle : AgentHandle
  deriving DecidableEq

/-- Makes a new agent with the content of an old one. The new agent gets its whole state with one
write. -/
def AgentLocator.clone (locator : AgentLocator) (source : AgentIdentity) :
    AgentTask ClonedAgent := do
  let original := locator.resolve source .everywhere
  if ← original.isInitialized then
    let identity ← AgentTask.mintAgent
    let handle := locator.resolve identity .home
    let state ← original.fetch
    handle.write (state.cloneFor identity)
    return ⟨identity, handle⟩
  else AgentTask.fail (.notFound source)

/-- Makes a clone of an agent and gives its identity. -/
def AgentTask.clone (location : LocationHint) (source : AgentIdentity) :
    AgentTask AgentIdentity := do
  return (← (AgentLocator.mk location).clone source).identity

end SessionForge
