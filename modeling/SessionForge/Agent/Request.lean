/-
What may be asked of agents, what they answer, and why they may fail to. An agent owns the state of
one session. It comes into being with the first write to its identity, at the place that this write
names; until then it is not found.
-/

import SessionForge.Session.State

namespace SessionForge

/-- Where an agent should be placed. -/
structure LocationHint where
  name : String
  deriving DecidableEq

instance : Inhabited LocationHint :=
  ⟨⟨"enam"⟩⟩

/-- Why an agent did not answer. -/
inductive AgentError where
  | notFound (identity : AgentIdentity)
  | failed (operation : String) (identity : AgentIdentity) (reason : String)
  /-- There can be no mailbox of the size that is wanted. The program breaks down over this. -/
  | mailboxTooLarge (identity : AgentIdentity)
  deriving DecidableEq

namespace AgentError

/-- The message of an error. -/
def message : AgentError → String
  | .notFound identity => "agent not found: " ++ identity.token
  | .failed operation identity reason =>
    operation ++ " failed for agent " ++ identity.token ++ ": " ++ reason
  | .mailboxTooLarge identity => "mailbox of agent " ++ identity.token ++ " would be too large"

/-- The agent that did not answer. -/
def identity : AgentError → AgentIdentity
  | .notFound identity => identity
  | .failed _ identity _ => identity
  | .mailboxTooLarge identity => identity

/-- Whether there is no such agent. -/
def isNotFound : AgentError → Bool
  | .notFound _ => true
  | .failed _ _ _ | .mailboxTooLarge _ => false

/-- Whether the program cannot go on. -/
def isFatal : AgentError → Bool
  | .mailboxTooLarge _ => true
  | .notFound _ | .failed _ _ _ => false

end AgentError

/-- A request to one agent. -/
inductive AgentRequest where
  | isInitialized (identity : AgentIdentity)
  | read (identity : AgentIdentity)
  | write (identity : AgentIdentity) (location : LocationHint) (state : SessionState)
  deriving DecidableEq

namespace AgentRequest

/-- What an answer to a request is. -/
abbrev Answer : AgentRequest → Type
  | .isInitialized _ => Bool
  | .read _ => SessionState
  | .write _ _ _ => Unit

/-- The agent that is asked. -/
def identity : AgentRequest → AgentIdentity
  | .isInitialized identity => identity
  | .read identity => identity
  | .write identity _ _ => identity

/-- Whether a request writes. -/
def isWrite : AgentRequest → Bool
  | .write _ _ _ => true
  | .isInitialized _ | .read _ => false

/-- Whether a request is one for the agent itself. Whether there is an agent is known without
asking it. -/
def isMailed : AgentRequest → Bool
  | .read _ | .write _ _ _ => true
  | .isInitialized _ => false

/-- The name of the operation, as errors give it. -/
def operation : AgentRequest → String
  | .isInitialized _ => "is_initialized"
  | .read _ => "get_full_state"
  | .write _ _ _ => "set_state"

end AgentRequest

end SessionForge
