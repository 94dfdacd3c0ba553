/-
A visit to a directory: calls that are made one after the other, each through a locator. The locator
of a call resolves the identity of an agent, looking as far as it is told to, and the call is made
to the handle that it gives. What was called and what was answered is kept.
-/

import SessionForge.Agent.Locator

namespace SessionForge

/-! ### Calls -/

/-- How a caller gets at an agent: through which locator, and how far it is to look. -/
structure AgentAddress where
  locator : AgentLocator
  identity : AgentIdentity
  jurisdiction : Jurisdiction
  deriving DecidableEq

namespace AgentAddress

/-- The handle that the locator gives. -/
def handle (address : AgentAddress) : AgentHandle :=
  address.locator.resolve address.identity address.jurisdiction

/-- The same agent through the same locator, which looks at home. -/
def atHome (address : AgentAddress) : AgentAddress :=
  { address with jurisdiction := .home }

end AgentAddress

/-- A call. -/
inductive DirectoryCall where
  | resolve (address : AgentAddress)
  | isInitialized (address : AgentAddress)
  | read (address : AgentAddress)
  | fetch (address : AgentAddress)
  | write (address : AgentAddress) (state : SessionState)
  | clone (locator : AgentLocator) (source : AgentIdentity)
  deriving DecidableEq

/-- What a call gives in the end. -/
inductive DirectoryAnswer where
  | resolved (handle : AgentHandle)
  | known (initialized : Bool)
  | state (state : SessionState)
  | written
  | cloned (clone : ClonedAgent)
  deriving DecidableEq

namespace DirectoryCall

/-- What a call does. -/
def task : DirectoryCall → AgentTask DirectoryAnswer
  | .resolve address => return .resolved address.handle
  | .isInitialized address => return .known (← address.handle.isInitialized)
  | .read address => return .state (← address.handle.read)
  | .fetch address => return .state (← address.handle.fetch)
  | .write address state => do
    address.handle.write state
    return .written
  | .clone locator source => return .cloned (← locator.clone source)

/-- The same call, with nothing looked for elsewhere. -/
def atHome : DirectoryCall → DirectoryCall
  | .resolve address => .resolve address.atHome
  | .isInitialized address => .isInitialized address.atHome
  | .read address => .read address.atHome
  | .fetch address => .fetch address.atHome
  | .write address state => .write address.atHome state
  | .clone locator source => .clone locator source

end DirectoryCall

/-! ### Visits -/

/-- A call and its answer. -/
structure CallRecord where
  call : DirectoryCall
  answer : Except AgentError DirectoryAnswer

/-- The agent that a call has written to, and where it is placed if the call has made it. A call
that was refused has written nothing. -/
def CallRecord.wrote? : CallRecord → Option (AgentIdentity × LocationHint)
  | ⟨.write address _, .ok .written⟩ => some (address.identity, address.locator.location)
  | ⟨.clone locator _, .ok (.cloned clone)⟩ => some (clone.identity, locator.location)
  | _ => none

/-- A directory, the tokens that are left, and the calls made so far, the oldest first. -/
structure Visit where
  directory : Directory
  supply : TokenSupply
  history : List CallRecord

namespace Visit

/-- A visit to a directory without agents, before the first call. -/
def begin (capacity : Nat) (supply : TokenSupply) : Visit :=
  ⟨.withCapacity capacity, supply, []⟩

/-- What a call is answered. -/
def answer (visit : Visit) (call : DirectoryCall) : Except AgentError DirectoryAnswer :=
  (call.task.run Directory.answer visit.directory visit.supply).1

/-- Makes a call. -/
def make (visit : Visit) (call : DirectoryCall) : Visit :=
  let (answer, directory, supply) := call.task.run Directory.answer visit.directory visit.supply
  ⟨directory, supply, visit.history ++ [⟨call, answer⟩]⟩

/-- Makes calls one after the other. -/
def makeAll (visit : Visit) (calls : List DirectoryCall) : Visit :=
  calls.foldl make visit

/-- What was written so far: to which agents, and where a new agent was placed. -/
def writes (visit : Visit) : List (AgentIdentity × LocationHint) :=
  visit.history.filterMap CallRecord.wrote?

/-- The agents that were written to so far. -/
def written (visit : Visit) : List AgentIdentity :=
  visit.writes.map Prod.fst

/-- The answers so far. -/
def answers (visit : Visit) : List (Except AgentError DirectoryAnswer) :=
  visit.history.map CallRecord.answer

end Visit

end SessionForge
