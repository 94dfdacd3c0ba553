/-
The directory of all agents, kept in memory. Agents are never removed. An agent that has been
stopped stays in the directory, but it no longer answers. Every agent has a mailbox, and there can
be no mailbox with room for 2^61 requests or more; so a directory that asks for such mailboxes has
no agents.
-/

import SessionForge.Agent.Request

namespace SessionForge

/-- An agent: where it was placed, the state that it owns, and whether it still runs. -/
structure Agent where
  location : LocationHint
  state : SessionState
  running : Bool
  deriving DecidableEq

/-- The greatest number of requests that a mailbox can have room for. -/
def greatestMailboxCapacity : Nat :=
  Nat.pow 2 61 - 1

/-- The agents by the tokens of their identities, and how many requests may wait at each. -/
structure Directory where
  agents : Dictionary Agent
  mailboxCapacity : Nat
  mailboxCapacity_pos : 0 < mailboxCapacity
  /-- Where there are agents, there are mailboxes. -/
  mailboxCapacity_le : agents.entries ≠ [] → mailboxCapacity ≤ greatestMailboxCapacity
  deriving DecidableEq

namespace Directory

/-- The directory without agents. Mailboxes have room for one request at least. -/
def withCapacity (capacity : Nat) : Directory :=
  ⟨.empty, max capacity 1, by omega, fun filled => absurd rfl filled⟩

/-- The directory without agents and with the usual mailboxes. -/
def empty : Directory :=
  withCapacity 64

instance : Inhabited Directory :=
  ⟨empty⟩

/-! ### What is in a directory -/

/-- The agent of an identity. -/
def find? (directory : Directory) (identity : AgentIdentity) : Option Agent :=
  directory.agents.find? identity.token

/-- Whether there is an agent of an identity. -/
def contains (directory : Directory) (identity : AgentIdentity) : Bool :=
  (directory.find? identity).isSome

/-- Whether there is an agent of an identity that answers. -/
def isRunning (directory : Directory) (identity : AgentIdentity) : Bool :=
  (directory.find? identity).any Agent.running

/-- Where the agent of an identity was placed. -/
def location? (directory : Directory) (identity : AgentIdentity) : Option LocationHint :=
  (directory.find? identity).map Agent.location

theorem mailboxCapacity_le_of_find? {directory : Directory} {identity : AgentIdentity}
    {agent : Agent} (found : directory.find? identity = some agent) :
    directory.mailboxCapacity ≤ greatestMailboxCapacity :=
  directory.mailboxCapacity_le fun none => by
    simp [find?, Dictionary.find?, none, Entries.find?] at found

/-- The number of agents. -/
def size (directory : Directory) : Nat :=
  directory.agents.entries.length

/-- Whether there are no agents. -/
def isEmpty (directory : Directory) : Bool :=
  directory.agents.entries.isEmpty

/-! ### Requests -/

/-- Puts an agent in its place, where there can be mailboxes. -/
def put (directory : Directory) (identity : AgentIdentity) (agent : Agent)
    (fits : directory.mailboxCapacity ≤ greatestMailboxCapacity) : Directory where
  agents := directory.agents.insert identity.token agent
  mailboxCapacity := directory.mailboxCapacity
  mailboxCapacity_pos := directory.mailboxCapacity_pos
  mailboxCapacity_le _ := fits

section Put

variable (directory : Directory) (identity : AgentIdentity) (agent : Agent)
  (fits : directory.mailboxCapacity ≤ greatestMailboxCapacity)

@[simp] theorem find?_put_self :
    (directory.put identity agent fits).find? identity = some agent :=
  Dictionary.find?_insert_self _ _ _

theorem find?_put_other {other : AgentIdentity} (different : other ≠ identity) :
    (directory.put identity agent fits).find? other = directory.find? other :=
  Dictionary.find?_insert_other _ _ fun same => different (congrArg AgentIdentity.mk same.symm)

theorem size_put_of_absent (absent : directory.find? identity = none) :
    (directory.put identity agent fits).size = directory.size + 1 :=
  Entries.length_insert_of_absent _ _ absent

theorem size_put_of_present {old : Agent} (present : directory.find? identity = some old) :
    (directory.put identity agent fits).size = directory.size :=
  Entries.length_insert_of_present directory.agents.ordered _ present

end Put

/-- The failure of a request to an agent that has stopped. -/
def stopped (request : AgentRequest) : AgentError :=
  .failed request.operation request.identity "mailbox closed"

/-- The failure of a request that was sent to an agent which stopped before it answered. -/
def dropped (request : AgentRequest) : AgentError :=
  .failed request.operation request.identity "actor dropped reply"

/-- Answers a request. The first write to an identity makes its agent; later writes replace its
state and leave it in its place. Where there can be no mailboxes, every write is a first write and
fails. -/
def answer (directory : Directory) :
    (request : AgentRequest) → Except AgentError request.Answer × Directory
  | .isInitialized identity => (.ok (directory.contains identity), directory)
  | .read identity =>
    match directory.find? identity with
    | none => (.error (.notFound identity), directory)
    | some agent =>
      if agent.running then (.ok agent.state, directory)
      else (.error (stopped (.read identity)), directory)
  | .write identity location state =>
    if fits : directory.mailboxCapacity ≤ greatestMailboxCapacity then
      match directory.find? identity with
      | none => (.ok (), directory.put identity ⟨location, state, true⟩ fits)
      | some agent =>
        if agent.running then (.ok (), directory.put identity { agent with state } fits)
        else (.error (stopped (.write identity location state)), directory)
    else (.error (.mailboxTooLarge identity), directory)

/-- The directory after one agent has been stopped. -/
def stop (directory : Directory) (identity : AgentIdentity) : Directory :=
  match found : directory.find? identity with
  | none => directory
  | some agent =>
    directory.put identity { agent with running := false } (mailboxCapacity_le_of_find? found)

/-- The directory after every agent has been stopped. -/
def stopAll (directory : Directory) : Directory where
  agents := directory.agents.map fun agent => { agent with running := false }
  mailboxCapacity := directory.mailboxCapacity
  mailboxCapacity_pos := directory.mailboxCapacity_pos
  mailboxCapacity_le filled :=
    directory.mailboxCapacity_le fun none => filled (by simp [Dictionary.map, none])

end Directory

end SessionForge
