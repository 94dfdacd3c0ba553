/-
An agent seen from outside is a register: the requests to it, in the order in which they are taken,
say all about it. The first write places it, the last write is its state, and before any write it is
not there. This file says so without a directory (`agentAfter`, `replyOf`), and compares one answer
of a directory with it: `answer_eq_replyOf` for the answer, `find?_answer_self` for the agent that
is asked, and `find?_answer_other` for all others, which no request to this one touches.
-/

import SessionForge.Agent.Directory

namespace SessionForge

/-! ### The register -/

/-- The place and the state that a request writes, if it is a write. -/
def AgentRequest.written? : AgentRequest → Option (LocationHint × SessionState)
  | .write _ location state => some (location, state)
  | .isInitialized _ | .read _ => none

/-- What some requests write, the oldest first. -/
def writes (requests : List AgentRequest) : List (LocationHint × SessionState) :=
  requests.filterMap AgentRequest.written?

/-- The agent that some requests to it leave behind: placed by the first write among them, with the
state of the last. -/
def agentAfter (requests : List AgentRequest) : Option Agent := do
  let (location, _) ← (writes requests).head?
  let (_, state) ← (writes requests).getLast?
  return ⟨location, state, true⟩

/-- What one more request makes of an agent. -/
def AgentRequest.applyTo (agent : Option Agent) : AgentRequest → Option Agent
  | .isInitialized _ | .read _ => agent
  | .write _ location state =>
    match agent with
    | none => some ⟨location, state, true⟩
    | some agent => some { agent with state }

/-- What a register answers. -/
def AgentRequest.replyOf (agent : Option Agent) :
    (request : AgentRequest) → Except AgentError request.Answer
  | .isInitialized _ => .ok agent.isSome
  | .read identity =>
    match agent with
    | none => .error (.notFound identity)
    | some agent => .ok agent.state
  | .write _ _ _ => .ok ()

@[simp] theorem agentAfter_nil : agentAfter [] = none :=
  rfl

theorem agentAfter_append_singleton (requests : List AgentRequest) (request : AgentRequest) :
    agentAfter (requests ++ [request]) = request.applyTo (agentAfter requests) := by
  cases request with
  | isInitialized identity | read identity =>
    simp [agentAfter, writes, AgentRequest.written?, AgentRequest.applyTo]
  | write identity location state =>
    have last : writes (requests ++ [.write identity location state]) =
        writes requests ++ [(location, state)] := by
      simp [writes, AgentRequest.written?]
    cases first : writes requests with
    | nil => simp [agentAfter, last, first, AgentRequest.applyTo]
    | cons head rest =>
      simp [agentAfter, last, first, AgentRequest.applyTo, List.getLast?_cons]

/-- There is an agent as soon as there is a write. -/
theorem isSome_agentAfter_iff {requests : List AgentRequest} :
    (agentAfter requests).isSome ↔
      ∃ identity location state, AgentRequest.write identity location state ∈ requests := by
  have nonempty : (agentAfter requests).isSome ↔ writes requests ≠ [] := by
    cases all : writes requests with
    | nil => simp [agentAfter, all]
    | cons head rest => simp [agentAfter, all, List.getLast?_cons]
  rw [nonempty, writes, Ne, List.filterMap_eq_nil_iff]
  constructor
  · intro notAll
    simp only [Classical.not_forall] at notAll
    obtain ⟨request, member, isWrite⟩ := notAll
    cases request with
    | isInitialized | read => exact absurd rfl isWrite
    | write identity location state => exact ⟨identity, location, state, member⟩
  · rintro ⟨identity, location, state, member⟩ none
    cases none _ member

/-- The state of an agent is that of the last write. -/
theorem getLast?_writes_of_agentAfter {requests : List AgentRequest} {agent : Agent}
    (after : agentAfter requests = some agent) :
    ∃ location, (writes requests).getLast? = some (location, agent.state) := by
  simp only [agentAfter, Option.bind_eq_bind, Option.bind_eq_some_iff] at after
  obtain ⟨_, -, ⟨location, state⟩, last, same⟩ := after
  exact ⟨location, by rw [last, ← Option.some.inj same]⟩

theorem running_of_agentAfter {requests : List AgentRequest} {agent : Agent}
    (after : agentAfter requests = some agent) : agent.running = true := by
  simp only [agentAfter, Option.bind_eq_bind, Option.bind_eq_some_iff] at after
  obtain ⟨_, -, _, -, same⟩ := after
  exact (Option.some.inj same) ▸ rfl

/-! ### One answer of a directory -/

namespace Directory

variable {directory : Directory} {request : AgentRequest}

@[simp] theorem mailboxCapacity_answer :
    (directory.answer request).2.mailboxCapacity = directory.mailboxCapacity := by
  cases request with
  | isInitialized identity => rfl
  | read identity =>
    simp only [answer]
    split
    · rfl
    · split <;> rfl
  | write identity location state =>
    simp only [answer]
    split
    · split
      · rfl
      · split <;> rfl
    · rfl

/-- A request touches no agent but the one that it is made to. -/
theorem find?_answer_other {other : AgentIdentity} (different : other ≠ request.identity) :
    (directory.answer request).2.find? other = directory.find? other := by
  cases request with
  | isInitialized identity => rfl
  | read identity =>
    simp only [answer]
    split
    · rfl
    · split <;> rfl
  | write identity location state =>
    simp only [answer]
    split
    · split
      · exact find?_put_other _ _ _ _ different
      · split
        · exact find?_put_other _ _ _ _ different
        · rfl
    · rfl

/-- A directory can make the agent that a request wants: it has mailboxes, or the request wants
none. -/
def CanTake (directory : Directory) (request : AgentRequest) : Prop :=
  request.written?.isSome → directory.mailboxCapacity ≤ greatestMailboxCapacity

theorem canTake_of_ok {answer : request.Answer} (ok : (directory.answer request).1 = .ok answer) :
    directory.CanTake request := by
  cases request with
  | isInitialized | read => exact fun isWrite => absurd isWrite (by simp [AgentRequest.written?])
  | write identity location state =>
    intro _
    simp only [Directory.answer] at ok
    split at ok
    · next fits => exact fits
    · cases ok

section Running

variable (running : ∀ agent, directory.find? request.identity = some agent → agent.running = true)
  (canTake : directory.CanTake request)

include running canTake

theorem answer_eq_replyOf :
    (directory.answer request).1 = request.replyOf (directory.find? request.identity) := by
  cases request with
  | isInitialized identity => rfl
  | read identity =>
    simp only [answer, AgentRequest.replyOf, AgentRequest.identity]
    cases found : directory.find? identity with
    | none => rfl
    | some agent => simp only [if_pos (running agent found)]
  | write identity location state =>
    simp only [answer, AgentRequest.replyOf, dif_pos (canTake rfl)]
    cases found : directory.find? identity with
    | none => rfl
    | some agent => simp only [if_pos (running agent found)]

theorem find?_answer_self :
    (directory.answer request).2.find? request.identity =
      request.applyTo (directory.find? request.identity) := by
  cases request with
  | isInitialized identity => rfl
  | read identity =>
    simp only [answer, AgentRequest.applyTo]
    split
    · rfl
    · split <;> rfl
  | write identity location state =>
    simp only [answer, AgentRequest.applyTo, AgentRequest.identity, dif_pos (canTake rfl)]
    cases found : directory.find? identity with
    | none => simp
    | some agent => simp [running agent found]

end Running

/-! ### Directories that have come about -/

/-- Directories that begin without agents and answer requests, with the requests that were not
refused, the oldest first. -/
inductive ReachedBy : Directory → List AgentRequest → Prop where
  | begun (capacity : Nat) : ReachedBy (withCapacity capacity) []
  | answered {directory : Directory} {history : List AgentRequest} {request : AgentRequest}
      {answer : request.Answer} (reached : ReachedBy directory history)
      (ok : (directory.answer request).1 = .ok answer) :
      ReachedBy (directory.answer request).2 (history ++ [request])

/-- Every agent of a directory is what the requests to it have made of it. -/
theorem find?_of_reachedBy {history : List AgentRequest} (reached : directory.ReachedBy history)
    (identity : AgentIdentity) :
    directory.find? identity =
      agentAfter (history.filter fun request => request.identity = identity) := by
  induction reached with
  | begun capacity => rfl
  | @answered directory history request answer reached ok inductionHypothesis =>
    by_cases same : request.identity = identity
    · subst same
      have running (agent : Agent)
          (found : directory.find? request.identity = some agent) : agent.running = true :=
        running_of_agentAfter (inductionHypothesis ▸ found)
      rw [find?_answer_self running (canTake_of_ok ok), inductionHypothesis]
      simp [List.filter_append, agentAfter_append_singleton]
    · rw [find?_answer_other (Ne.symm same), inductionHypothesis]
      simp [List.filter_append, same]

theorem running_of_reachedBy {history : List AgentRequest} (reached : directory.ReachedBy history)
    {identity : AgentIdentity} {agent : Agent} (found : directory.find? identity = some agent) :
    agent.running = true :=
  running_of_agentAfter ((find?_of_reachedBy reached identity).symm.trans found)

/-- The agents of a directory are those that have been written to. -/
theorem isSome_find?_iff_written {history : List AgentRequest}
    (reached : directory.ReachedBy history) (identity : AgentIdentity) :
    (directory.find? identity).isSome ↔
      ∃ location state, AgentRequest.write identity location state ∈ history := by
  rw [find?_of_reachedBy reached, isSome_agentAfter_iff]
  constructor
  · rintro ⟨other, location, state, member⟩
    obtain ⟨inHistory, same⟩ := List.mem_filter.1 member
    obtain rfl : other = identity := of_decide_eq_true same
    exact ⟨location, state, inHistory⟩
  · rintro ⟨location, state, member⟩
    exact ⟨identity, location, state, List.mem_filter.2 ⟨member, by simp [AgentRequest.identity]⟩⟩

end Directory

end SessionForge
