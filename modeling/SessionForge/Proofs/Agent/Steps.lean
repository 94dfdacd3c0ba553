/-
The steps that orderly traffic takes. Traffic is orderly when every agent has answered its requests
like a register, in the order in which they were admitted, and when the processes that wait are
those whose requests lie at the agents (`Traffic.Orderly`). An orderly traffic takes only the steps
of `Traffic.Step`, in which no agent stops and nothing that was sent is dropped
(`step_of_step?`). What is said of all runs is then said once for each of these steps.
-/

import SessionForge.Proofs.Agent.History

namespace SessionForge

/-! ### Orderly traffic -/

/-- An agent has answered its requests in order, as a register would, and holds what the register
holds. Without an agent nothing was admitted, and what was admitted first is a write. -/
structure AgentInOrder (identity : AgentIdentity) (history : List TrafficEvent)
    (agent : Option Agent) (mailbox : Mailbox) (capacity : Nat) : Prop where
  served : ∃ served, admittedTo identity history = served ++ mailbox.inside ∧
    answeredBy identity history = replies served ∧
    agent = agentAfter (served.map Letter.request)
  absent : agent = none → mailbox = .empty ∧ admittedTo identity history = []
  first : ∀ letter ∈ (admittedTo identity history).head?, letter.request.isWrite = true
  created : timesCreated identity history = if agent.isSome then 1 else 0
  room : mailbox.queue.length ≤ capacity

theorem AgentInOrder.running {identity : AgentIdentity} {history : List TrafficEvent}
    {agent : Agent} {mailbox : Mailbox} {capacity : Nat}
    (inOrder : AgentInOrder identity history (some agent) mailbox capacity) :
    agent.running = true := by
  obtain ⟨served, -, -, after⟩ := inOrder.served
  exact running_of_agentAfter after.symm

/-- There is an agent as soon as a write was admitted. -/
theorem AgentInOrder.isSome_agentAfter {identity : AgentIdentity} {history : List TrafficEvent}
    {agent : Option Agent} {mailbox : Mailbox} {capacity : Nat}
    (inOrder : AgentInOrder identity history agent mailbox capacity) :
    (agentAfter ((admittedTo identity history).map Letter.request)).isSome = agent.isSome := by
  obtain ⟨served, admitted, -, after⟩ := inOrder.served
  cases agent with
  | none => simp [(inOrder.absent rfl).2]
  | some agent =>
    obtain ⟨other, location, state, member⟩ :=
      isSome_agentAfter_iff.1 (by rw [← after]; rfl : (agentAfter (served.map _)).isSome)
    refine isSome_agentAfter_iff.2 ⟨other, location, state, ?_⟩
    rw [admitted, List.map_append]
    exact List.mem_append_left _ member

/-- What lies at the agents is what processes wait for, each request at its agent and once. -/
structure LettersMatch {α : Type} (mailboxes : AgentIdentity → Mailbox)
    (processes : List (Process α)) : Prop where
  waits : ∀ {identity letter}, letter ∈ (mailboxes identity).letters →
    letter.request.identity = identity ∧
      ∃ next, processes[letter.sender]? = some (.waiting letter.request next)
  once : ∀ identity, ((mailboxes identity).letters.map Letter.sender).Nodup
  carried : ∀ {sender request next}, processes[sender]? = some (.waiting request next) →
    ⟨sender, request⟩ ∈ (mailboxes request.identity).letters

/-- How a request is answered that is never admitted, after some requests were: whether there is an
agent is known, no agent is found, or there can be none. -/
inductive AnsweredAtOnce (capacity : Nat) (earlier : List AgentRequest) :
    (request : AgentRequest) → Except AgentError request.Answer → Prop where
  | known (identity : AgentIdentity) :
      AnsweredAtOnce capacity earlier (.isInitialized identity)
        (.ok (agentAfter earlier).isSome)
  | notFound (identity : AgentIdentity) (unwritten : agentAfter earlier = none) :
      AnsweredAtOnce capacity earlier (.read identity) (.error (.notFound identity))
  | refused (identity : AgentIdentity) (location : LocationHint) (state : SessionState)
      (tooLarge : greatestMailboxCapacity < capacity) :
      AnsweredAtOnce capacity earlier (.write identity location state)
        (.error (.mailboxTooLarge identity))

/-- A task goes on with the answers to its own requests and the tokens minted for it. What does not
fit what the task waits for makes no task. -/
def AgentTask.hear {α : Type} (sender : Nat) (task : AgentTask α) :
    TrafficEvent → Option (AgentTask α)
  | .answered other request result | .told other request result =>
    if other = sender then
      match task with
      | .asking asked next =>
        if same : request = asked then some (.resume next (same ▸ result)) else none
      | .finished _ | .minting _ => none
    else some task
  | .minted other token =>
    if other = sender then
      match task with
      | .minting next => some (next token)
      | .finished _ | .asking _ _ => none
    else some task
  | .admitted _ | .created _ => some task

namespace Traffic

variable {α : Type}

/-- The traffic of some tasks that began without agents, and in which everything is in order. -/
structure Orderly (capacity : Nat) (tasks : List (AgentTask α)) (traffic : Traffic α) : Prop where
  capacity_eq : traffic.directory.mailboxCapacity = max capacity 1
  agents : ∀ identity, AgentInOrder identity traffic.history (traffic.directory.find? identity)
    (traffic.mailboxes identity) (max capacity 1)
  letters : LettersMatch traffic.mailboxes traffic.processes
  bound : ∀ {sender : Nat} {request : AgentRequest} {next : request.Answer → AgentTask α},
    traffic.processes[sender]? = some (.bound request next) →
      (traffic.directory.find? request.identity).isSome
  told : ∀ {before sender request result},
    before ++ [.told sender request result] <+: traffic.history →
      AnsweredAtOnce (max capacity 1)
        ((admittedTo request.identity before).map Letter.request) request result
  resumed : ∀ sender, traffic.processes[sender]?.map Process.task =
    tasks[sender]?.bind fun task => traffic.history.foldlM (AgentTask.hear sender) task

/-! ### Steps -/

/-- How a directory answers a request at once without a change. -/
inductive AnswersAtOnce (directory : Directory) :
    (request : AgentRequest) → Except AgentError request.Answer → Prop where
  | known (identity : AgentIdentity) :
      AnswersAtOnce directory (.isInitialized identity) (.ok (directory.find? identity).isSome)
  | notFound (identity : AgentIdentity) (absent : directory.find? identity = none) :
      AnswersAtOnce directory (.read identity) (.error (.notFound identity))
  | refused (identity : AgentIdentity) (location : LocationHint) (state : SessionState)
      (tooLarge : greatestMailboxCapacity < directory.mailboxCapacity) :
      AnswersAtOnce directory (.write identity location state)
        (.error (.mailboxTooLarge identity))

/-- The steps in which no agent has stopped. -/
inductive Step (traffic : Traffic α) : Traffic α → Prop where
  /-- A process is told an answer at once. -/
  | told {sender : Nat} {request : AgentRequest} {next : request.Answer → AgentTask α}
      {result : Except AgentError request.Answer}
      (asking : traffic.processes[sender]? = some (.active (.asking request next)))
      (answers : AnswersAtOnce traffic.directory request result) :
      Step traffic ((traffic.setProcess sender (.active (.resume next result))).record
        [.told sender request result])
  /-- A process makes an agent by its write. -/
  | created {sender : Nat} {identity : AgentIdentity} {location : LocationHint}
      {state : SessionState} {next : Unit → AgentTask α}
      (asking : traffic.processes[sender]? =
        some (.active (.asking (.write identity location state) next)))
      (absent : traffic.directory.find? identity = none)
      (fits : traffic.directory.mailboxCapacity ≤ greatestMailboxCapacity) :
      Step traffic
        (({ traffic with
            directory := traffic.directory.put identity ⟨location, state, true⟩ fits }.setProcess
          sender (.active (next ()))).record
          [.admitted ⟨sender, .write identity location state⟩, .created identity,
            .answered sender (.write identity location state) (.ok ())])
  /-- A process finds the agent of its request. -/
  | found {sender : Nat} {request : AgentRequest} {next : request.Answer → AgentTask α}
      (asking : traffic.processes[sender]? = some (.active (.asking request next)))
      (present : (traffic.directory.find? request.identity).isSome) :
      Step traffic (traffic.setProcess sender (.bound request next))
  /-- A request is sent and gets in at once. -/
  | sent {sender : Nat} {request : AgentRequest} {next : request.Answer → AgentTask α}
      (bound : traffic.processes[sender]? = some (.bound request next))
      (first : (traffic.mailboxes request.identity).waiting = [])
      (room : (traffic.mailboxes request.identity).queue.length <
        traffic.directory.mailboxCapacity) :
      Step traffic
        (((traffic.setMailbox request.identity
            { traffic.mailboxes request.identity with
              queue := (traffic.mailboxes request.identity).queue ++
                [⟨sender, request⟩] }).setProcess
          sender (.waiting request next)).record [.admitted ⟨sender, request⟩])
  /-- A request is sent and has to wait. -/
  | delayed {sender : Nat} {request : AgentRequest} {next : request.Answer → AgentTask α}
      (bound : traffic.processes[sender]? = some (.bound request next)) :
      Step traffic
        ((traffic.setMailbox request.identity
            { traffic.mailboxes request.identity with
              waiting :=
                (traffic.mailboxes request.identity).waiting ++ [⟨sender, request⟩] }).setProcess
          sender (.waiting request next))
  /-- A request that has waited gets in. -/
  | letIn {identity : AgentIdentity} {letter : Letter} {rest : List Letter}
      (oldest : (traffic.mailboxes identity).waiting = letter :: rest)
      (room : (traffic.mailboxes identity).queue.length < traffic.directory.mailboxCapacity) :
      Step traffic
        ((traffic.setMailbox identity
          { traffic.mailboxes identity with
            queue := (traffic.mailboxes identity).queue ++ [letter], waiting := rest }).record
          [.admitted letter])
  /-- An agent takes a request. -/
  | taken {identity : AgentIdentity} {letter : Letter} {rest : List Letter}
      (idle : (traffic.mailboxes identity).taken = none)
      (oldest : (traffic.mailboxes identity).queue = letter :: rest) :
      Step traffic
        (traffic.setMailbox identity
          { traffic.mailboxes identity with taken := some letter, queue := rest })
  /-- An agent answers a request. -/
  | replied {identity : AgentIdentity} {letter : Letter}
      {next : letter.request.Answer → AgentTask α}
      (taken : (traffic.mailboxes identity).taken = some letter)
      (waits : traffic.processes[letter.sender]? = some (.waiting letter.request next)) :
      Step traffic
        ((({ traffic with directory := (traffic.directory.answer letter.request).2 }.setMailbox
            identity { traffic.mailboxes identity with taken := none }).setProcess letter.sender
          (.active (.resume next (traffic.directory.answer letter.request).1))).record
          [.answered letter.sender letter.request (traffic.directory.answer letter.request).1])
  /-- A process mints a token. -/
  | minted {sender : Nat} {next : String → AgentTask α}
      (minting : traffic.processes[sender]? = some (.active (.minting next))) :
      Step traffic
        (({ traffic with supply := traffic.supply.mint.2 }.setProcess sender
          (.active (next traffic.supply.mint.1))).record [.minted sender traffic.supply.mint.1])
  /-- Nothing happens. -/
  | none : Step traffic traffic

/-! ### There are no other steps -/

section Inversion

variable {capacity : Nat} {tasks : List (AgentTask α)} {traffic after : Traffic α}
  (orderly : traffic.Orderly capacity tasks)

include orderly

theorem Orderly.isRunning {identity : AgentIdentity}
    (present : (traffic.directory.find? identity).isSome) :
    traffic.directory.isRunning identity = true := by
  obtain ⟨agent, found⟩ := Option.isSome_iff_exists.1 present
  have inOrder := orderly.agents identity
  rw [found] at inOrder
  rw [Directory.isRunning, found, Option.any_some, inOrder.running]

/-- What lies at an agent is not there without the agent. -/
theorem Orderly.isSome_of_mem {identity : AgentIdentity} {letter : Letter}
    (member : letter ∈ (traffic.mailboxes identity).letters) :
    (traffic.directory.find? identity).isSome := by
  cases found : traffic.directory.find? identity with
  | some agent => rfl
  | none =>
    rw [((orderly.agents identity).absent found).1] at member
    cases member

omit orderly in
theorem step_ask {sender : Nat} {request : AgentRequest} {next : request.Answer → AgentTask α}
    (asking : traffic.processes[sender]? = some (.active (.asking request next))) :
    Step traffic (traffic.ask sender request next) := by
  cases request with
  | isInitialized identity => exact .told asking (.known identity)
  | read identity =>
    cases found : traffic.directory.find? identity with
    | some agent =>
      have present : traffic.directory.contains identity = true := by
        rw [Directory.contains, found]
        rfl
      rw [ask, if_pos (by simp [AgentRequest.isMailed, AgentRequest.identity, present])]
      exact .found asking present
    | none =>
      rw [ask, if_neg (by simp [Directory.contains, AgentRequest.identity, found])]
      simp only [Directory.answer, found, TrafficEvent.atOnce, AgentRequest.isWrite]
      exact .told asking (.notFound identity found)
  | write identity location state =>
    cases found : traffic.directory.find? identity with
    | some agent =>
      have present : traffic.directory.contains identity = true := by
        rw [Directory.contains, found]
        rfl
      rw [ask, if_pos (by simp [AgentRequest.isMailed, AgentRequest.identity, present])]
      exact .found asking present
    | none =>
      rw [ask, if_neg (by simp [Directory.contains, AgentRequest.identity, found])]
      by_cases fits : traffic.directory.mailboxCapacity ≤ greatestMailboxCapacity
      · simp only [Directory.answer, found, dif_pos fits, TrafficEvent.atOnce]
        exact .created asking found fits
      · simp only [Directory.answer, dif_neg fits, TrafficEvent.atOnce]
        exact .told asking (.refused identity location state (Nat.lt_of_not_le fits))

theorem step_send {sender : Nat} {request : AgentRequest} {next : request.Answer → AgentTask α}
    (bound : traffic.processes[sender]? = some (.bound request next)) :
    Step traffic (traffic.send sender request next) := by
  rw [send, if_pos (orderly.isRunning (orderly.bound bound))]
  simp only
  split
  · next isOpen =>
    rw [Mailbox.post, if_pos isOpen]
    simp only [Mailbox.isOpen, Bool.and_eq_true, List.isEmpty_iff, decide_eq_true_eq] at isOpen
    exact .sent bound isOpen.1 isOpen.2
  · next isClosed =>
    rw [Mailbox.post, if_neg isClosed]
    exact .delayed bound

omit orderly in
theorem step_letIn {identity : AgentIdentity} (moved : traffic.letIn? identity = some after) :
    Step traffic after := by
  rw [letIn?, Option.bind_eq_bind, Option.bind_eq_some_iff] at moved
  obtain ⟨⟨letter, mailbox⟩, letIn, same⟩ := moved
  obtain rfl := Option.some.inj same
  simp only [Mailbox.letIn?] at letIn
  split at letIn
  · cases letIn
  · next oldest rest waiting =>
    split at letIn
    · next room =>
      cases letIn
      exact .letIn waiting room
    · cases letIn

omit orderly in
theorem step_take {identity : AgentIdentity} (moved : traffic.take? identity = some after) :
    Step traffic after := by
  rw [take?, Option.bind_eq_bind, Option.bind_eq_some_iff] at moved
  obtain ⟨mailbox, taken, same⟩ := moved
  obtain rfl := Option.some.inj same
  simp only [Mailbox.take?] at taken
  split at taken
  · next letter rest idle oldest =>
    cases taken
    exact .taken idle oldest
  · cases taken

theorem step_reply {identity : AgentIdentity} (moved : traffic.reply? identity = some after) :
    Step traffic after := by
  rw [reply?, Option.bind_eq_bind, Option.bind_eq_some_iff] at moved
  obtain ⟨letter, taken, replied⟩ := moved
  have member : letter ∈ (traffic.mailboxes identity).letters := by
    simp [Mailbox.letters, Mailbox.inside, taken]
  have running := orderly.isRunning (orderly.isSome_of_mem member)
  split at replied
  · next request next waits =>
    split at replied
    · next same =>
      subst same
      obtain rfl := Option.some.inj replied
      exact .replied taken waits
    · cases replied
  · cases replied
  · cases replied
  · cases replied

omit orderly in
/-- The directory can send to every agent that it has, so that none of them stops. -/
theorem eq_of_stop? {identity : AgentIdentity} (moved : traffic.stop? identity = some after) :
    after = traffic := by
  rw [stop?] at moved
  split at moved
  · next nobody =>
    have absent : traffic.directory.find? identity = none := by
      simp only [hasSender, Directory.contains, Bool.and_eq_true, Bool.not_eq_true',
        Bool.or_eq_false_iff] at nobody
      exact Option.isSome_eq_false_iff.1 nobody.2.1.1 |> Option.isNone_iff_eq_none.1
    obtain rfl := Option.some.inj moved
    have unchanged : traffic.directory.stop identity = traffic.directory := by
      simp only [Directory.stop]
      split
      · rfl
      · next agent found => rw [absent] at found; cases found
    rw [unchanged]
  · cases moved

omit orderly in
theorem step_stop {identity : AgentIdentity} (moved : traffic.stop? identity = some after) :
    Step traffic after :=
  eq_of_stop? moved ▸ .none

/-- Orderly traffic takes no step in which an agent has stopped. -/
theorem step_of_step? {move : TrafficMove} (moved : traffic.step? move = some after) :
    Step traffic after := by
  cases move with
  | advance sender =>
    simp only [step?, advance?] at moved
    split at moved
    · next asking => exact Option.some.inj moved ▸ step_ask asking
    · next minting => exact Option.some.inj moved ▸ .minted minting
    · next bound => exact Option.some.inj moved ▸ step_send orderly bound
    · cases moved
    · cases moved
    · cases moved
  | letIn identity => exact step_letIn moved
  | take identity => exact step_take moved
  | reply identity => exact step_reply orderly moved
  | stop identity => exact step_stop moved

end Inversion

end Traffic

end SessionForge
