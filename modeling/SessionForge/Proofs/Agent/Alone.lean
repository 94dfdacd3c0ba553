/-
What processes do to agents that never deal with what they write. Some processes are left out of a
run, and with them the agents whose identities they mint and to which alone they write. What they
ask of other agents takes room in a mailbox and time, but changes nothing. So the run can be made
without them: the moves that are left lead all other agents through the same states
(`exists_run_alone`).

The two runs are compared move by move (`Beside`). A process that is followed does the same in
both, until it turns to one of the agents that were left out. The mailbox of an agent that is
compared holds the same requests in the same order without those of the processes left out
(`Mailbox.Thinned`); it may have let in some of them earlier, because there was more room.
-/

import Mathlib.Data.List.Destutter
import SessionForge.Proofs.Agent.Preserved
import SessionForge.Proofs.Agent.Thinned

namespace SessionForge

/-! ### Tasks that are left out and tasks that are followed -/

namespace AgentTask

variable {α : Type}

/-- A task writes to no agents but its own. If it is free, it may ask others and mint identities,
which are its own then. -/
inductive Confined (own : AgentIdentity → Prop) (free : Bool) : AgentTask α → Prop where
  | finished (result : Except AgentError α) : Confined own free (.finished result)
  | asking {request : AgentRequest} {next : request.Answer → AgentTask α}
      (inside : own request.identity ∨ free = true ∧ request.isWrite = false)
      (rest : ∀ answer, Confined own free (next answer)) :
      Confined own free (.asking request next)
  | minting {next : String → AgentTask α} (isFree : free = true)
      (rest : ∀ token, own ⟨token⟩ → Confined own free (next token)) :
      Confined own free (.minting next)

/-- A task deals with other agents than some until it turns to these for good. -/
inductive Avoids (own : AgentIdentity → Prop) : AgentTask α → Prop where
  | asking {request : AgentRequest} {next : request.Answer → AgentTask α}
      (outside : ¬own request.identity) (rest : ∀ answer, Avoids own (next answer)) :
      Avoids own (.asking request next)
  | minting {next : String → AgentTask α} (rest : ∀ token, Avoids own (next token)) :
      Avoids own (.minting next)
  | turns {task : AgentTask α} (confined : Confined own false task) : Avoids own task

variable {own : AgentIdentity → Prop} {free : Bool}

theorem Confined.resume {β : Type} {next : β → AgentTask α}
    (rest : ∀ answer, Confined own free (next answer)) (result : Except AgentError β) :
    Confined own free (.resume next result) := by
  cases result with
  | ok answer => exact rest answer
  | error error => exact .finished _

theorem Avoids.resume {β : Type} {next : β → AgentTask α}
    (rest : ∀ answer, Avoids own (next answer)) (result : Except AgentError β) :
    Avoids own (.resume next result) := by
  cases result with
  | ok answer => exact rest answer
  | error error => exact .turns (.finished _)

end AgentTask

/-! ### Answers of directories that agree -/

namespace Directory

variable {directory other : Directory} {own : AgentIdentity → Prop} {request : AgentRequest}

/-- A request leaves alone whatever it does not write to. -/
theorem find?_answer_of_outside {identity : AgentIdentity} (outside : ¬own identity)
    (writes : own request.identity ∨ request.isWrite = false) :
    (directory.answer request).2.find? identity = directory.find? identity := by
  by_cases here : identity = request.identity
  · subst here
    have isRead := writes.resolve_left outside
    cases request with
    | isInitialized there => rfl
    | read there =>
      simp only [answer]
      split
      · rfl
      · split <;> rfl
    | write => cases isRead
  · exact find?_answer_other here

/-- Directories that have the same agent give the same answer for it, and have the same agent
afterwards. -/
theorem answer_congr (capacity : other.mailboxCapacity = directory.mailboxCapacity)
    (same : other.find? request.identity = directory.find? request.identity) :
    (other.answer request).1 = (directory.answer request).1 ∧
      (other.answer request).2.find? request.identity =
        (directory.answer request).2.find? request.identity := by
  cases request with
  | isInitialized identity =>
    exact ⟨congrArg (fun agent : Option Agent => Except.ok agent.isSome) same, same⟩
  | read identity =>
    simp only [AgentRequest.identity] at same ⊢
    simp only [answer, same]
    cases found : directory.find? identity with
    | none => exact ⟨rfl, same⟩
    | some agent =>
      simp only
      split <;> exact ⟨rfl, same⟩
  | write identity location state =>
    simp only [AgentRequest.identity] at same ⊢
    by_cases fits : directory.mailboxCapacity ≤ greatestMailboxCapacity
    · have fitsOther : other.mailboxCapacity ≤ greatestMailboxCapacity := capacity ▸ fits
      simp only [answer, same, dif_pos fits, dif_pos fitsOther]
      cases found : directory.find? identity with
      | none => exact ⟨rfl, by rw [find?_put_self, find?_put_self]⟩
      | some agent =>
        simp only
        split
        · exact ⟨rfl, by rw [find?_put_self, find?_put_self]⟩
        · exact ⟨rfl, same⟩
    · have fitsNot : ¬other.mailboxCapacity ≤ greatestMailboxCapacity := capacity ▸ fits
      rw [answer, dif_neg fitsNot, answer, dif_neg fits]
      exact ⟨rfl, same⟩

end Directory

/-! ### Tokens -/

/-- The token that one of some processes mints in an event. -/
def TrafficEvent.mintedBy? (who : Nat → Bool) : TrafficEvent → Option String
  | .minted sender token => if who sender then some token else none
  | .admitted _ | .created _ | .answered _ _ _ | .told _ _ _ => none

/-- The tokens that some processes have minted, the oldest first. -/
def mintedBy (who : Nat → Bool) (history : List TrafficEvent) : List String :=
  history.filterMap (TrafficEvent.mintedBy? who)

section Minted

variable (who : Nat → Bool) (history later : List TrafficEvent)

theorem mintedBy_append :
    mintedBy who (history ++ later) = mintedBy who history ++ mintedBy who later :=
  List.filterMap_append

theorem mintedBy_atOnce (sender : Nat) (request : AgentRequest)
    (result : Except AgentError request.Answer) :
    mintedBy who (TrafficEvent.atOnce sender request result) = [] := by
  rw [TrafficEvent.atOnce]
  split <;> rfl

theorem mintedBy_concat {sender : Nat} {token : String} (isWho : who sender = true) :
    mintedBy who (history ++ [.minted sender token]) = mintedBy who history ++ [token] := by
  rw [mintedBy_append]
  simp [mintedBy, TrafficEvent.mintedBy?, isWho]

theorem mintedBy_concat_of_silent {event : TrafficEvent} (silent : event.mintedBy? who = none) :
    mintedBy who (history ++ [event]) = mintedBy who history := by
  rw [mintedBy_append, mintedBy, mintedBy, List.filterMap_cons_none silent, List.filterMap_nil,
    List.append_nil]

end Minted

/-! ### Two runs side by side -/

namespace Traffic

variable {α : Type} {own : AgentIdentity → Prop} {leftOut : Nat → Bool} {tokens : Nat → String}
  {traffic after alone : Traffic α}

/-- The traffic of a run beside that of a run without some processes. -/
structure Beside (own : AgentIdentity → Prop) (leftOut : Nat → Bool) (tokens : Nat → String)
    (traffic alone : Traffic α) : Prop where
  capacity : alone.directory.mailboxCapacity = traffic.directory.mailboxCapacity
  agents : ∀ {identity}, ¬own identity →
    alone.directory.find? identity = traffic.directory.find? identity
  mailboxes : ∀ {identity}, ¬own identity →
    Mailbox.Thinned (!leftOut ·.sender) (traffic.mailboxes identity)
      (alone.mailboxes identity)
  /-- A process is confined, or it is followed and does the same in both runs. -/
  processes : ∀ {sender process}, traffic.processes[sender]? = some process →
    process.task.Confined own (leftOut sender) ∨
      leftOut sender = false ∧ alone.processes[sender]? = some process ∧ process.task.Avoids own
  token : alone.supply.token = tokens
  minted : alone.supply.minted = (mintedBy (!leftOut ·) traffic.history).length

/-- A process in a list with another in one place is the other, or was there before. -/
theorem process_of_set {processes : List (Process α)} {sender other : Nat}
    {changed process : Process α}
    (current : (processes.set sender changed)[other]? = some process) :
    sender = other ∧ process = changed ∨ sender ≠ other ∧ processes[other]? = some process := by
  by_cases same : sender = other
  · subst same
    obtain ⟨inside, -⟩ := List.getElem?_eq_some_iff.1 current
    rw [List.getElem?_set_self (by simpa using inside)] at current
    exact .inl ⟨rfl, (Option.some.inj current).symm⟩
  · rw [List.getElem?_set_ne same] at current
    exact .inr ⟨same, current⟩

section Beside

variable (beside : Beside own leftOut tokens traffic alone) {sender : Nat}
  {process changed : Process α}

include beside

namespace Beside

/-- A confined process goes on in one run only. -/
theorem aside (processes : after.processes = traffic.processes.set sender changed)
    (confined : changed.task.Confined own (leftOut sender))
    (capacity : after.directory.mailboxCapacity = traffic.directory.mailboxCapacity)
    (agents : ∀ {identity}, ¬own identity →
      after.directory.find? identity = traffic.directory.find? identity)
    (mailboxes : ∀ {identity}, ¬own identity →
      Mailbox.Thinned (!leftOut ·.sender) (after.mailboxes identity)
        (alone.mailboxes identity))
    (minted : mintedBy (!leftOut ·) after.history =
      mintedBy (!leftOut ·) traffic.history) :
    Beside own leftOut tokens after alone where
  capacity := beside.capacity.trans capacity.symm
  agents outside := (beside.agents outside).trans (agents outside).symm
  mailboxes := mailboxes
  processes current := by
    rw [processes] at current
    rcases process_of_set current with ⟨rfl, rfl⟩ | ⟨-, before⟩
    · exact .inl confined
    · exact beside.processes before
  token := beside.token
  minted := minted ▸ beside.minted

/-- A process that is followed goes on in both runs. -/
theorem together {other : Traffic α} (isFollowed : leftOut sender = false)
    (current : alone.processes[sender]? = some process)
    (processes : after.processes = traffic.processes.set sender changed)
    (processesAlone : other.processes = alone.processes.set sender changed)
    (avoids : changed.task.Avoids own)
    (capacity : other.directory.mailboxCapacity = after.directory.mailboxCapacity)
    (agents : ∀ {identity}, ¬own identity →
      other.directory.find? identity = after.directory.find? identity)
    (mailboxes : ∀ {identity}, ¬own identity →
      Mailbox.Thinned (!leftOut ·.sender) (after.mailboxes identity)
        (other.mailboxes identity))
    (token : other.supply.token = tokens)
    (minted : other.supply.minted =
      (mintedBy (!leftOut ·) after.history).length) :
    Beside own leftOut tokens after other where
  capacity := capacity
  agents := agents
  mailboxes := mailboxes
  processes isCurrent := by
    rw [processes] at isCurrent
    rcases process_of_set isCurrent with ⟨rfl, rfl⟩ | ⟨different, before⟩
    · refine .inr ⟨isFollowed, ?_, avoids⟩
      rw [processesAlone, List.getElem?_set_self (List.getElem?_eq_some_iff.1 current).1]
    · rw [processesAlone, List.getElem?_set_ne different]
      exact beside.processes before
  token := token
  minted := minted

/-- A mailbox changes in one run only. -/
theorem setMailbox_aside {identity : AgentIdentity} {mailbox : Mailbox}
    (thinned : ¬own identity → Mailbox.Thinned (!leftOut ·.sender) mailbox
      (alone.mailboxes identity)) {other : AgentIdentity} (outside : ¬own other) :
    Mailbox.Thinned (!leftOut ·.sender)
      ((traffic.setMailbox identity mailbox).mailboxes other) (alone.mailboxes other) := by
  simp only [setMailbox]
  split
  · next here => exact here ▸ thinned (here ▸ outside)
  · exact beside.mailboxes outside

/-- A mailbox changes in both runs. -/
theorem setMailbox_together {identity : AgentIdentity} {mailbox thin : Mailbox}
    (thinned : Mailbox.Thinned (!leftOut ·.sender) mailbox thin)
    {other : AgentIdentity} (outside : ¬own other) :
    Mailbox.Thinned (!leftOut ·.sender)
      ((traffic.setMailbox identity mailbox).mailboxes other)
      ((alone.setMailbox identity thin).mailboxes other) := by
  simp only [setMailbox]
  split
  · exact thinned
  · exact beside.mailboxes outside

/-- The answer to a request that both runs make changes the agents in both alike. -/
theorem answer_agents {request : AgentRequest} (outside : ¬own request.identity)
    {identity : AgentIdentity} (isCompared : ¬own identity) :
    (alone.directory.answer request).2.find? identity =
      (traffic.directory.answer request).2.find? identity := by
  by_cases here : identity = request.identity
  · rw [here]
    exact (Directory.answer_congr beside.capacity (beside.agents outside)).2
  · rw [Directory.find?_answer_other here, Directory.find?_answer_other here]
    exact beside.agents isCompared

end Beside

/-! ### Requests -/

omit beside in
/-- A request that is not sent is answered by the directory. -/
theorem ask_of_not_mailed {request : AgentRequest} (next : request.Answer → AgentTask α)
    (notMailed : ¬(request.isMailed && traffic.directory.contains request.identity) = true) :
    traffic.ask sender request next =
      ({ traffic with directory := (traffic.directory.answer request).2 }.setProcess sender
        (.active (.resume next (traffic.directory.answer request).1))).record
        (TrafficEvent.atOnce sender request (traffic.directory.answer request).1) := by
  rw [ask, if_neg notMailed]

theorem ask_aside {request : AgentRequest} {next : request.Answer → AgentTask α}
    (confined : (AgentTask.asking request next).Confined own (leftOut sender)) :
    Beside own leftOut tokens (traffic.ask sender request next) alone := by
  obtain - | ⟨inside, rest⟩ := id confined
  by_cases isMailed : (request.isMailed && traffic.directory.contains request.identity) = true
  · rw [ask, if_pos isMailed]
    exact beside.aside rfl confined rfl (fun _ => rfl) beside.mailboxes rfl
  · rw [ask_of_not_mailed next isMailed]
    refine beside.aside rfl (AgentTask.Confined.resume rest _) Directory.mailboxCapacity_answer
      (fun outside => Directory.find?_answer_of_outside outside (inside.imp_right And.right))
      beside.mailboxes ?_
    simp only [record, mintedBy_append, mintedBy_atOnce, List.append_nil]
    rfl

theorem ask_together {request : AgentRequest} {next : request.Answer → AgentTask α}
    (isFollowed : leftOut sender = false)
    (current : alone.processes[sender]? = some (.active (.asking request next)))
    (outside : ¬own request.identity) (rest : ∀ answer, (next answer).Avoids own) :
    Beside own leftOut tokens (traffic.ask sender request next)
      (alone.ask sender request next) := by
  have same := beside.agents outside
  have sameMailed : (request.isMailed && alone.directory.contains request.identity) =
      (request.isMailed && traffic.directory.contains request.identity) := by
    rw [Directory.contains, same]
    rfl
  by_cases isMailed : (request.isMailed && traffic.directory.contains request.identity) = true
  · rw [ask, if_pos isMailed, ask, if_pos (sameMailed.trans isMailed)]
    exact beside.together isFollowed current rfl rfl (.asking outside rest) beside.capacity
      beside.agents beside.mailboxes beside.token beside.minted
  · obtain ⟨sameAnswer, sameAgent⟩ := Directory.answer_congr beside.capacity same
    rw [ask_of_not_mailed next isMailed, ask_of_not_mailed next (sameMailed ▸ isMailed),
      sameAnswer]
    refine beside.together isFollowed current rfl rfl (AgentTask.Avoids.resume rest _) ?_ ?_
      beside.mailboxes beside.token ?_
    · exact Directory.mailboxCapacity_answer.trans
        (beside.capacity.trans Directory.mailboxCapacity_answer.symm)
    · exact beside.answer_agents outside
    · simp only [record, mintedBy_append, mintedBy_atOnce, List.append_nil]
      exact beside.minted

omit beside in
/-- A request that is sent comes to the mailbox of its agent, whether it gets in or waits. -/
theorem send_of_running {request : AgentRequest} (next : request.Answer → AgentTask α)
    (running : traffic.directory.isRunning request.identity = true) :
    ∃ events, (∀ who, mintedBy who events = []) ∧ traffic.send sender request next =
      (((traffic.setMailbox request.identity
        ((traffic.mailboxes request.identity).post traffic.directory.mailboxCapacity
          ⟨sender, request⟩)).setProcess sender (.waiting request next)).record events) := by
  rw [send, if_pos running]
  simp only
  split
  · exact ⟨_, fun _ => rfl, rfl⟩
  · exact ⟨[], fun _ => rfl, by simp [record, setProcess, setMailbox]⟩

theorem send_aside {request : AgentRequest} {next : request.Answer → AgentTask α}
    (confined : (AgentTask.asking request next).Confined own (leftOut sender)) :
    Beside own leftOut tokens (traffic.send sender request next) alone := by
  obtain - | ⟨inside, rest⟩ := id confined
  by_cases running : traffic.directory.isRunning request.identity = true
  · obtain ⟨events, silent, sent⟩ := send_of_running next running
    rw [sent]
    refine beside.aside rfl confined rfl (fun _ => rfl) (fun outside => ?_) ?_
    · refine beside.setMailbox_aside (fun outside => ?_) outside
      refine (beside.mailboxes outside).post_left_out ?_
      rw [(inside.resolve_left outside).1]
      rfl
    · simp only [record, mintedBy_append, silent, List.append_nil]
      rfl
  · rw [send, if_neg running]
    exact beside.aside rfl (AgentTask.Confined.resume rest (.error (Directory.stopped request))) rfl
      (fun _ => rfl) beside.mailboxes (mintedBy_concat_of_silent _ _ rfl)

theorem send_together {request : AgentRequest} {next : request.Answer → AgentTask α}
    (isFollowed : leftOut sender = false)
    (current : alone.processes[sender]? = some (.bound request next))
    (outside : ¬own request.identity) (rest : ∀ answer, (next answer).Avoids own) :
    Beside own leftOut tokens (traffic.send sender request next)
      (alone.send sender request next) := by
  have sameRunning : alone.directory.isRunning request.identity =
      traffic.directory.isRunning request.identity := by
    rw [Directory.isRunning, beside.agents outside]
    rfl
  by_cases running : traffic.directory.isRunning request.identity = true
  · obtain ⟨events, silent, sent⟩ := send_of_running next running
    obtain ⟨eventsAlone, -, sentAlone⟩ := send_of_running next (sameRunning.trans running)
    rw [sent, sentAlone, beside.capacity]
    refine beside.together isFollowed current rfl rfl (.asking outside rest) beside.capacity
      beside.agents (fun isCompared => ?_) beside.token ?_
    · refine beside.setMailbox_together ?_ isCompared
      exact (beside.mailboxes outside).post_kept (by simp [isFollowed])
    · simp only [record, mintedBy_append, silent, List.append_nil]
      exact beside.minted
  · rw [send, if_neg running, send, if_neg (sameRunning ▸ running)]
    refine beside.together isFollowed current rfl rfl
      (AgentTask.Avoids.resume rest (.error (Directory.stopped request))) beside.capacity
      beside.agents beside.mailboxes beside.token ?_
    exact beside.minted.trans (congrArg List.length (mintedBy_concat_of_silent _ _ rfl).symm)

/-! ### Tokens and mailboxes -/

theorem mint_aside {next : String → AgentTask α}
    (confined : (AgentTask.minting next).Confined own (leftOut sender))
    (mints : leftOut sender = true → own ⟨traffic.supply.mint.1⟩) :
    Beside own leftOut tokens (traffic.mint sender next) alone := by
  obtain - | - | ⟨isFree, rest⟩ := confined
  refine beside.aside rfl (rest _ (mints isFree)) rfl (fun _ => rfl) beside.mailboxes
    (mintedBy_concat_of_silent _ _ ?_)
  simp [TrafficEvent.mintedBy?, isFree]

theorem mint_together {next : String → AgentTask α} (isFollowed : leftOut sender = false)
    (current : alone.processes[sender]? = some (.active (.minting next)))
    (rest : ∀ token, (next token).Avoids own)
    (supplied : tokens (mintedBy (!leftOut ·) traffic.history).length =
      traffic.supply.mint.1) :
    Beside own leftOut tokens (traffic.mint sender next) (alone.mint sender next) := by
  have sameToken : alone.supply.mint.1 = traffic.supply.mint.1 := by
    rw [← supplied, ← beside.minted, ← beside.token]
    rfl
  have oneMore : (mintedBy (!leftOut ·)
      (traffic.history ++ [.minted sender traffic.supply.mint.1])).length =
      (mintedBy (!leftOut ·) traffic.history).length + 1 := by
    rw [mintedBy_concat _ _ (by simp [isFollowed]), List.length_append]
    rfl
  have alike : alone.mint sender next =
      (({ alone with supply := alone.supply.mint.2 }.setProcess sender
        (.active (next traffic.supply.mint.1))).record [.minted sender traffic.supply.mint.1]) := by
    rw [← sameToken]
    rfl
  rw [alike]
  refine beside.together isFollowed current rfl rfl (rest _) beside.capacity beside.agents
    beside.mailboxes beside.token ?_
  exact (congrArg Nat.succ beside.minted).trans oneMore.symm

/-- A mailbox and silent events are all that changes in one run. -/
theorem mailbox_aside {identity : AgentIdentity} {mailbox : Mailbox} {events : List TrafficEvent}
    (thinned : ¬own identity → Mailbox.Thinned (!leftOut ·.sender) mailbox
      (alone.mailboxes identity))
    (silent : ∀ who, mintedBy who events = []) :
    Beside own leftOut tokens ((traffic.setMailbox identity mailbox).record events) alone where
  capacity := beside.capacity
  agents := beside.agents
  mailboxes := beside.setMailbox_aside thinned
  processes := beside.processes
  token := beside.token
  minted := by
    simp only [record, mintedBy_append, silent, List.append_nil]
    exact beside.minted

/-- A mailbox and silent events are all that changes in both runs. -/
theorem mailbox_together {identity : AgentIdentity} {mailbox thin : Mailbox}
    {events eventsAlone : List TrafficEvent}
    (thinned : Mailbox.Thinned (!leftOut ·.sender) mailbox thin)
    (silent : ∀ who, mintedBy who events = []) :
    Beside own leftOut tokens ((traffic.setMailbox identity mailbox).record events)
      ((alone.setMailbox identity thin).record eventsAlone) where
  capacity := beside.capacity
  agents := beside.agents
  mailboxes := beside.setMailbox_together thinned
  processes := beside.processes
  token := beside.token
  minted := by
    simp only [record, mintedBy_append, silent, List.append_nil]
    exact beside.minted

/-- A request gets in, in both runs or in one only. -/
theorem beside_of_letIn? {identity : AgentIdentity} (letIn : traffic.letIn? identity = some after) :
    Beside own leftOut tokens after alone ∨
      ∃ other, alone.letIn? identity = some other ∧ Beside own leftOut tokens after other := by
  rw [letIn?, Option.bind_eq_bind, Option.bind_eq_some_iff] at letIn
  obtain ⟨⟨letter, mailbox⟩, letIn, same⟩ := letIn
  obtain rfl := Option.some.inj same
  by_cases inside : own identity
  · exact .inl (mailbox_aside beside (fun outside => absurd inside outside) fun _ => rfl)
  · rcases (beside.mailboxes inside).letIn letIn with thinned | ⟨thin, letInAlone, thinned⟩
    · exact .inl (mailbox_aside beside (fun _ => thinned) fun _ => rfl)
    · refine .inr ⟨(alone.setMailbox identity thin).record [.admitted letter], ?_,
        mailbox_together beside thinned fun _ => rfl⟩
      rw [letIn?, beside.capacity, letInAlone]
      rfl

/-- A request is taken, in both runs or in one only. -/
theorem beside_of_take? {identity : AgentIdentity} (take : traffic.take? identity = some after) :
    Beside own leftOut tokens after alone ∨
      ∃ other, alone.take? identity = some other ∧ Beside own leftOut tokens after other := by
  rw [take?, Option.bind_eq_bind, Option.bind_eq_some_iff] at take
  obtain ⟨mailbox, take, same⟩ := take
  obtain rfl := Option.some.inj same
  have recorded (current : Traffic α) : current.record [] = current := by
    simp [record]
  rw [← recorded (traffic.setMailbox identity mailbox)]
  by_cases inside : own identity
  · exact .inl (mailbox_aside beside (fun outside => absurd inside outside) fun _ => rfl)
  · rcases (beside.mailboxes inside).take take with thinned | ⟨thin, takeAlone, thinned⟩
    · exact .inl (mailbox_aside beside (fun _ => thinned) fun _ => rfl)
    · refine .inr ⟨(alone.setMailbox identity thin).record [], ?_,
        mailbox_together beside thinned fun _ => rfl⟩
      rw [take?, takeAlone, recorded]
      rfl

/-- A process that makes a request is confined, or it is followed and makes it of an agent that is
compared. -/
theorem Beside.confined_or_followed {request : AgentRequest} {next : request.Answer → AgentTask α}
    (current : traffic.processes[sender]? = some process)
    (isAsking : process.task = .asking request next) :
    (AgentTask.asking request next).Confined own (leftOut sender) ∨
      leftOut sender = false ∧ alone.processes[sender]? = some process ∧ ¬own request.identity ∧
        ∀ answer, (next answer).Avoids own := by
  rcases beside.processes current with confined | ⟨isFollowed, same, avoids⟩
  · exact .inl (isAsking ▸ confined)
  · rw [isAsking] at avoids
    cases avoids with
    | asking outside rest => exact .inr ⟨isFollowed, same, outside, rest⟩
    | turns confined => exact .inl (isFollowed ▸ confined)

omit beside in
/-- The answer of an agent that runs to the request that it has taken. -/
theorem reply?_of_taken {identity : AgentIdentity} {letter : Letter}
    {next : letter.request.Answer → AgentTask α}
    (taken : (traffic.mailboxes identity).taken = some letter)
    (waits : traffic.processes[letter.sender]? = some (.waiting letter.request next))
    (running : traffic.directory.isRunning identity = true) :
    traffic.reply? identity =
      some ((({ traffic with directory := (traffic.directory.answer letter.request).2 }.setMailbox
          identity { traffic.mailboxes identity with taken := none }).setProcess letter.sender
        (.active (.resume next (traffic.directory.answer letter.request).1))).record
        [.answered letter.sender letter.request (traffic.directory.answer letter.request).1]) := by
  simp only [reply?, taken, waits, running, Option.bind_eq_bind, Option.bind_some, if_true]
  rfl

/-- A request is answered, in both runs or in one only. -/
theorem beside_of_reply? {capacity : Nat} {tasks : List (AgentTask α)}
    (orderly : traffic.Orderly capacity tasks) {identity : AgentIdentity}
    (reply : traffic.reply? identity = some after) :
    Beside own leftOut tokens after alone ∨
      ∃ other, alone.reply? identity = some other ∧ Beside own leftOut tokens after other := by
  obtain ⟨letter, taken, -⟩ := Option.bind_eq_some_iff.1 reply
  have member : letter ∈ (traffic.mailboxes identity).letters := by
    simp [Mailbox.letters, Mailbox.inside, taken]
  obtain ⟨rfl, next, waits⟩ := orderly.letters.waits member
  have running := orderly.isRunning (orderly.isSome_of_mem member)
  rw [reply?_of_taken taken waits running] at reply
  obtain rfl := Option.some.inj reply
  rcases beside.confined_or_followed waits rfl with confined | ⟨isFollowed, same, outside, rest⟩
  · obtain - | ⟨inside, rest⟩ := confined
    refine .inl (beside.aside rfl (AgentTask.Confined.resume rest _)
      Directory.mailboxCapacity_answer
      (fun outside => Directory.find?_answer_of_outside outside (inside.imp_right And.right))
      (fun outside => ?_) (mintedBy_concat_of_silent _ _ rfl))
    refine beside.setMailbox_aside (fun outside => ?_) outside
    refine (beside.mailboxes outside).answer_left_out taken ?_
    rw [(inside.resolve_left outside).1]
    rfl
  · have takenAlone : (alone.mailboxes letter.request.identity).taken = some letter := by
      rw [(beside.mailboxes outside).taken, taken, Option.filter_some, isFollowed]
      rfl
    have runningAlone : alone.directory.isRunning letter.request.identity = true := by
      rw [Directory.isRunning, beside.agents outside]
      exact running
    refine .inr ⟨_, reply?_of_taken takenAlone same runningAlone, ?_⟩
    rw [(Directory.answer_congr beside.capacity (beside.agents outside)).1]
    refine beside.together isFollowed same rfl rfl (AgentTask.Avoids.resume rest _) ?_
      (beside.answer_agents outside) (fun isCompared => ?_) beside.token ?_
    · exact Directory.mailboxCapacity_answer.trans
        (beside.capacity.trans Directory.mailboxCapacity_answer.symm)
    · exact beside.setMailbox_together (beside.mailboxes outside).answer isCompared
    · exact beside.minted.trans (congrArg List.length (mintedBy_concat_of_silent _ _ rfl).symm)

/-- One move is made in both runs, or in one only. A process that is left out moves in one only. -/
theorem beside_of_step? {capacity : Nat} {tasks : List (AgentTask α)}
    (orderly : traffic.Orderly capacity tasks) {move : TrafficMove}
    (moved : traffic.step? move = some after)
    (mints : ∀ token ∈ mintedBy leftOut after.history, own ⟨token⟩)
    (supplied : ∀ index token,
      (mintedBy (!leftOut ·) after.history)[index]? = some token →
        tokens index = token) :
    Beside own leftOut tokens after alone ∨
      ∃ other, alone.step? move = some other ∧ Beside own leftOut tokens after other ∧
        ∀ sender, move = .advance sender → leftOut sender = false := by
  cases move with
  | letIn identity =>
    exact (beside_of_letIn? beside moved).imp_right fun ⟨other, movedAlone, beside⟩ =>
      ⟨other, movedAlone, beside, fun _ same => nomatch same⟩
  | take identity =>
    exact (beside_of_take? beside moved).imp_right fun ⟨other, movedAlone, beside⟩ =>
      ⟨other, movedAlone, beside, fun _ same => nomatch same⟩
  | reply identity =>
    exact (beside_of_reply? beside orderly moved).imp_right fun ⟨other, movedAlone, beside⟩ =>
      ⟨other, movedAlone, beside, fun _ same => nomatch same⟩
  | stop identity => exact .inl (eq_of_stop? moved ▸ beside)
  | advance sender =>
    have follow {other : Traffic α} (isFollowed : leftOut sender = false)
        (movedAlone : alone.step? (.advance sender) = some other)
        (beside : Beside own leftOut tokens after other) :
        Beside own leftOut tokens after alone ∨
          ∃ other, alone.step? (.advance sender) = some other ∧
            Beside own leftOut tokens after other ∧
            ∀ other, TrafficMove.advance sender = .advance other → leftOut other = false :=
      .inr ⟨other, movedAlone, beside, fun _ same => by cases same; exact isFollowed⟩
    simp only [step?, advance?] at moved
    split at moved
    · next request next asking =>
      obtain rfl := Option.some.inj moved
      rcases beside.confined_or_followed asking rfl with
        confined | ⟨isFollowed, same, outside, rest⟩
      · exact .inl (ask_aside beside confined)
      · refine follow isFollowed ?_ (ask_together beside isFollowed same outside rest)
        simp only [step?, advance?, same]
    · next next minting =>
      obtain rfl := Option.some.inj moved
      rcases beside.processes minting with confined | ⟨isFollowed, same, avoids⟩
      · refine .inl (mint_aside beside confined fun isLeftOut => mints _ ?_)
        exact mintedBy_concat leftOut traffic.history isLeftOut ▸
          List.mem_append_right _ (List.mem_singleton_self _)
      · cases avoids with
        | turns confined => cases confined with | minting isFree _ => cases isFree
        | minting rest =>
          refine follow isFollowed ?_ (mint_together beside isFollowed same rest ?_)
          · simp only [step?, advance?, same]
          · refine supplied _ _ ?_
            have isWho : (!leftOut sender) = true := by rw [isFollowed]; rfl
            exact mintedBy_concat (!leftOut ·) traffic.history isWho ▸ List.getElem?_concat_length
    · next request next bound =>
      obtain rfl := Option.some.inj moved
      rcases beside.confined_or_followed bound rfl with
        confined | ⟨isFollowed, same, outside, rest⟩
      · exact .inl (send_aside beside confined)
      · refine follow isFollowed ?_ (send_together beside isFollowed same outside rest)
        simp only [step?, advance?, same]
    · cases moved
    · cases moved
    · cases moved

end Beside

/-! ### Whole runs -/

/-- The agents that an identity has in the course of some moves: the one at the beginning, and the
one after each move. -/
def course (identity : AgentIdentity) (traffic : Traffic α) :
    List TrafficMove → List (Option Agent)
  | [] => [traffic.directory.find? identity]
  | move :: later =>
    traffic.directory.find? identity ::
      match traffic.step? move with
      | some after => course identity after later
      | none => []

/-- The agents that an identity has one after the other, each different from the one before. -/
def goesThrough (identity : AgentIdentity) (traffic : Traffic α) (moves : List TrafficMove) :
    List (Option Agent) :=
  (traffic.course identity moves).destutter (· ≠ ·)

theorem course_eq_cons (identity : AgentIdentity) (traffic : Traffic α)
    (moves : List TrafficMove) :
    ∃ later, traffic.course identity moves = traffic.directory.find? identity :: later := by
  cases moves with
  | nil => exact ⟨[], rfl⟩
  | cons move moves => exact ⟨_, rfl⟩

theorem goesThrough_cons {identity : AgentIdentity} {move : TrafficMove}
    {moves : List TrafficMove} (moved : traffic.step? move = some after) :
    traffic.goesThrough identity (move :: moves) =
      if after.directory.find? identity = traffic.directory.find? identity then
        after.goesThrough identity moves
      else traffic.directory.find? identity :: after.goesThrough identity moves := by
  obtain ⟨later, isLater⟩ := course_eq_cons identity after moves
  rw [goesThrough, goesThrough, course, moved]
  simp only [isLater, List.destutter_cons', List.destutter'_cons, ne_eq, ite_not]
  split
  · next same => rw [same, if_pos rfl]
  · next different => rw [if_neg (Ne.symm different)]

theorem history_prefix_of_step (step : Step traffic after) :
    traffic.history <+: after.history := by
  cases step with
  | found | delayed | taken | none => exact List.prefix_rfl
  | told | created | sent | letIn | replied | minted => exact List.prefix_append _ _

/-- Nothing that was recorded is forgotten. -/
theorem history_prefix_of_run? {capacity : Nat} {tasks : List (AgentTask α)}
    (orderly : traffic.Orderly capacity tasks) {moves : List TrafficMove}
    (ran : traffic.run? moves = some after) : traffic.history <+: after.history := by
  induction moves generalizing traffic with
  | nil => exact Option.some.inj ran ▸ List.prefix_rfl
  | cons move moves inductionHypothesis =>
    rw [run?, List.foldlM_cons, Option.bind_eq_bind, Option.bind_eq_some_iff] at ran
    obtain ⟨between, moved, ran⟩ := ran
    have step := step_of_step? orderly moved
    exact (history_prefix_of_step step).trans
      (inductionHypothesis (orderly_of_step orderly step) ran)

/-- In the beginning the two runs differ in their supplies only. -/
theorem beside_start {directory : Directory} {supply : TokenSupply} {tasks : List (AgentTask α)}
    (confined : ∀ {sender task}, tasks[sender]? = some task → leftOut sender = true →
      task.Confined own true)
    (avoids : ∀ {sender task}, tasks[sender]? = some task → leftOut sender = false →
      task.Avoids own) :
    Beside own leftOut tokens (start directory supply tasks)
      (start directory ⟨tokens, 0⟩ tasks) where
  capacity := rfl
  agents _ := rfl
  mailboxes _ := Mailbox.thinned_empty _
  processes {sender process} current := by
    have isMapped : (tasks.map Process.active)[sender]? = some process := current
    rw [List.getElem?_map, Option.map_eq_some_iff] at isMapped
    obtain ⟨task, isTask, rfl⟩ := isMapped
    cases isLeftOut : leftOut sender with
    | true => exact .inl (confined isTask isLeftOut)
    | false => exact .inr ⟨rfl, current, avoids isTask isLeftOut⟩
  token := rfl
  minted := rfl

/-- A run is made again without the processes that are left out, by the same moves and fewer. -/
theorem exists_run_alone {capacity : Nat} {tasks : List (AgentTask α)} {final : Traffic α}
    (orderly : traffic.Orderly capacity tasks)
    (beside : Beside own leftOut tokens traffic alone) {moves : List TrafficMove}
    (ran : traffic.run? moves = some final)
    (mints : ∀ token ∈ mintedBy leftOut final.history, own ⟨token⟩)
    (supplied : ∀ index token,
      (mintedBy (!leftOut ·) final.history)[index]? = some token →
        tokens index = token) :
    ∃ others other, others.Sublist moves ∧
      (∀ sender, leftOut sender = true → .advance sender ∉ others) ∧
      alone.run? others = some other ∧ Beside own leftOut tokens final other ∧
      ∀ {identity}, ¬own identity →
        alone.goesThrough identity others = traffic.goesThrough identity moves := by
  induction moves generalizing traffic alone with
  | nil =>
    obtain rfl := Option.some.inj ran
    refine ⟨[], alone, .slnil, fun _ _ => List.not_mem_nil, rfl, beside, fun outside => ?_⟩
    rw [goesThrough, course, beside.agents outside]
    rfl
  | cons move moves inductionHypothesis =>
    rw [run?, List.foldlM_cons, Option.bind_eq_bind, Option.bind_eq_some_iff] at ran
    obtain ⟨between, moved, ran⟩ := ran
    have orderlyBetween := orderly_of_step orderly (step_of_step? orderly moved)
    obtain ⟨more, all⟩ := history_prefix_of_run? orderlyBetween ran
    rcases beside_of_step? beside orderly moved
        (fun token member => mints token (by
          rw [← all, mintedBy_append]
          exact List.mem_append_left _ member))
        (fun index token isMinted => supplied index token (by
          rw [← all, mintedBy_append,
            List.getElem?_append_left (List.getElem?_eq_some_iff.1 isMinted).1]
          exact isMinted)) with
      besideBetween | ⟨otherBetween, movedAlone, besideBetween, isFollowed⟩
    · obtain ⟨others, other, sublist, without, ranAlone, besideFinal, same⟩ :=
        inductionHypothesis orderlyBetween besideBetween ran
      refine ⟨others, other, sublist.cons move, without, ranAlone, besideFinal, fun outside => ?_⟩
      rw [goesThrough_cons moved, ← beside.agents outside, ← besideBetween.agents outside,
        if_pos rfl, same outside]
    · obtain ⟨others, other, sublist, without, ranAlone, besideFinal, same⟩ :=
        inductionHypothesis orderlyBetween besideBetween ran
      refine ⟨move :: others, other, sublist.cons_cons move, ?_, ?_, besideFinal, fun outside => ?_⟩
      · intro sender isLeftOut member
        rcases List.mem_cons.1 member with isMove | later
        · rw [isFollowed sender isMove.symm] at isLeftOut
          cases isLeftOut
        · exact without sender isLeftOut later
      · rw [run?, List.foldlM_cons, movedAlone]
        exact ranAlone
      · rw [goesThrough_cons moved, goesThrough_cons movedAlone, beside.agents outside,
          besideBetween.agents outside, same outside]

end Traffic

end SessionForge
