/-
Traffic that is in order stays in order. There is one lemma for each part of the order
(`Traffic.Orderly`): for one agent (`agents_of_step`), for the requests that lie at the agents
(`letters_of_step`), for what is told at once (`told_of_step`) and for what the processes go on
with (`resumed_of_step`). From these, `orderly_of_step` is what one step preserves and
`orderly_of_run?` is what a whole run preserves.
-/

import SessionForge.Proofs.Agent.Steps

namespace SessionForge

/-! ### One agent -/

namespace AgentInOrder

variable {identity : AgentIdentity} {history : List TrafficEvent} {agent : Option Agent}
  {mailbox : Mailbox} {capacity : Nat}
  (inOrder : AgentInOrder identity history agent mailbox capacity)

include inOrder

/-- What does not concern an agent leaves it in order. -/
theorem elsewhere {events : List TrafficEvent} (admitted : admittedTo identity events = [])
    (answered : answeredBy identity events = []) (created : timesCreated identity events = 0) :
    AgentInOrder identity (history ++ events) agent mailbox capacity where
  served := by
    rw [admittedTo_append, admitted, answeredBy_append, answered]
    simpa only [List.append_nil] using inOrder.served
  absent none := by
    rw [admittedTo_append, admitted, List.append_nil]
    exact inOrder.absent none
  first := by
    rw [admittedTo_append, admitted, List.append_nil]
    exact inOrder.first
  created := by rw [timesCreated_append, created, inOrder.created, Nat.add_zero]
  room := inOrder.room

/-- The first write makes the agent and is answered. -/
theorem make (absent : agent = none) {sender : Nat} {location : LocationHint}
    {state : SessionState} :
    AgentInOrder identity
      (history ++ [.admitted ⟨sender, .write identity location state⟩, .created identity,
        .answered sender (.write identity location state) (.ok ())])
      (some ⟨location, state, true⟩) mailbox capacity where
  served := by
    obtain ⟨served, admitted, answered, -⟩ := inOrder.served
    obtain ⟨isEmpty, unwritten⟩ := inOrder.absent absent
    rw [unwritten] at admitted
    obtain ⟨rfl, -⟩ := List.append_eq_nil_iff.1 admitted.symm
    refine ⟨[⟨sender, .write identity location state⟩], ?_, ?_, rfl⟩
    · rw [admittedTo_append, unwritten, isEmpty]
      simp [admittedTo_cons, TrafficEvent.admitted?, AgentRequest.identity, Mailbox.inside,
        Mailbox.empty]
    · rw [answeredBy_append, answered]
      simp [answeredBy_cons, TrafficEvent.reply?, AgentRequest.identity, replies, repliesAfter,
        AgentRequest.replyOf]
  absent none := nomatch none
  first := by
    rw [admittedTo_append, (inOrder.absent absent).2]
    simp [admittedTo_cons, TrafficEvent.admitted?, AgentRequest.identity, AgentRequest.isWrite]
  created := by
    rw [timesCreated_append, inOrder.created, absent]
    simp [timesCreated, TrafficEvent.creates]
  room := inOrder.room

/-- A request is admitted behind those that are inside. -/
theorem enter {letter : Letter} {admitting : Mailbox} (present : agent.isSome)
    (addressed : letter.request.identity = identity)
    (inside : admitting.inside = mailbox.inside ++ [letter])
    (room : admitting.queue.length ≤ capacity) :
    AgentInOrder identity (history ++ [.admitted letter]) agent admitting capacity where
  served := by
    obtain ⟨served, admitted, answered, after⟩ := inOrder.served
    refine ⟨served, ?_, ?_, after⟩
    · rw [admittedTo_append, admitted, inside, List.append_assoc]
      simp [admittedTo_cons, TrafficEvent.admitted?, addressed]
    · rw [answeredBy_append, answered]
      simp [answeredBy_cons, TrafficEvent.reply?]
  absent none := by simp [none] at present
  first := by
    have written := inOrder.isSome_agentAfter
    have first := inOrder.first
    rw [admittedTo_append]
    cases earlier : admittedTo identity history with
    | nil =>
      rw [earlier, present] at written
      cases written
    | cons head rest =>
      rw [earlier] at first
      exact first
  created := by
    rw [timesCreated_append, inOrder.created]
    rfl
  room := room

/-- Requests move on, and none is admitted or answered. -/
theorem moveOn {moved : Mailbox} (present : agent.isSome) (inside : moved.inside = mailbox.inside)
    (room : moved.queue.length ≤ capacity) :
    AgentInOrder identity history agent moved capacity where
  served := by
    rw [inside]
    exact inOrder.served
  absent none := by simp [none] at present
  first := inOrder.first
  created := inOrder.created
  room := room

/-- The oldest request inside is answered. -/
theorem reply {letter : Letter} {replied : Mailbox} (present : agent.isSome)
    (addressed : letter.request.identity = identity)
    (inside : mailbox.inside = letter :: replied.inside)
    (room : replied.queue.length ≤ capacity) :
    AgentInOrder identity
      (history ++ [.answered letter.sender letter.request (letter.request.replyOf agent)])
      (letter.request.applyTo agent) replied capacity where
  served := by
    obtain ⟨served, admitted, answered, after⟩ := inOrder.served
    refine ⟨served ++ [letter], ?_, ?_, ?_⟩
    · rw [admittedTo_append, admitted, inside]
      simp [admittedTo_cons, TrafficEvent.admitted?]
    · rw [answeredBy_append, answered, replies_append]
      simp [answeredBy_cons, TrafficEvent.reply?, addressed, repliesAfter, after]
    · rw [List.map_append, List.map_singleton, agentAfter_append_singleton, after]
  absent none := by
    obtain ⟨agent, rfl⟩ := Option.isSome_iff_exists.1 present
    cases request : letter.request with
    | isInitialized | read | write => simp [request, AgentRequest.applyTo] at none
  first := by
    rw [admittedTo_append]
    simpa [admittedTo_cons, TrafficEvent.admitted?] using inOrder.first
  created := by
    obtain ⟨agent, rfl⟩ := Option.isSome_iff_exists.1 present
    rw [timesCreated_append, inOrder.created]
    cases request : letter.request with
    | isInitialized | read | write =>
      simp [AgentRequest.applyTo, timesCreated, TrafficEvent.creates]
  room := room

end AgentInOrder

/-! ### The requests that lie at the agents -/

namespace LettersMatch

variable {α : Type} {mailboxes : AgentIdentity → Mailbox} {processes : List (Process α)}
  (letters : LettersMatch mailboxes processes)

include letters

/-- A process that does not wait has no request anywhere. -/
theorem ne_of_mem {sender : Nat} {process : Process α} {identity : AgentIdentity} {letter : Letter}
    (current : processes[sender]? = some process)
    (free : ∀ request next, process ≠ .waiting request next)
    (member : letter ∈ (mailboxes identity).letters) : letter.sender ≠ sender := by
  rintro rfl
  obtain ⟨-, next, waits⟩ := letters.waits member
  rw [current] at waits
  exact free _ next (Option.some.inj waits)

/-- A process that does not wait goes on, and does not wait then either. -/
theorem goOn {sender : Nat} {process later : Process α}
    (current : processes[sender]? = some process)
    (free : ∀ request next, process ≠ .waiting request next)
    (freeLater : ∀ request next, later ≠ .waiting request next) :
    LettersMatch mailboxes (processes.set sender later) where
  waits member := by
    obtain ⟨addressed, next, waits⟩ := letters.waits member
    refine ⟨addressed, next, ?_⟩
    rw [List.getElem?_set_ne (letters.ne_of_mem current free member).symm]
    exact waits
  once := letters.once
  carried {other request next} waits := by
    by_cases same : sender = other
    · subst same
      rw [List.getElem?_set_self (List.getElem?_eq_some_iff.1 current).1] at waits
      exact absurd (Option.some.inj waits) (freeLater _ _)
    · rw [List.getElem?_set_ne same] at waits
      exact letters.carried waits

/-- A process that does not wait sends a request, and waits from then on. -/
theorem post {sender : Nat} {request : AgentRequest} {next : request.Answer → AgentTask α}
    {process : Process α} {mailbox : Mailbox} (current : processes[sender]? = some process)
    (free : ∀ request next, process ≠ .waiting request next)
    (posted : mailbox.letters = (mailboxes request.identity).letters ++ [⟨sender, request⟩]) :
    LettersMatch (fun other => if other = request.identity then mailbox else mailboxes other)
      (processes.set sender (.waiting request next)) where
  waits {identity letter} member := by
    have old {identity : AgentIdentity} (member : letter ∈ (mailboxes identity).letters) :
        letter.request.identity = identity ∧ ∃ after,
          (processes.set sender (.waiting request next))[letter.sender]? =
            some (.waiting letter.request after) := by
      obtain ⟨addressed, after, waits⟩ := letters.waits member
      refine ⟨addressed, after, ?_⟩
      rw [List.getElem?_set_ne (letters.ne_of_mem current free member).symm]
      exact waits
    split at member
    · next same =>
      subst same
      rw [posted] at member
      rcases List.mem_append.1 member with earlier | new
      · exact old earlier
      · obtain rfl := List.mem_singleton.1 new
        exact ⟨rfl, next, List.getElem?_set_self (List.getElem?_eq_some_iff.1 current).1⟩
    · exact old member
  once identity := by
    split
    · next same =>
      rw [posted, List.map_append, List.nodup_append]
      refine ⟨letters.once _, List.pairwise_singleton _ _, fun earlier member new isNew => ?_⟩
      obtain ⟨letter, inMailbox, rfl⟩ := List.mem_map.1 member
      obtain rfl := List.mem_singleton.1 isNew
      exact letters.ne_of_mem current free inMailbox
    · exact letters.once identity
  carried {other asked after} waits := by
    by_cases same : sender = other
    · subst same
      rw [List.getElem?_set_self (List.getElem?_eq_some_iff.1 current).1] at waits
      obtain ⟨rfl, -⟩ := Process.waiting.inj (Option.some.inj waits)
      rw [if_pos rfl, posted]
      exact List.mem_append_right _ (List.mem_singleton_self _)
    · rw [List.getElem?_set_ne same] at waits
      have member := letters.carried waits
      split
      · next here =>
        rw [posted, ← here]
        exact List.mem_append_left _ member
      · exact member

/-- Requests move on at an agent. -/
theorem moveOn {identity : AgentIdentity} {mailbox : Mailbox}
    (moved : mailbox.letters = (mailboxes identity).letters) :
    LettersMatch (fun other => if other = identity then mailbox else mailboxes other)
      processes := by
  have same : ∀ other, (if other = identity then mailbox else mailboxes other).letters =
      (mailboxes other).letters := by
    intro other
    split
    · next here => rw [moved, here]
    · rfl
  exact {
    waits := fun member => letters.waits (same _ ▸ member)
    once := fun other => (same other).symm ▸ letters.once other
    carried := fun waits => (same _).symm ▸ letters.carried waits }

/-- The oldest request at an agent is answered, and its process goes on. -/
theorem reply {identity : AgentIdentity} {letter : Letter} {mailbox : Mailbox}
    {later : Process α} (oldest : (mailboxes identity).letters = letter :: mailbox.letters)
    (freeLater : ∀ request next, later ≠ .waiting request next) :
    LettersMatch (fun other => if other = identity then mailbox else mailboxes other)
      (processes.set letter.sender later) := by
  have isThere : letter ∈ (mailboxes identity).letters := by
    rw [oldest]
    exact List.mem_cons_self
  obtain ⟨addressed, next, current⟩ := letters.waits isThere
  have rest : ((letter :: mailbox.letters).map Letter.sender).Nodup :=
    oldest ▸ letters.once identity
  obtain ⟨notAgain, onceRest⟩ := List.nodup_cons.1 rest
  -- the sender of the oldest request has no other, neither there nor elsewhere
  have ne {other : AgentIdentity} {remaining : Letter}
      (member : remaining ∈ (if other = identity then mailbox else mailboxes other).letters) :
      remaining ∈ (mailboxes other).letters ∧ letter.sender ≠ remaining.sender := by
    split at member
    · next here =>
      refine ⟨here ▸ oldest ▸ List.mem_cons_of_mem _ member, fun same => notAgain ?_⟩
      exact same ▸ List.mem_map_of_mem member
    · next elsewhere =>
      refine ⟨member, fun same => elsewhere ?_⟩
      obtain ⟨there, after, waits⟩ := letters.waits member
      rw [← same, current] at waits
      obtain ⟨request, -⟩ := Process.waiting.inj (Option.some.inj waits)
      rw [← there, ← request, addressed]
  exact {
    waits := fun member => by
      obtain ⟨old, different⟩ := ne member
      obtain ⟨there, after, waits⟩ := letters.waits old
      exact ⟨there, after, (List.getElem?_set_ne different).trans waits⟩
    once := fun other => by
      split
      · exact onceRest
      · exact letters.once other
    carried := fun {sender request after} waits => by
      by_cases same : letter.sender = sender
      · subst same
        rw [List.getElem?_set_self (List.getElem?_eq_some_iff.1 current).1] at waits
        exact absurd (Option.some.inj waits) (freeLater _ _)
      · rw [List.getElem?_set_ne same] at waits
        have member := letters.carried waits
        split
        · next here =>
          rw [here, oldest] at member
          refine (List.mem_cons.1 member).resolve_left fun isOldest => same ?_
          rw [← isOldest]
        · exact member }

end LettersMatch

/-! ### What the processes hear -/

section Hear

variable {α : Type} {sender other : Nat}

theorem hear_of_other (task : AgentTask α) (different : sender ≠ other) :
    (∀ request result, task.hear other (.answered sender request result) = some task) ∧
      (∀ request result, task.hear other (.told sender request result) = some task) ∧
      ∀ token, task.hear other (.minted sender token) = some task := by
  simp [AgentTask.hear, different]

@[simp] theorem hear_told_self (request : AgentRequest)
    (result : Except AgentError request.Answer) (next : request.Answer → AgentTask α) :
    (AgentTask.asking request next).hear sender (.told sender request result) =
      some (.resume next result) := by
  simp [AgentTask.hear]

@[simp] theorem hear_answered_self (request : AgentRequest)
    (result : Except AgentError request.Answer) (next : request.Answer → AgentTask α) :
    (AgentTask.asking request next).hear sender (.answered sender request result) =
      some (.resume next result) := by
  simp [AgentTask.hear]

@[simp] theorem hear_minted_self (token : String) (next : String → AgentTask α) :
    (AgentTask.minting next).hear sender (.minted sender token) = some (next token) := by
  simp [AgentTask.hear]

@[simp] theorem hear_admitted (task : AgentTask α) (letter : Letter) :
    task.hear other (.admitted letter) = some task :=
  rfl

@[simp] theorem hear_created (task : AgentTask α) (identity : AgentIdentity) :
    task.hear other (.created identity) = some task :=
  rfl

/-- What all processes hear of some events, if only one of them changes. -/
theorem heard_of_set {processes : List (Process α)} {process later : Process α}
    {events : List TrafficEvent} (current : processes[sender]? = some process)
    (heard : events.foldlM (AgentTask.hear sender) process.task = some later.task)
    (notOthers : ∀ other, sender ≠ other → ∀ task : AgentTask α,
      events.foldlM (AgentTask.hear other) task = some task) (other : Nat) :
    (processes.set sender later)[other]?.map Process.task =
      (processes[other]?.map Process.task).bind fun task =>
        events.foldlM (AgentTask.hear other) task := by
  by_cases same : sender = other
  · subst same
    rw [List.getElem?_set_self (List.getElem?_eq_some_iff.1 current).1, current]
    exact heard.symm
  · rw [List.getElem?_set_ne same]
    cases processes[other]? with
    | none => rfl
    | some process => exact (notOthers other same process.task).symm

end Hear

/-! ### One step -/

/-- An event that is in a longer history and is not new was there before. -/
theorem prefix_of_prefix_append {before history events : List TrafficEvent} {event : TrafficEvent}
    (isPrefix : before ++ [event] <+: history ++ events) (notNew : event ∉ events) :
    before ++ [event] <+: history := by
  obtain ⟨after, split⟩ := isPrefix
  rcases List.append_eq_append_iff.1 split with ⟨rest, shorter, -⟩ | ⟨rest, longer, new⟩
  · exact ⟨rest, shorter.symm⟩
  · rcases List.eq_nil_or_concat rest with rfl | ⟨start, last, rfl⟩
    · exact ⟨[], by rw [longer]; simp⟩
    · rw [List.concat_eq_append, ← List.append_assoc] at longer
      obtain ⟨-, same⟩ := List.append_inj' longer rfl
      obtain rfl := (List.cons.inj same).1
      exact absurd (by rw [new]; simp) notNew

namespace Traffic

variable {α : Type} {capacity : Nat} {tasks : List (AgentTask α)} {traffic after : Traffic α}

theorem letters_of_step (letters : LettersMatch traffic.mailboxes traffic.processes)
    (step : Step traffic after) : LettersMatch after.mailboxes after.processes := by
  cases step with
  | told asking _ => exact letters.goOn asking (by simp) (by simp)
  | created asking _ _ => exact letters.goOn asking (by simp) (by simp)
  | found asking _ => exact letters.goOn asking (by simp) (by simp)
  | sent bound first _ =>
    refine letters.post bound (by simp) ?_
    simp [Mailbox.letters, Mailbox.inside, first]
  | delayed bound =>
    refine letters.post bound (by simp) ?_
    simp [Mailbox.letters, Mailbox.inside]
  | letIn oldest _ =>
    refine letters.moveOn ?_
    simp [Mailbox.letters, Mailbox.inside, oldest]
  | taken idle oldest =>
    refine letters.moveOn ?_
    simp [Mailbox.letters, Mailbox.inside, idle, oldest]
  | replied taken _ =>
    refine letters.reply ?_ (by simp)
    simp [Mailbox.letters, Mailbox.inside, taken]
  | minted minting => exact letters.goOn minting (by simp) (by simp)
  | none => exact letters

section Orderly

variable (orderly : traffic.Orderly capacity tasks)

include orderly

theorem capacity_of_step (step : Step traffic after) :
    after.directory.mailboxCapacity = max capacity 1 := by
  cases step with
  | replied _ _ => exact Directory.mailboxCapacity_answer.trans orderly.capacity_eq
  | told | created | found | sent | delayed | letIn | taken | minted | none =>
    exact orderly.capacity_eq

theorem resumed_of_step (step : Step traffic after) (sender : Nat) :
    after.processes[sender]?.map Process.task =
      tasks[sender]?.bind fun task => after.history.foldlM (AgentTask.hear sender) task := by
  have goOn {events history : List TrafficEvent} {processes : List (Process α)}
      (extended : history = traffic.history ++ events)
      (heard : processes[sender]?.map Process.task =
        (traffic.processes[sender]?.map Process.task).bind fun task =>
          events.foldlM (AgentTask.hear sender) task) :
      processes[sender]?.map Process.task = tasks[sender]?.bind fun task =>
        history.foldlM (AgentTask.hear sender) task := by
    rw [extended, heard, orderly.resumed, Option.bind_assoc]
    simp only [List.foldlM_append, Option.bind_eq_bind]
  cases step with
  | told asking _ =>
    refine goOn rfl (heard_of_set asking ?_ ?_ sender)
    · simp [Process.task]
    · intro other different task
      simp [(hear_of_other task different).2.1]
  | created asking _ _ =>
    refine goOn rfl (heard_of_set asking ?_ ?_ sender)
    · simp [Process.task, AgentTask.resume]
    · intro other different task
      simp [(hear_of_other task different).1]
  | found asking _ =>
    exact goOn (List.append_nil _).symm (heard_of_set asking rfl (fun _ _ _ => rfl) sender)
  | sent bound _ _ => exact goOn rfl (heard_of_set bound rfl (fun _ _ _ => rfl) sender)
  | delayed bound =>
    exact goOn (List.append_nil _).symm (heard_of_set bound rfl (fun _ _ _ => rfl) sender)
  | letIn _ _ =>
    refine goOn rfl ?_
    simp only [record, setMailbox]
    cases traffic.processes[sender]? <;> rfl
  | taken _ _ => exact orderly.resumed sender
  | replied _ waits =>
    refine goOn rfl (heard_of_set waits ?_ ?_ sender)
    · simp [Process.task]
    · intro other different task
      simp [(hear_of_other task different).1]
  | minted minting =>
    refine goOn rfl (heard_of_set minting ?_ ?_ sender)
    · simp [Process.task]
    · intro other different task
      simp [(hear_of_other task different).2.2]
  | none => exact orderly.resumed sender

/-- An agent answers what lies at it like a register. -/
theorem answer_of_mem {identity : AgentIdentity} {letter : Letter}
    (member : letter ∈ (traffic.mailboxes identity).letters) :
    (traffic.directory.answer letter.request).1 =
        letter.request.replyOf (traffic.directory.find? identity) ∧
      (traffic.directory.answer letter.request).2.find? identity =
        letter.request.applyTo (traffic.directory.find? identity) := by
  obtain rfl := (orderly.letters.waits member).1
  obtain ⟨agent, found⟩ := Option.isSome_iff_exists.1 (orderly.isSome_of_mem member)
  have inOrder := orderly.agents letter.request.identity
  rw [found] at inOrder
  have running (other : Agent)
      (same : traffic.directory.find? letter.request.identity = some other) :
      other.running = true := by
    rw [found] at same
    exact Option.some.inj same ▸ inOrder.running
  have canTake : traffic.directory.CanTake letter.request := fun _ =>
    Directory.mailboxCapacity_le_of_find? found
  exact ⟨Directory.answer_eq_replyOf running canTake, Directory.find?_answer_self running canTake⟩

theorem agents_of_step (step : Step traffic after) (identity : AgentIdentity) :
    AgentInOrder identity after.history (after.directory.find? identity)
      (after.mailboxes identity) (max capacity 1) := by
  have inOrder := orderly.agents identity
  cases step with
  | told _ _ => exact inOrder.elsewhere rfl rfl rfl
  | @created sender made location state next _ absent fits =>
    simp only [record, setProcess]
    by_cases here : made = identity
    · subst here
      rw [Directory.find?_put_self]
      exact inOrder.make absent
    · rw [Directory.find?_put_other _ _ _ _ (Ne.symm here)]
      refine inOrder.elsewhere ?_ ?_ ?_
      · simp [admittedTo_cons, TrafficEvent.admitted?, AgentRequest.identity, here]
      · simp [answeredBy_cons, TrafficEvent.reply?, AgentRequest.identity, here]
      · simp [timesCreated, TrafficEvent.creates, here]
  | found _ _ => exact inOrder
  | @sent sender request next bound first room =>
    simp only [record, setProcess, setMailbox]
    by_cases here : identity = request.identity
    · subst here
      rw [if_pos rfl]
      refine inOrder.enter (orderly.bound bound) rfl ?_ ?_
      · simp [Mailbox.inside]
      · rw [orderly.capacity_eq] at room
        rw [List.length_append]
        exact room
    · rw [if_neg here]
      refine inOrder.elsewhere ?_ rfl rfl
      simp [admittedTo_cons, TrafficEvent.admitted?, Ne.symm here]
  | @delayed sender request next bound =>
    simp only [setProcess, setMailbox]
    split
    · next here =>
      subst here
      exact inOrder.moveOn (orderly.bound bound) rfl inOrder.room
    · exact inOrder
  | @letIn there letter rest oldest room =>
    have member : letter ∈ (traffic.mailboxes there).letters := by
      simp [Mailbox.letters, oldest]
    have addressed := (orderly.letters.waits member).1
    simp only [record, setMailbox]
    by_cases here : identity = there
    · subst here
      rw [if_pos rfl]
      refine inOrder.enter (orderly.isSome_of_mem member) addressed ?_ ?_
      · simp [Mailbox.inside]
      · rw [orderly.capacity_eq] at room
        rw [List.length_append]
        exact room
    · rw [if_neg here]
      refine inOrder.elsewhere ?_ rfl rfl
      simp [admittedTo_cons, TrafficEvent.admitted?, addressed, Ne.symm here]
  | @taken there letter rest idle oldest =>
    have member : letter ∈ (traffic.mailboxes there).letters := by
      simp [Mailbox.letters, Mailbox.inside, oldest]
    simp only [setMailbox]
    split
    · next here =>
      subst here
      refine inOrder.moveOn (orderly.isSome_of_mem member) ?_ ?_
      · simp [Mailbox.inside, idle, oldest]
      · have room := inOrder.room
        rw [oldest, List.length_cons] at room
        exact Nat.le_of_succ_le room
    · exact inOrder
  | @replied there letter next taken _ =>
    have member : letter ∈ (traffic.mailboxes there).letters := by
      simp [Mailbox.letters, Mailbox.inside, taken]
    have addressed := (orderly.letters.waits member).1
    simp only [record, setProcess, setMailbox]
    by_cases here : identity = there
    · subst here
      have present := orderly.isSome_of_mem member
      rw [if_pos rfl, (answer_of_mem orderly member).1, (answer_of_mem orderly member).2]
      refine inOrder.reply present addressed ?_ inOrder.room
      simp [Mailbox.inside, taken]
    · rw [if_neg here, Directory.find?_answer_other (addressed ▸ here)]
      refine inOrder.elsewhere rfl ?_ rfl
      simp [answeredBy_cons, TrafficEvent.reply?, addressed, Ne.symm here]
  | minted _ => exact inOrder.elsewhere rfl rfl rfl
  | none => exact inOrder

/-- Agents never go away. -/
theorem isSome_of_step (step : Step traffic after) {identity : AgentIdentity}
    (present : (traffic.directory.find? identity).isSome) :
    (after.directory.find? identity).isSome := by
  cases step with
  | @created sender made _ _ _ _ absent _ =>
    simp only [record, setProcess]
    by_cases here : made = identity
    · subst here
      rw [absent] at present
      cases present
    · rw [Directory.find?_put_other _ _ _ _ (Ne.symm here)]
      exact present
  | @replied there letter _ taken _ =>
    have member : letter ∈ (traffic.mailboxes there).letters := by
      simp [Mailbox.letters, Mailbox.inside, taken]
    have addressed := (orderly.letters.waits member).1
    simp only [record, setProcess, setMailbox]
    by_cases here : identity = there
    · subst here
      rw [(answer_of_mem orderly member).2]
      obtain ⟨agent, found⟩ := Option.isSome_iff_exists.1 present
      rw [found]
      cases letter.request <;> rfl
    · rw [Directory.find?_answer_other (addressed ▸ here)]
      exact present
  | told | found | sent | delayed | letIn | taken | minted | none => exact present

theorem bound_of_step (step : Step traffic after) {sender : Nat} {request : AgentRequest}
    {next : request.Answer → AgentTask α}
    (bound : after.processes[sender]? = some (.bound request next)) :
    (after.directory.find? request.identity).isSome := by
  -- a process that is bound afterwards was bound before, or has just found the agent
  have old {other : Nat} {later : Process α}
      (isOld : (traffic.processes.set other later)[sender]? = some (.bound request next))
      (notLater : later ≠ .bound request next) :
      (after.directory.find? request.identity).isSome := by
    have before : traffic.processes[sender]? = some (.bound request next) := by
      by_cases same : other = sender
      · subst same
        rw [List.getElem?_set] at isOld
        simp only [if_true] at isOld
        split at isOld
        · exact absurd (Option.some.inj isOld) notLater
        · cases isOld
      · rwa [List.getElem?_set_ne same] at isOld
    exact isSome_of_step orderly step (orderly.bound before)
  cases step with
  | @found other asked after asking present =>
    by_cases same : Process.bound asked after = .bound request next
    · obtain ⟨rfl, -⟩ := Process.bound.inj same
      exact present
    · exact old bound same
  | told | created | sent | delayed | replied | minted => exact old bound (by simp)
  | letIn | taken | none => exact orderly.bound bound

theorem told_of_step (step : Step traffic after) {before : List TrafficEvent} {sender : Nat}
    {request : AgentRequest} {result : Except AgentError request.Answer}
    (isPrefix : before ++ [.told sender request result] <+: after.history) :
    AnsweredAtOnce (max capacity 1)
      ((admittedTo request.identity before).map Letter.request) request result := by
  have old {events : List TrafficEvent}
      (isPrefix : before ++ [.told sender request result] <+: traffic.history ++ events)
      (notNew : .told sender request result ∉ events) :
      AnsweredAtOnce (max capacity 1)
        ((admittedTo request.identity before).map Letter.request) request result :=
    orderly.told (prefix_of_prefix_append isPrefix notNew)
  cases step with
  | @told other asked _ answer _ answers =>
    rcases List.prefix_concat_iff.1 isPrefix with isNew | isOld
    · obtain ⟨rfl, same⟩ := List.append_inj' isNew rfl
      obtain ⟨rfl, rfl, rfl⟩ := TrafficEvent.told.inj (List.cons.inj same).1
      have known := (orderly.agents request.identity).isSome_agentAfter
      cases answers with
      | known identity =>
        rw [AgentRequest.identity] at known
        rw [← known]
        exact .known identity
      | notFound identity absent =>
        rw [AgentRequest.identity, absent] at known
        exact .notFound identity (Option.isSome_eq_false_iff.1 known |> Option.isNone_iff_eq_none.1)
      | refused identity location state tooLarge =>
        exact .refused identity location state (orderly.capacity_eq ▸ tooLarge)
    · exact orderly.told isOld
  | created | sent | letIn | replied | minted => exact old isPrefix (by simp)
  | found | delayed | taken | none => exact orderly.told isPrefix

/-- One step keeps traffic in order. -/
theorem orderly_of_step (step : Step traffic after) : after.Orderly capacity tasks where
  capacity_eq := capacity_of_step orderly step
  agents := agents_of_step orderly step
  letters := letters_of_step orderly.letters step
  bound := bound_of_step orderly step
  told := told_of_step orderly step
  resumed := resumed_of_step orderly step

end Orderly

/-! ### Whole runs -/

/-- Traffic that begins without agents is in order. -/
theorem orderly_start (capacity : Nat) (supply : TokenSupply) (tasks : List (AgentTask α)) :
    (start (.withCapacity capacity) supply tasks).Orderly capacity tasks where
  capacity_eq := rfl
  agents identity :=
    { served := ⟨[], rfl, rfl, rfl⟩
      absent := fun _ => ⟨rfl, rfl⟩
      first := fun _ none => nomatch none
      created := rfl
      room := Nat.zero_le _ }
  letters :=
    { waits := fun member => nomatch member
      once := fun _ => List.Pairwise.nil
      carried := fun {sender request next} waits => by
        simp only [start, List.getElem?_map, Option.map_eq_some_iff] at waits
        obtain ⟨_, -, waits⟩ := waits
        cases waits }
  bound {sender request next} bound := by
    simp only [start, List.getElem?_map, Option.map_eq_some_iff] at bound
    obtain ⟨_, -, bound⟩ := bound
    cases bound
  told isPrefix := by simp [start] at isPrefix
  resumed sender := by
    simp only [start, List.getElem?_map]
    cases tasks[sender]? <;> rfl

/-- A whole run keeps traffic in order. -/
theorem orderly_of_run? (orderly : traffic.Orderly capacity tasks) {moves : List TrafficMove}
    (ran : traffic.run? moves = some after) : after.Orderly capacity tasks := by
  induction moves generalizing traffic with
  | nil => exact Option.some.inj ran ▸ orderly
  | cons move rest inductionHypothesis =>
    rw [run?, List.foldlM_cons, Option.bind_eq_bind, Option.bind_eq_some_iff] at ran
    obtain ⟨between, moved, ran⟩ := ran
    exact inductionHypothesis (orderly_of_step orderly (step_of_step? orderly moved)) ran

end Traffic

end SessionForge
