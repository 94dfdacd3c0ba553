/-
This file says what processes get from agents, however their steps come in between each other. An
agent is made once, by the first write to it that is admitted. What it answers to the requests that
were admitted is what a register answers to them, in the order in which they were admitted, and
what it has not answered yet is still in its mailbox. What is answered at once agrees with the
writes admitted so far. A process goes on with the answers to its own requests and with nothing
else, and no request fails because an agent has stopped.

`run_sound` states this for every capacity of the mailboxes, all tasks and every run. Its last part
(`drained`) says that no request is stuck: moves of the agent alone answer everything that lies at
it.
-/

import SessionForge.Proofs.Agent.Preserved

namespace SessionForge

/-! ### Nothing is stuck -/

/-- The moves of one agent. -/
def TrafficMove.isOf (identity : AgentIdentity) : TrafficMove → Bool
  | .letIn other | .take other | .reply other => other = identity
  | .advance _ | .stop _ => false

/-- How many moves of an agent it takes to answer what lies at it. -/
def Mailbox.remaining (mailbox : Mailbox) : Nat :=
  mailbox.taken.toList.length + 2 * mailbox.queue.length + 3 * mailbox.waiting.length

namespace Traffic

variable {α : Type} {capacity : Nat} {tasks : List (AgentTask α)} {traffic after : Traffic α}

/-- As long as something lies at an agent, one of its moves brings an answer closer and passes over
nothing. -/
theorem exists_move (orderly : traffic.Orderly capacity tasks) {identity : AgentIdentity}
    (busy : traffic.mailboxes identity ≠ .empty) :
    ∃ move after, move.isOf identity = true ∧ traffic.step? move = some after ∧
      (after.mailboxes identity).remaining < (traffic.mailboxes identity).remaining ∧
      admittedTo identity after.history ++ (after.mailboxes identity).waiting =
        admittedTo identity traffic.history ++ (traffic.mailboxes identity).waiting := by
  have positive : 0 < traffic.directory.mailboxCapacity := traffic.directory.mailboxCapacity_pos
  obtain ⟨taken, queue, waiting, current⟩ : ∃ taken queue waiting,
      traffic.mailboxes identity = ⟨taken, queue, waiting⟩ := ⟨_, _, _, rfl⟩
  cases taken with
  | some letter =>
    have member : letter ∈ (traffic.mailboxes identity).letters := by
      simp [Mailbox.letters, Mailbox.inside, current]
    obtain ⟨-, next, waits⟩ := orderly.letters.waits member
    have running := orderly.isRunning (orderly.isSome_of_mem member)
    let answer := traffic.directory.answer letter.request
    refine ⟨.reply identity,
      (({ traffic with directory := answer.2 }.setMailbox identity
        ⟨none, queue, waiting⟩).setProcess letter.sender (.active (.resume next answer.1))).record
        [.answered letter.sender letter.request answer.1], decide_eq_true rfl, ?_, ?_, ?_⟩
    · simp only [step?, reply?, current, waits, running, Option.bind_eq_bind, Option.bind_some,
        if_true]
      rfl
    · simp [record, setProcess, setMailbox, Mailbox.remaining, current]
    · simp [record, setProcess, setMailbox, current, admittedTo_append, admittedTo_cons,
        TrafficEvent.admitted?]
  | none =>
    cases queue with
    | cons letter rest =>
      refine ⟨.take identity, traffic.setMailbox identity ⟨some letter, rest, waiting⟩,
        decide_eq_true rfl, ?_, ?_, ?_⟩
      · simp only [step?, take?, Mailbox.take?, current, Option.bind_eq_bind, Option.bind_some]
        rfl
      · simp only [setMailbox, if_true, Mailbox.remaining, current, Option.toList_some,
          Option.toList_none, List.length_cons, List.length_nil]
        omega
      · simp [setMailbox, current]
    | nil =>
      cases waiting with
      | nil => exact absurd current busy
      | cons letter rest =>
        have addressed : letter.request.identity = identity :=
          (orderly.letters.waits (by simp [Mailbox.letters, current])).1
        refine ⟨.letIn identity,
          (traffic.setMailbox identity ⟨none, [letter], rest⟩).record [.admitted letter],
          decide_eq_true rfl, ?_, ?_, ?_⟩
        · simp only [step?, letIn?, Mailbox.letIn?, current, List.length_nil, if_pos positive,
            Option.bind_eq_bind, Option.bind_some]
          rfl
        · simp only [record, setMailbox, if_true, Mailbox.remaining, current, Option.toList_none,
            List.length_cons, List.length_nil]
          omega
        · simp [record, setMailbox, current, admittedTo_append, admittedTo_cons,
            TrafficEvent.admitted?, addressed]

/-- Moves of an agent alone empty its mailbox. -/
theorem exists_run_empty (orderly : traffic.Orderly capacity tasks) (identity : AgentIdentity) :
    ∃ moves after, (∀ move ∈ moves, move.isOf identity = true) ∧
      traffic.run? moves = some after ∧ after.mailboxes identity = .empty ∧
      admittedTo identity after.history =
        admittedTo identity traffic.history ++ (traffic.mailboxes identity).waiting := by
  induction bound : (traffic.mailboxes identity).remaining using Nat.strongRecOn
    generalizing traffic with
  | ind remaining inductionHypothesis =>
    by_cases isEmpty : traffic.mailboxes identity = .empty
    · refine ⟨[], traffic, by simp, rfl, isEmpty, ?_⟩
      rw [isEmpty, Mailbox.empty, List.append_nil]
    · obtain ⟨move, between, isOf, moved, closer, kept⟩ := exists_move orderly isEmpty
      have orderlyBetween := orderly_of_step orderly (step_of_step? orderly moved)
      obtain ⟨moves, after, allOf, ran, emptied, admitted⟩ :=
        inductionHypothesis _ (bound ▸ closer) orderlyBetween rfl
      refine ⟨move :: moves, after, ?_, ?_, emptied, admitted.trans kept⟩
      · intro other member
        rcases List.mem_cons.1 member with rfl | later
        · exact isOf
        · exact allOf other later
      · rw [run?, List.foldlM_cons, moved]
        exact ran

/-! ### What processes get -/

/-- Everything is as if agents answered one request at a time. -/
structure Sound (capacity : Nat) (tasks : List (AgentTask α)) (traffic : Traffic α) : Prop where
  /-- An agent is made once, if it is there, and never otherwise. -/
  one_agent : ∀ identity, timesCreated identity traffic.history =
    if traffic.directory.contains identity then 1 else 0
  /-- What was admitted first is a write. -/
  first_write : ∀ identity, ∀ letter ∈ (admittedTo identity traffic.history).head?,
    letter.request.isWrite = true
  /-- What was admitted was answered in order, as a register answers it, or is still inside; and
  the agent is what the answered requests to it, and no others, have made of it. -/
  in_order : ∀ identity, ∃ served,
    admittedTo identity traffic.history = served ++ (traffic.mailboxes identity).inside ∧
    answeredBy identity traffic.history = replies served ∧
    traffic.directory.find? identity = agentAfter (served.map Letter.request)
  /-- A step in which an agent answers nothing leaves it as it is, whatever others do in it. -/
  apart : ∀ {move after}, traffic.step? move = some after → ∀ identity,
    answeredBy identity after.history = answeredBy identity traffic.history →
      after.directory.find? identity = traffic.directory.find? identity
  /-- A read that was admitted is answered with the state of the last write admitted before it. -/
  last_write : ∀ {identity earlier sender result later},
    answeredBy identity traffic.history =
      earlier ++ ⟨⟨sender, .read identity⟩, result⟩ :: later →
    ∃ location state,
      (writes (earlier.map fun reply => reply.letter.request)).getLast? = some (location, state) ∧
        result = .ok state
  /-- All other answers agree with the requests admitted so far. Above all, an agent is only not
  found as long as no write to it was admitted. -/
  at_once : ∀ {before sender request result},
    before ++ [.told sender request result] <+: traffic.history →
      AnsweredAtOnce (max capacity 1)
        ((admittedTo request.identity before).map Letter.request) request result
  /-- No request fails because its agent has stopped. -/
  never_failed : ∀ {sender request result},
    .answered sender request result ∈ traffic.history ∨
      .told sender request result ∈ traffic.history →
    ∀ operation identity reason, result ≠ .error (.failed operation identity reason)
  /-- A process has gone on with the answers to its own requests, one after the other. -/
  own_replies : ∀ sender, traffic.processes[sender]?.map Process.task =
    tasks[sender]?.bind fun task => traffic.history.foldlM (AgentTask.hear sender) task
  /-- The request of a process that waits lies at its agent once. -/
  pending : ∀ {sender request next}, traffic.processes[sender]? = some (.waiting request next) →
    (traffic.mailboxes request.identity).letters.count ⟨sender, request⟩ = 1
  /-- What lies at an agent is a request to it of a process that waits for the answer. -/
  awaited : ∀ {identity letter}, letter ∈ (traffic.mailboxes identity).letters →
    letter.request.identity = identity ∧
      ∃ next, traffic.processes[letter.sender]? = some (.waiting letter.request next)
  /-- A mailbox is never overfull. -/
  room : ∀ identity, (traffic.mailboxes identity).queue.length ≤ max capacity 1
  /-- Moves of an agent alone admit everything that waits at it, in order, and answer everything. -/
  drained : ∀ identity, ∃ moves after, (∀ move ∈ moves, move.isOf identity = true) ∧
    traffic.run? moves = some after ∧ after.mailboxes identity = .empty ∧
    admittedTo identity after.history =
      admittedTo identity traffic.history ++ (traffic.mailboxes identity).waiting ∧
    answeredBy identity after.history = replies (admittedTo identity after.history)

section Sound

variable (orderly : traffic.Orderly capacity tasks)

include orderly

/-- An agent is what its answers say. -/
theorem find?_of_answeredBy_eq {before : Traffic α} (orderlyBefore : before.Orderly capacity tasks)
    {identity : AgentIdentity}
    (same : answeredBy identity traffic.history = answeredBy identity before.history) :
    traffic.directory.find? identity = before.directory.find? identity := by
  obtain ⟨served, -, answered, found⟩ := (orderly.agents identity).served
  obtain ⟨servedBefore, -, answeredBefore, foundBefore⟩ :=
    (orderlyBefore.agents identity).served
  rw [answered, answeredBefore] at same
  have letters := congrArg (List.map Reply.letter) same
  rw [map_letter_replies, map_letter_replies] at letters
  rw [found, foundBefore, letters]

/-- What was admitted to an agent and comes first was admitted to make it, so that a read that is
answered comes after a write. -/
theorem last_write_of_orderly {identity : AgentIdentity} {earlier later : List Reply} {sender : Nat}
    {result : Except AgentError SessionState}
    (split : answeredBy identity traffic.history =
      earlier ++ ⟨⟨sender, .read identity⟩, result⟩ :: later) :
    ∃ location state,
      (writes (earlier.map fun reply => reply.letter.request)).getLast? = some (location, state) ∧
        result = .ok state := by
  obtain ⟨served, admitted, answered, -⟩ := (orderly.agents identity).served
  have first := (orderly.agents identity).first
  rw [answered] at split
  have isReply : result = AgentRequest.replyOf
      (agentAfter (earlier.map fun reply => reply.letter.request)) (.read identity) :=
    result_of_replies split
  have order := congrArg (List.map Reply.letter) split
  rw [map_letter_replies, List.map_append, List.map_cons] at order
  rw [admitted, order] at first
  cases earlier with
  | nil => cases first _ rfl
  | cons head rest =>
    have headWrites : head.letter.request.isWrite = true := first _ rfl
    have present :
        (agentAfter ((head :: rest).map fun reply => reply.letter.request)).isSome := by
      rw [isSome_agentAfter_iff]
      cases written : head.letter.request with
      | isInitialized | read => rw [written] at headWrites; cases headWrites
      | write other location state =>
        exact ⟨other, location, state, by rw [List.map_cons, written]; exact List.mem_cons_self⟩
    obtain ⟨agent, after⟩ := Option.isSome_iff_exists.1 present
    obtain ⟨location, last⟩ := getLast?_writes_of_agentAfter after
    rw [after] at isReply
    exact ⟨location, agent.state, last, isReply⟩

theorem never_failed_of_orderly {sender : Nat} {request : AgentRequest}
    {result : Except AgentError request.Answer}
    (recorded : .answered sender request result ∈ traffic.history ∨
      .told sender request result ∈ traffic.history) (operation : String)
    (identity : AgentIdentity) (reason : String) :
    result ≠ .error (.failed operation identity reason) := by
  rcases recorded with answered | told
  · obtain ⟨served, -, all, -⟩ := (orderly.agents request.identity).served
    have member : ⟨⟨sender, request⟩, result⟩ ∈ replies served :=
      all ▸ mem_answeredBy answered rfl
    obtain ⟨earlier, later, split⟩ := List.append_of_mem member
    have isReply : result = request.replyOf _ := result_of_replies split
    rw [isReply]
    exact request.replyOf_ne_failed _ operation identity reason
  · obtain ⟨before, later, split⟩ := List.append_of_mem told
    have isPrefix : before ++ [.told sender request result] <+: traffic.history :=
      ⟨later, by rw [split, List.append_assoc]; rfl⟩
    cases orderly.told isPrefix <;> simp

theorem sound_of_orderly : traffic.Sound capacity tasks where
  one_agent identity := (orderly.agents identity).created
  first_write identity := (orderly.agents identity).first
  in_order identity := (orderly.agents identity).served
  apart moved identity := find?_of_answeredBy_eq (orderly_of_step orderly
    (step_of_step? orderly moved)) orderly
  last_write := last_write_of_orderly orderly
  at_once := orderly.told
  never_failed := never_failed_of_orderly orderly
  own_replies := orderly.resumed
  pending {sender request next} waits := by
    have once : (traffic.mailboxes request.identity).letters.Nodup :=
      List.Pairwise.of_map Letter.sender (fun _ _ different same => different (same ▸ rfl))
        (orderly.letters.once request.identity)
    rw [once.count, if_pos (orderly.letters.carried waits)]
  awaited := orderly.letters.waits
  room identity := (orderly.agents identity).room
  drained identity := by
    obtain ⟨moves, after, isOf, ran, isEmpty, admitted⟩ := exists_run_empty orderly identity
    refine ⟨moves, after, isOf, ran, isEmpty, admitted, ?_⟩
    obtain ⟨served, all, answered, -⟩ :=
      ((orderly_of_run? orderly ran).agents identity).served
    rw [isEmpty] at all
    rw [answered, all, show Mailbox.empty.inside = [] from rfl, List.append_nil]

end Sound

/-- Every run of tasks that begins without agents is sound, whatever the room in the mailboxes and
in whatever order the steps are taken. -/
theorem run_sound (capacity : Nat) (supply : TokenSupply) (tasks : List (AgentTask α))
    (moves : List TrafficMove) {traffic : Traffic α}
    (ran : (start (.withCapacity capacity) supply tasks).run? moves = some traffic) :
    traffic.Sound capacity tasks :=
  sound_of_orderly (orderly_of_run? (orderly_start capacity supply tasks) ran)

/-- Two processes write to one agent and a third reads it. The mailbox has room for one request; the
read waits until the second write has been taken out. -/
theorem run_sound_of_race :
    let identity : AgentIdentity := ⟨"a"⟩
    let first := SessionState.fresh identity
    let second := { first with shouldBeGenerating := true }
    let write (state : SessionState) : AgentTask SessionState := do
      AgentTask.write identity ⟨"weur"⟩ state
      return state
    let tasks := [write first, write second, AgentTask.read identity]
    ∃ traffic,
      (start (.withCapacity 0) (.sequential "agent") tasks).run?
        [.advance 0, .advance 1, .advance 2, .advance 1, .advance 2, .take identity,
          .letIn identity, .reply identity, .take identity, .reply identity] = some traffic ∧
      (traffic.result? 2).bind Except.toOption = some second ∧ traffic.Sound 0 tasks := by
  intro identity first second write tasks
  let moves : List TrafficMove :=
    [.advance 0, .advance 1, .advance 2, .advance 1, .advance 2, .take identity,
      .letIn identity, .reply identity, .take identity, .reply identity]
  have possible : ((start (.withCapacity 0) (.sequential "agent") tasks).run? moves).map
      (fun traffic => (traffic.result? 2).bind Except.toOption) = some (some second) := by
    decide +kernel
  obtain ⟨traffic, ran, isSecond⟩ := Option.map_eq_some_iff.1 possible
  exact ⟨traffic, ran, isSecond, run_sound 0 (.sequential "agent") tasks moves ran⟩

end Traffic

end SessionForge
