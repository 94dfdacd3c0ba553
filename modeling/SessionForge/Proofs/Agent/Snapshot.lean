/-
This file says what a clone holds that is made while other calls are under way. A clone asks three
times about its source and writes once, and anybody may write to the source in between. What it
writes is nevertheless what the source held at one moment: the moment at which the source answered
the read, when the call knew of the source already and had no result yet (`HeldDuring`). The write
makes the new agent, if nobody else has written to it before. Until then those who read the new
agent do not find it, and from then on they get the copy, or the whole state of a later write
(`IsSnapshot`).

The proof follows the call through its stages (`CloneStage`). Agents never go away, so that a
source which was there at the first question is there at all others; a clone that has got so far
cannot fail.
-/

import SessionForge.Proofs.Agent.Calls

namespace SessionForge

/-! ### The stages of a clone -/

namespace Cloning

variable (locator : AgentLocator) (source clone : AgentIdentity) (state : SessionState)
  (next : AgentTask CallOutcome)

/-- Writing the copy. -/
def writing : AgentTask CallOutcome :=
  .asking (.write clone locator.location (state.cloneFor clone)) fun _ =>
    .finished (.ok (.cloned ⟨clone, ⟨clone, locator.location⟩⟩))

/-- Reading the source. -/
def reading : AgentTask CallOutcome :=
  .asking (.read source) fun state => writing locator clone state

/-- Asking for the source, without which there is no clone. -/
def checking : AgentTask CallOutcome :=
  .asking (.isInitialized source) fun known =>
    if known then next else .finished (.error (.notFound source))

/-- Minting the identity of the clone. -/
def minting : AgentTask CallOutcome :=
  .minting fun token => checking source (reading locator source ⟨token⟩)

theorem task_clone :
    (AgentCall.clone locator source).task = checking source (minting locator source) := by
  refine congrArg (AgentTask.asking (.isInitialized source)) (funext fun known => ?_)
  cases known with
  | false => rfl
  | true =>
    refine congrArg AgentTask.minting (funext fun token => ?_)
    refine congrArg (AgentTask.asking (.isInitialized source)) (funext fun known => ?_)
    cases known <;> rfl

end Cloning

namespace Traffic

variable {capacity : Nat} {tasks : List (AgentTask CallOutcome)}
  {first traffic after : Traffic CallOutcome}

/-- A caller has been told that an agent is there. -/
def Knows (traffic : Traffic CallOutcome) (caller : Nat) (source : AgentIdentity) : Prop :=
  ⟨⟨caller, .isInitialized source⟩, .ok true⟩ ∈ answers traffic.history

/-- An agent held a state at a moment at which a caller knew of it and had no result yet. -/
def HeldDuring (first : Traffic CallOutcome) (moves : List TrafficMove) (caller : Nat)
    (source : AgentIdentity) (state : SessionState) : Prop :=
  ∃ moment, first.Passes moves moment ∧ moment.Knows caller source ∧
    moment.result? caller = none ∧
    (moment.directory.find? source).map Agent.state = some state

/-- How far a clone has got after some moves, by what it still has to do. -/
inductive CloneStage (first : Traffic CallOutcome) (moves : List TrafficMove)
    (traffic : Traffic CallOutcome) (caller : Nat) (locator : AgentLocator)
    (source : AgentIdentity) : AgentTask CallOutcome → Prop where
  | checking (untold : ¬traffic.Knows caller source) :
      CloneStage first moves traffic caller locator source
        (Cloning.checking source (Cloning.minting locator source))
  | refused (untold : ¬traffic.Knows caller source) :
      CloneStage first moves traffic caller locator source (.finished (.error (.notFound source)))
  | minting (knows : traffic.Knows caller source)
      (present : (traffic.directory.find? source).isSome) :
      CloneStage first moves traffic caller locator source (Cloning.minting locator source)
  | rechecking {clone : AgentIdentity} (knows : traffic.Knows caller source)
      (present : (traffic.directory.find? source).isSome) :
      CloneStage first moves traffic caller locator source
        (Cloning.checking source (Cloning.reading locator source clone))
  | reading {clone : AgentIdentity} (knows : traffic.Knows caller source)
      (present : (traffic.directory.find? source).isSome) :
      CloneStage first moves traffic caller locator source (Cloning.reading locator source clone)
  | writing {clone : AgentIdentity} {state : SessionState}
      (held : HeldDuring first moves caller source state)
      (present : (traffic.directory.find? source).isSome) :
      CloneStage first moves traffic caller locator source (Cloning.writing locator clone state)
  | finished {clone : AgentIdentity} (made : (traffic.directory.find? clone).isSome) :
      CloneStage first moves traffic caller locator source
        (.finished (.ok (.cloned ⟨clone, ⟨clone, locator.location⟩⟩)))

/-! ### What stays -/

theorem Knows.mono {caller : Nat} {source : AgentIdentity} (knows : traffic.Knows caller source)
    (effect : Effect traffic after) : after.Knows caller source :=
  (answers_prefix_of_effect effect).subset knows

theorem HeldDuring.mono {moves later : List TrafficMove} {caller : Nat} {source : AgentIdentity}
    {state : SessionState} (held : HeldDuring first moves caller source state)
    (isPrefix : moves <+: later) : HeldDuring first later caller source state :=
  let ⟨moment, passes, rest⟩ := held
  ⟨moment, passes.mono isPrefix, rest⟩

/-! ### From stage to stage -/

section Stages

variable {moves : List TrafficMove} {move : TrafficMove} {caller : Nat} {locator : AgentLocator}
  {source : AgentIdentity} {task : AgentTask CallOutcome}

/-- A call that waits while others go on stays in its stage. -/
theorem CloneStage.wait (stage : CloneStage first moves traffic caller locator source task)
    (effect : Effect traffic after)
    (stay : ∀ identity, (traffic.directory.find? identity).isSome →
      (after.directory.find? identity).isSome)
    (unheard : ∀ reply ∈ answers after.history, reply.letter.sender = caller →
      reply ∈ answers traffic.history) :
    CloneStage first (moves ++ [move]) after caller locator source task := by
  have still (untold : ¬traffic.Knows caller source) : ¬after.Knows caller source :=
    fun knows => untold (unheard _ knows rfl)
  cases stage with
  | checking untold => exact .checking (still untold)
  | refused untold => exact .refused (still untold)
  | minting knows present => exact .minting (knows.mono effect) (stay _ present)
  | rechecking knows present => exact .rechecking (knows.mono effect) (stay _ present)
  | reading knows present => exact .reading (knows.mono effect) (stay _ present)
  | writing held present => exact .writing (held.mono (List.prefix_append _ _)) (stay _ present)
  | finished made => exact .finished (stay _ made)

/-- A call that goes on gets into its next stage. -/
theorem stage_of_step? (ran : first.run? moves = some traffic)
    (orderly : traffic.Orderly capacity tasks) (moved : traffic.step? move = some after)
    (current : traffic.task? caller = some task)
    (stage : CloneStage first moves traffic caller locator source task) :
    ∃ later, after.task? caller = some later ∧
      CloneStage first (moves ++ [move]) after caller locator source later := by
  have effect := effect_of_step? orderly moved
  have stay (identity : AgentIdentity) (present : (traffic.directory.find? identity).isSome) :
      (after.directory.find? identity).isSome :=
    isSome_of_step orderly (step_of_step? orderly moved) present
  obtain ⟨later, isLater, turn⟩ := turn_of_effect effect current
  refine ⟨later, isLater, ?_⟩
  cases turn with
  | waits unheard => exact stage.wait effect stay unheard
  | mints recorded =>
    cases stage with
    | minting knows present => exact .rechecking (knows.mono effect) (stay _ present)
  | gets recorded asked =>
    cases stage with
    | checking untold =>
      cases found : traffic.directory.find? source with
      | none =>
        rw [AgentRequest.identity, found]
        refine .refused fun knows => untold ?_
        rw [Knows, recorded, AgentRequest.identity, found] at knows
        refine (List.mem_append.1 knows).resolve_right ?_
        simp [AgentRequest.replyOf]
      | some agent =>
        rw [AgentRequest.identity, found]
        refine .minting ?_ (stay _ (found ▸ rfl))
        rw [Knows, recorded, AgentRequest.identity, found]
        exact List.mem_append_right _ (List.mem_singleton_self _)
    | rechecking knows present =>
      obtain ⟨agent, found⟩ := Option.isSome_iff_exists.1 present
      rw [AgentRequest.identity, found]
      exact .reading (knows.mono effect) (stay _ present)
    | reading knows present =>
      obtain ⟨agent, found⟩ := Option.isSome_iff_exists.1 present
      rw [AgentRequest.identity, found]
      refine .writing ⟨traffic, (passes_last ran).mono (List.prefix_append _ _), knows, ?_, ?_⟩
        (stay _ present)
      · exact result?_eq_none_of_asking current
      · rw [found, Option.map_some]
    | @writing clone state held present =>
      have made : after.directory.find? clone =
          AgentRequest.applyTo _ (.write clone locator.location (state.cloneFor clone)) := asked
      exact .finished (by rw [made]; exact isSome_applyTo_write _ _ _ _)
  | refused _ nobody =>
    cases stage with
    | writing held present =>
      rw [nobody source] at present
      cases present

/-- After any moves a clone is in one of its stages. -/
theorem stage_of_run? {supply : TokenSupply} {calls : List AgentCall}
    (call : calls[caller]? = some (.clone locator source))
    (ran : (start (.withCapacity capacity) supply (calls.map AgentCall.task)).run? moves =
      some traffic) :
    ∃ task, traffic.task? caller = some task ∧
      CloneStage (start (.withCapacity capacity) supply (calls.map AgentCall.task)) moves traffic
        caller locator source task := by
  refine run_induction (motive := fun moves traffic => ∃ task,
      traffic.task? caller = some task ∧ CloneStage _ moves traffic caller locator source task)
    (orderly_start capacity supply _) ?_ ?_ ran
  · refine ⟨_, ?_, .checking List.not_mem_nil⟩
    simp [task?, start, call, Process.task, Cloning.task_clone]
  · rintro moves traffic move after ran orderly ⟨task, current, stage⟩ moved
    exact stage_of_step? ran orderly moved current stage

end Stages

/-! ### Before and after an agent is made -/

section Made

variable {identity : AgentIdentity}

theorem isSome_of_run? (orderly : first.Orderly capacity tasks) {moves : List TrafficMove}
    (ran : first.run? moves = some after)
    (present : (first.directory.find? identity).isSome) :
    (after.directory.find? identity).isSome :=
  run_induction (motive := fun _ after => (after.directory.find? identity).isSome) orderly present
    (fun _ orderly stayed moved => isSome_of_step orderly (step_of_step? orderly moved) stayed) ran

/-- An agent that is there in the end and was not in the beginning was made by some move. -/
theorem exists_creation (orderly : first.Orderly capacity tasks)
    (absent : first.directory.find? identity = none) {moves : List TrafficMove}
    (ran : first.run? moves = some after) (present : (after.directory.find? identity).isSome) :
    ∃ earlier move later before made, moves = earlier ++ move :: later ∧
      first.run? earlier = some before ∧ before.step? move = some made ∧
      made.run? later = some after ∧ before.directory.find? identity = none ∧
      (made.directory.find? identity).isSome := by
  induction moves generalizing first with
  | nil =>
    rw [← Option.some.inj ran, absent] at present
    cases present
  | cons move rest inductionHypothesis =>
    rw [run?, List.foldlM_cons, Option.bind_eq_bind, Option.bind_eq_some_iff] at ran
    obtain ⟨between, moved, ranRest⟩ := ran
    cases found : between.directory.find? identity with
    | some agent =>
      exact ⟨[], move, rest, first, between, rfl, rfl, moved, ranRest, absent, found ▸ rfl⟩
    | none =>
      obtain ⟨earlier, last, later, before, made, rfl, ranEarlier, rest⟩ :=
        inductionHypothesis (orderly_of_step orderly (step_of_step? orderly moved)) found ranRest
      refine ⟨move :: earlier, last, later, before, made, rfl, ?_, rest⟩
      rw [run?, List.foldlM_cons, moved]
      exact ranEarlier

/-- An agent that is not there after some moves was not there on the way. -/
theorem absent_of_passes (orderly : first.Orderly capacity tasks) {moves : List TrafficMove}
    (ran : first.run? moves = some after) (absent : after.directory.find? identity = none)
    {moment : Traffic CallOutcome} (passes : first.Passes moves moment) :
    moment.directory.find? identity = none := by
  obtain ⟨start, ⟨rest, rfl⟩, ranStart⟩ := passes
  rw [run?_append, ranStart, Option.bind_some] at ran
  by_contra present
  have stayed := isSome_of_run? (orderly_of_run? orderly ranStart) ran
    (Option.isSome_iff_ne_none.2 present)
  rw [absent] at stayed
  cases stayed

/-- As long as an agent is not there, nobody has read it or written to it. -/
theorem unread_of_absent (orderly : first.Orderly capacity tasks)
    (begin : answers first.history = []) {moves : List TrafficMove}
    (ran : first.run? moves = some after) (absent : after.directory.find? identity = none) :
    (∀ reader result, ⟨⟨reader, .read identity⟩, result⟩ ∈ answers after.history →
      result = .error (.notFound identity)) ∧
    ∀ writer location state,
      ⟨⟨writer, .write identity location state⟩, .ok ()⟩ ∉ answers after.history := by
  refine run_induction (motive := fun _ after => after.directory.find? identity = none →
      (∀ reader result, ⟨⟨reader, .read identity⟩, result⟩ ∈ answers after.history →
        result = .error (.notFound identity)) ∧
      ∀ writer location state,
        ⟨⟨writer, .write identity location state⟩, .ok ()⟩ ∉ answers after.history)
    orderly ?_ ?_ ran absent
  · rw [begin]
    exact fun _ => ⟨fun _ _ member => absurd member List.not_mem_nil, fun _ _ _ => List.not_mem_nil⟩
  · intro moves traffic move after _ orderly unread moved absentAfter
    have absent : traffic.directory.find? identity = none := by
      by_contra present
      have stayed := isSome_of_step orderly (step_of_step? orderly moved)
        (Option.isSome_iff_ne_none.2 present)
      rw [absentAfter] at stayed
      cases stayed
    obtain ⟨reads, writes⟩ := unread absent
    cases effect_of_step? orderly moved with
    | silent _ recorded _ | minted _ recorded _ => exact recorded ▸ ⟨reads, writes⟩
    | refused _ recorded _ _ =>
      rw [recorded]
      refine ⟨fun reader result member => reads reader result ?_,
        fun writer location state member => writes writer location state ?_⟩
      · exact (List.mem_append.1 member).resolve_right (by simp)
      · exact (List.mem_append.1 member).resolve_right (by simp)
    | @answered sender request next result _ recorded isReply asked _ =>
      rw [recorded]
      refine ⟨fun reader result member => ?_, fun writer location state member => ?_⟩
      · rcases List.mem_append.1 member with old | new
        · exact reads reader result old
        · cases List.mem_singleton.1 new
          rw [isReply, AgentRequest.identity, absent, AgentRequest.replyOf]
      · rcases List.mem_append.1 member with old | new
        · exact writes writer location state old
        · cases List.mem_singleton.1 new
          have made : (after.directory.find? identity).isSome := by
            rw [show after.directory.find? identity = _ from asked]
            exact isSome_applyTo_write _ _ _ _
          rw [absentAfter] at made
          cases made

/-- A state is that of the copy, or that of a write among some answers. -/
def CopyOrWritten (copy : SessionState) (identity : AgentIdentity) (given : List Reply)
    (state : SessionState) : Prop :=
  state = copy ∨
    ∃ writer location, ⟨⟨writer, .write identity location state⟩, .ok ()⟩ ∈ given

theorem CopyOrWritten.mono {copy state : SessionState} {given : List Reply}
    (isWhole : CopyOrWritten copy identity given state) (more : List Reply) :
    CopyOrWritten copy identity (given ++ more) state :=
  isWhole.imp_right fun ⟨writer, location, member⟩ =>
    ⟨writer, location, List.mem_append_left _ member⟩

/-- Once an agent holds a copy, it holds the copy or what was written whole since, and nobody
reads anything else. -/
theorem whole_of_run? (orderly : first.Orderly capacity tasks) {agent : Agent}
    (found : first.directory.find? identity = some agent) {moves : List TrafficMove}
    (ran : first.run? moves = some after) :
    ∃ given, answers after.history = answers first.history ++ given ∧
      (∃ current, after.directory.find? identity = some current ∧
        CopyOrWritten agent.state identity given current.state) ∧
      ∀ {earlier reader result}, earlier ++ [⟨⟨reader, .read identity⟩, result⟩] <+: given →
        ∃ state, result = .ok state ∧ CopyOrWritten agent.state identity earlier state := by
  refine run_induction (motive := fun _ after =>
      ∃ given, answers after.history = answers first.history ++ given ∧
        (∃ current, after.directory.find? identity = some current ∧
          CopyOrWritten agent.state identity given current.state) ∧
        ∀ {earlier reader result}, earlier ++ [⟨⟨reader, .read identity⟩, result⟩] <+: given →
          ∃ state, result = .ok state ∧ CopyOrWritten agent.state identity earlier state)
    orderly ?_ ?_ ran
  · refine ⟨[], (List.append_nil _).symm, ⟨agent, found, .inl rfl⟩, fun isPrefix => ?_⟩
    simp at isPrefix
  · rintro moves traffic move after - orderly ⟨given, all, ⟨current, holds, isWhole⟩, reads⟩ moved
    cases effect_of_step? orderly moved with
    | silent _ recorded kept | minted _ recorded kept =>
      exact ⟨given, recorded.trans all, ⟨current, kept ▸ holds, isWhole⟩, reads⟩
    | refused _ _ nobody _ =>
      rw [nobody identity] at holds
      cases holds
    | @answered sender request next result _ recorded isReply asked elsewhere =>
      refine ⟨given ++ [⟨⟨sender, request⟩, result⟩], ?_, ?_, fun isPrefix => ?_⟩
      · rw [recorded, all, List.append_assoc]
      · by_cases here : identity = request.identity
        · subst here
          rw [asked, holds]
          rw [holds] at isReply
          cases request with
          | isInitialized | read => exact ⟨current, rfl, isWhole.mono _⟩
          | write there location state =>
            refine ⟨{ current with state }, rfl, .inr ⟨sender, location, ?_⟩⟩
            rw [isReply]
            exact List.mem_append_right _ (List.mem_singleton_self _)
        · exact ⟨current, (elsewhere identity here).trans holds, isWhole.mono _⟩
      · rcases List.prefix_concat_iff.1 isPrefix with isNew | isOld
        · obtain ⟨rfl, same⟩ := List.append_inj' isNew rfl
          cases (List.cons.inj same).1
          rw [AgentRequest.identity, holds] at isReply
          exact ⟨current.state, isReply, isWhole⟩
        · exact reads isOld

end Made

/-! ### Snapshots -/

/-- A clone is a copy of one state of its source, and its first state. -/
structure IsSnapshot (first : Traffic CallOutcome) (earlier : List TrafficMove)
    (before made final : Traffic CallOutcome) (caller : Nat) (locator : AgentLocator)
    (source clone : AgentIdentity) (state : SessionState) : Prop where
  /-- The source held the state during the call. -/
  held : HeldDuring first earlier caller source state
  /-- There was no clone before. -/
  absent : ∀ {moment}, first.Passes earlier moment → moment.directory.find? clone = none
  /-- It is made complete. -/
  complete : made.directory.find? clone = some ⟨locator.location, state.cloneFor clone, true⟩
  /-- The call gives its result when the clone is made. -/
  returned : before.result? caller = none ∧
    made.result? caller = some (.ok (.cloned ⟨clone, ⟨clone, locator.location⟩⟩))
  /-- Nobody found the clone before. -/
  not_found : ∀ {reader result}, ⟨⟨reader, .read clone⟩, result⟩ ∈ answers before.history →
    result = .error (.notFound clone)
  /-- Who reads the clone afterwards gets the copy or the state of a write in between. -/
  whole : ∃ given, answers final.history = answers made.history ++ given ∧
    ∀ {earlier reader result}, earlier ++ [⟨⟨reader, .read clone⟩, result⟩] <+: given →
      ∃ read, result = .ok read ∧ CopyOrWritten (state.cloneFor clone) clone earlier read

section Clone

variable {supply : TokenSupply} {calls : List AgentCall} {caller : Nat} {locator : AgentLocator}
  {source : AgentIdentity} {moves : List TrafficMove} {final : Traffic CallOutcome}
  (call : calls[caller]? = some (.clone locator source))
  (ran : (start (.withCapacity capacity) supply (calls.map AgentCall.task)).run? moves = some final)

include call ran

/-- A clone that was told of its source does not fail, and above all it finds its source. -/
theorem not_error_of_knows (knows : final.Knows caller source) (error : AgentError) :
    final.result? caller ≠ some (.error error) := by
  intro failed
  obtain ⟨task, current, stage⟩ := stage_of_run? call ran
  rw [result?_eq_some_iff, current] at failed
  obtain rfl := Option.some.inj failed
  cases stage with
  | refused untold => exact untold knows

/-- A clone to which nobody else has written before is a snapshot of its source. -/
theorem exists_snapshot {clone : ClonedAgent}
    (result : final.result? caller = some (.ok (.cloned clone)))
    (only : WritesFirst caller clone.identity final.history) :
    ∃ earlier move later before made state, moves = earlier ++ move :: later ∧
      (start (.withCapacity capacity) supply (calls.map AgentCall.task)).run? earlier =
        some before ∧
      before.step? move = some made ∧
      IsSnapshot (start (.withCapacity capacity) supply (calls.map AgentCall.task)) earlier before
        made final caller locator source clone.identity state := by
  have orderly := orderly_start capacity supply (calls.map AgentCall.task)
  obtain ⟨task, current, stage⟩ := stage_of_run? call ran
  rw [result?_eq_some_iff, current] at result
  obtain rfl := Option.some.inj result
  obtain ⟨clone, present, rfl⟩ : ∃ identity, (final.directory.find? identity).isSome ∧
      (⟨identity, ⟨identity, locator.location⟩⟩ : ClonedAgent) = clone := by
    cases stage with
    | finished made => exact ⟨_, made, rfl⟩
  obtain ⟨earlier, move, later, before, made, rfl, ranEarlier, moved, ranLater, absent, isMade⟩ :=
    exists_creation orderly rfl ran present
  have orderlyBefore := orderly_of_run? orderly ranEarlier
  have orderlyMade := orderly_of_step orderlyBefore (step_of_step? orderlyBefore moved)
  obtain ⟨found, unwritten⟩ := unread_of_absent orderly rfl ranEarlier absent
  refine ⟨earlier, move, later, before, made, ?_⟩
  cases effect_of_step? orderlyBefore moved with
  | silent _ _ kept | minted _ _ kept | refused _ _ _ kept =>
    rw [kept, absent] at isMade
    cases isMade
  | @answered sender request next result goesOn recorded isReply asked elsewhere =>
    obtain rfl : clone = request.identity := by
      by_contra different
      rw [elsewhere clone different, absent] at isMade
      cases isMade
    rw [absent] at asked
    cases request with
    | isInitialized | read =>
      rw [asked] at isMade
      cases isMade
    | write clone location written =>
      obtain ⟨given, all, -, reads⟩ := whole_of_run? orderlyMade asked ranLater
      obtain rfl : sender = caller := by
        rw [recorded, List.append_assoc, isReply] at all
        refine (only all).resolve_right ?_
        rintro ⟨location, state, member⟩
        exact unwritten _ _ _ member
      obtain ⟨task, currentBefore, stageBefore⟩ := stage_of_run? call ranEarlier
      obtain rfl := Option.some.inj (goesOn.before.symm.trans currentBefore)
      cases stageBefore with
      | @writing _ state held _ =>
        refine ⟨state, rfl, ranEarlier, moved, held, absent_of_passes orderly ranEarlier absent,
          asked, ⟨?_, ?_⟩, found _ _, given, all, reads⟩
        · exact result?_eq_none_of_asking goesOn.before
        · rw [result?_eq_some_iff, goesOn.later, isReply]
          rfl

end Clone

end Traffic

end SessionForge
