/-
What clones do that are made while agents are read and written, in whatever order the steps of all
calls are taken. A clone to which nobody else has written before is a copy of one state that its
source held during the call, and is never there in part. Clones do nothing to the agents from which
they are made: leaving out any of them leaves the states of all agents as they were, apart from the
clones left out. And a clone that was told of its source does not fail.

`run_clones` states this for every capacity of the mailboxes, every supply of tokens, all calls and
every run.
-/

import Mathlib.Control.Monad.Basic
import SessionForge.Proofs.Agent.Alone
import SessionForge.Proofs.Agent.Snapshot

namespace SessionForge

/-! ### Calls that are left out and calls that are followed -/

section Calls

variable {own : AgentIdentity → Prop}

/-- A clone reads other agents and writes to the one that it mints. -/
theorem confined_clone (locator : AgentLocator) (source : AgentIdentity) :
    (AgentCall.clone locator source).task.Confined own true := by
  have checking {next : AgentTask CallOutcome} (confined : next.Confined own true) :
      (Cloning.checking source next).Confined own true := by
    refine .asking (.inr ⟨rfl, rfl⟩) fun known => ?_
    cases known with
    | false => exact .finished _
    | true => exact confined
  rw [Cloning.task_clone]
  refine checking (.minting rfl fun token minted => checking ?_)
  exact .asking (.inr ⟨rfl, rfl⟩) fun state => .asking (.inl minted) fun _ => .finished _

/-- A request to an agent that is left out is the last of its call. -/
theorem avoids_last {request : AgentRequest} {next : request.Answer → AgentTask CallOutcome}
    (ends : ∀ answer, ∃ result, next answer = .finished result) :
    (AgentTask.asking request next).Avoids own := by
  have finished (answer : request.Answer) : (next answer).Confined own false := by
    obtain ⟨result, isResult⟩ := ends answer
    exact isResult ▸ .finished result
  by_cases inside : own request.identity
  · exact .turns (.asking (.inl inside) finished)
  · exact .asking inside fun answer => .turns (finished answer)

theorem avoids_ask (request : AgentRequest) : (AgentCall.ask request).task.Avoids own :=
  avoids_last fun _ => ⟨_, rfl⟩

theorem avoids_clone (locator : AgentLocator) {source : AgentIdentity} (outside : ¬own source) :
    (AgentCall.clone locator source).task.Avoids own := by
  have checking {next : AgentTask CallOutcome} (avoids : next.Avoids own) :
      (Cloning.checking source next).Avoids own := by
    refine .asking outside fun known => ?_
    cases known with
    | false => exact .turns (.finished _)
    | true => exact avoids
  rw [Cloning.task_clone]
  refine checking (.minting fun token => checking ?_)
  exact .asking outside fun state => avoids_last fun _ => ⟨_, rfl⟩

end Calls

namespace Traffic

variable {capacity : Nat} {supply : TokenSupply} {calls : List AgentCall}
  {moves : List TrafficMove} {final : Traffic CallOutcome}

/-- A call of one request gives the answer that it got. -/
theorem exists_answer {caller : Nat} {request : AgentRequest}
    (call : calls[caller]? = some (.ask request))
    (ran : (start (.withCapacity capacity) supply (calls.map AgentCall.task)).run? moves =
      some final)
    {outcome : Except AgentError CallOutcome} (result : final.result? caller = some outcome) :
    ∃ answer, ⟨⟨caller, request⟩, answer⟩ ∈ answers final.history ∧
      outcome = answer.map request.outcome := by
  have stages := run_induction (motive := fun _ traffic =>
      traffic.task? caller = some (AgentCall.ask request).task ∨
        ∃ answer, ⟨⟨caller, request⟩, answer⟩ ∈ answers traffic.history ∧
          traffic.task? caller = some (.finished (answer.map request.outcome)))
    (orderly_start capacity supply (calls.map AgentCall.task)) ?_ ?_ ran
  · rw [result?_eq_some_iff] at result
    rcases stages with asking | ⟨answer, member, finished⟩
    · rw [asking] at result
      cases result
    · rw [finished] at result
      exact ⟨answer, member, (AgentTask.finished.inj (Option.some.inj result)).symm⟩
  · refine .inl ?_
    simp [task?, start, call, Process.task]
  · intro moves traffic move after _ orderly stage moved
    have effect := effect_of_step? orderly moved
    rcases stage with asking | ⟨answer, member, finished⟩
    · obtain ⟨later, isLater, turn⟩ := turn_of_effect effect asking
      cases turn with
      | waits => exact .inl isLater
      | gets recorded _ =>
        refine .inr ⟨_, recorded ▸ List.mem_append_right _ (List.mem_singleton_self _), ?_⟩
        rw [isLater]
        cases request.replyOf (traffic.directory.find? request.identity) <;> rfl
      | refused recorded _ =>
        exact .inr ⟨.error _, recorded ▸ List.mem_append_right _ (List.mem_singleton_self _),
          isLater⟩
    · obtain ⟨later, isLater, turn⟩ := turn_of_effect effect finished
      cases turn with
      | waits => exact .inr ⟨answer, (answers_prefix_of_effect effect).subset member, isLater⟩

/-- What holds of the clones of a run. -/
structure ClonesAreSnapshots (capacity : Nat) (supply : TokenSupply) (calls : List AgentCall)
    (moves : List TrafficMove) (final : Traffic CallOutcome) : Prop where
  /-- A clone to which nobody else has written before is a snapshot of its source. -/
  snapshot : ∀ {caller locator source clone},
    calls[caller]? = some (.clone locator source) →
    final.result? caller = some (.ok (.cloned clone)) →
    WritesFirst caller clone.identity final.history →
    ∃ earlier move later before made state, moves = earlier ++ move :: later ∧
      (start (.withCapacity capacity) supply (calls.map AgentCall.task)).run? earlier =
        some before ∧
      before.step? move = some made ∧
      IsSnapshot (start (.withCapacity capacity) supply (calls.map AgentCall.task)) earlier before
        made final caller locator source clone.identity state
  /-- Any clones may be left out, if those that are made of them are left out too. The other calls
  can be made without them, by the same moves and no others, and all other agents then go through
  the same states. -/
  undisturbed : ∀ leftOut : Nat → Bool,
    (∀ caller, leftOut caller = true → ∃ locator source,
      calls[caller]? = some (.clone locator source)) →
    (∀ caller locator source, calls[caller]? = some (.clone locator source) →
      leftOut caller = false → source.token ∉ mintedBy leftOut final.history) →
    ∃ tokens others alone, others.Sublist moves ∧
      (∀ caller, leftOut caller = true → .advance caller ∉ others) ∧
      (start (.withCapacity capacity) ⟨tokens, 0⟩ (calls.map AgentCall.task)).run? others =
        some alone ∧
      ∀ identity : AgentIdentity, identity.token ∉ mintedBy leftOut final.history →
        (start (.withCapacity capacity) ⟨tokens, 0⟩ (calls.map AgentCall.task)).goesThrough
            identity others =
          (start (.withCapacity capacity) supply (calls.map AgentCall.task)).goesThrough
            identity moves
  /-- A clone that was told of its source does not fail, and above all it finds its source. -/
  found : ∀ {caller locator source}, calls[caller]? = some (.clone locator source) →
    final.Knows caller source → ∀ error, final.result? caller ≠ some (.error error)
  /-- What other calls give is what was answered to them. -/
  answered : ∀ {caller request outcome}, calls[caller]? = some (.ask request) →
    final.result? caller = some outcome →
    ∃ answer, ⟨⟨caller, request⟩, answer⟩ ∈ answers final.history ∧
      outcome = answer.map request.outcome

/-- Clones are snapshots of their sources and disturb no one, in every run. -/
theorem run_clones (capacity : Nat) (supply : TokenSupply) (calls : List AgentCall)
    (moves : List TrafficMove) {final : Traffic CallOutcome}
    (ran : (start (.withCapacity capacity) supply (calls.map AgentCall.task)).run? moves =
      some final) :
    ClonesAreSnapshots capacity supply calls moves final where
  snapshot call result only := exists_snapshot call ran result only
  undisturbed leftOut areClones sources := by
    let own (identity : AgentIdentity) : Prop := identity.token ∈ mintedBy leftOut final.history
    let tokens (index : Nat) : String := (mintedBy (!leftOut ·) final.history)[index]?.getD ""
    have beside : Beside own leftOut tokens
        (start (.withCapacity capacity) supply (calls.map AgentCall.task))
        (start (.withCapacity capacity) ⟨tokens, 0⟩ (calls.map AgentCall.task)) := by
      refine beside_start (fun {caller task} isTask isLeftOut => ?_)
        (fun {caller task} isTask isFollowed => ?_)
      · obtain ⟨locator, source, call⟩ := areClones caller isLeftOut
        rw [List.getElem?_map, call] at isTask
        exact Option.some.inj isTask ▸ confined_clone locator source
      · rw [List.getElem?_map, Option.map_eq_some_iff] at isTask
        obtain ⟨call, isCall, rfl⟩ := isTask
        cases call with
        | ask request => exact avoids_ask request
        | clone locator source =>
          exact avoids_clone locator (sources caller locator source isCall isFollowed)
    obtain ⟨others, alone, sublist, without, ranAlone, -, same⟩ :=
      exists_run_alone (orderly_start capacity supply _) beside ran (fun _ member => member)
        (fun index token minted => by simp only [tokens, minted, Option.getD_some])
    exact ⟨tokens, others, alone, sublist, without, ranAlone, fun _ => same⟩
  found call knows := not_error_of_knows call ran knows
  answered call result := exists_answer call ran result

/-- One state of an agent is cloned while another is written to it. The clone is read before and
after it is made. -/
theorem run_clones_of_race :
    let source : AgentIdentity := ⟨"a"⟩
    let clone : AgentIdentity := ⟨"agent-1"⟩
    let first := (SessionState.fresh source).withContent "title" (.text "Blog")
    let second := (SessionState.fresh source).withContent "title" (.text "Shop")
    let calls : List AgentCall := [.ask (.write source ⟨"weur"⟩ first), .clone ⟨⟨"apac"⟩⟩ source,
      .ask (.write source ⟨"weur"⟩ second), .ask (.read clone), .ask (.read clone)]
    let moves : List TrafficMove := [.advance 0, .advance 1, .advance 1, .advance 1, .advance 1,
      .advance 1, .advance 2, .advance 2, .advance 3, .take source, .letIn source, .reply source,
      .take source, .reply source, .advance 1, .advance 4, .advance 4, .take clone, .reply clone]
    ∃ final,
      (start (.withCapacity 0) (.sequential "agent") (calls.map AgentCall.task)).run? moves =
        some final ∧
      final.result? 1 = some (.ok (.cloned ⟨clone, ⟨clone, ⟨"apac"⟩⟩⟩)) ∧
      (final.directory.find? source).map Agent.state = some second ∧
      final.result? 3 = some (.error (.notFound clone)) ∧
      final.result? 4 = some (.ok (.state (first.cloneFor clone))) ∧
      WritesFirst 1 clone final.history ∧
      ClonesAreSnapshots 0 (.sequential "agent") calls moves final := by
  intro source clone first second calls moves
  let foreign (reply : Reply) : Bool :=
    reply.letter.request.isWrite && reply.letter.request.identity = clone &&
      reply.letter.sender ≠ 1
  have possible :
      ((start (.withCapacity 0) (.sequential "agent") (calls.map AgentCall.task)).run? moves).map
        (fun final => ([1, 3, 4].map final.result?,
          (final.directory.find? source).map Agent.state, (answers final.history).any foreign)) =
      some ([some (.ok (.cloned ⟨clone, ⟨clone, ⟨"apac"⟩⟩⟩)), some (.error (.notFound clone)),
        some (.ok (.state (first.cloneFor clone)))], some second, false) := by
    decide +kernel
  obtain ⟨final, ran, isFinal⟩ := Option.map_eq_some_iff.1 possible
  simp only [List.map_cons, List.map_nil, Prod.mk.injEq, List.cons.injEq] at isFinal
  obtain ⟨⟨isClone, notFound, isRead, -⟩, isSecond, noForeign⟩ := isFinal
  refine ⟨final, ran, isClone, isSecond, notFound, isRead, fun {_ other _ _ _} split => .inl ?_,
    run_clones 0 (.sequential "agent") calls moves ran⟩
  by_contra different
  rw [List.any_eq_false, split] at noForeign
  refine noForeign _ (List.mem_append_right _ List.mem_cons_self) ?_
  simp [foreign, AgentRequest.isWrite, AgentRequest.identity, different]

end Traffic

end SessionForge
