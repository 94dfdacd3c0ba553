/-
This file settles what a directory shows of the calls that were made to it: how many agents it has,
which of them have been written to, where each of them is, and what identity each of them keeps in
its state. All of it is decided by the writes before, those by which clones are made among them
(`Visit.calls_decided`).

A call either writes to one agent or leaves the directory and the supply as they are, whatever it is
and whether it succeeds or fails (`Visit.does_make`). Everything else goes by induction from the
last call of a visit. That the size of the mailboxes and how far the locators look make no
difference is said of two visits at once: their directories have the same agents all along, since
nothing that is answered depends on more than that (`alike_makeAll`).

Mailboxes have a greatest size, and nothing keeps a directory from asking for more. It then breaks
down over its first write, which any other directory carries out (`Visit.answers_of_tooGreat`).
-/

import Mathlib.Data.Finset.Card
import SessionForge.Agent.Visit
import SessionForge.Proofs.Agent.Cloning

namespace SessionForge

/-! ### Tasks that do not write -/

/-- A task that only makes something of the value of another. -/
theorem AgentTask.run_bind_pure {σ α β : Type} (answerer : AgentTask.Answerer σ)
    (task : AgentTask α) (make : α → β) (state : σ) (supply : TokenSupply) :
    (task >>= fun value => pure (make value)).run answerer state supply =
      ((task.run answerer state supply).1.map make, (task.run answerer state supply).2) := by
  rw [AgentTask.run_bind]
  rcases task.run answerer state supply with ⟨_ | _, _, _⟩ <;> rfl

namespace Directory

section Put

variable (directory : Directory) (identity : AgentIdentity) (agent : Agent)
  (fits : directory.mailboxCapacity ≤ greatestMailboxCapacity)

theorem location?_put_self :
    (directory.put identity agent fits).location? identity = some agent.location := by
  rw [location?, find?_put_self]
  rfl

theorem location?_put_other {other : AgentIdentity} (different : other ≠ identity) :
    (directory.put identity agent fits).location? other = directory.location? other := by
  rw [location?, find?_put_other _ _ _ _ different, location?]

end Put

theorem answer_read_snd (directory : Directory) (identity : AgentIdentity) :
    (directory.answer (.read identity)).2 = directory := by
  simp only [answer]
  split
  · rfl
  · split <;> rfl

/-- A fetch leaves everything as it is. -/
theorem run_fetch_snd (directory : Directory) (identity : AgentIdentity) (supply : TokenSupply) :
    ((AgentTask.fetch identity).run Directory.answer directory supply).2 = (directory, supply) := by
  have asked : directory.answer (.isInitialized identity) =
      (.ok (directory.contains identity), directory) := rfl
  simp only [AgentTask.fetch, AgentTask.run_bind, AgentTask.run_isInitialized, asked]
  cases directory.contains identity with
  | true => simp [answer_read_snd]
  | false => simp

end Directory

/-- How far a locator looks makes no difference to the handle that it gives. -/
theorem AgentAddress.handle_eq (address : AgentAddress) :
    address.handle = ⟨address.identity, address.locator.location⟩ := by
  obtain ⟨locator, identity, jurisdiction⟩ := address
  cases jurisdiction <;> rfl

namespace Visit

variable {visit : Visit} {call : DirectoryCall}

/-! ### One call -/

theorem makeAll_concat (visit : Visit) (calls : List DirectoryCall) (call : DirectoryCall) :
    visit.makeAll (calls ++ [call]) = (visit.makeAll calls).make call :=
  List.foldl_concat ..

/-- A record adds to what was written. -/
theorem writes_concat (directory : Directory) (supply : TokenSupply) (history : List CallRecord)
    (record : CallRecord) :
    (Visit.mk directory supply (history ++ [record])).writes =
      history.filterMap CallRecord.wrote? ++ record.wrote?.toList := by
  rw [writes, List.filterMap_append]
  cases wrote : record.wrote? <;> simp [wrote]

theorem writes_make (visit : Visit) (call : DirectoryCall) :
    (visit.make call).writes =
      visit.writes ++ (CallRecord.wrote? ⟨call, visit.answer call⟩).toList := by
  exact writes_concat _ _ _ _

/-- No agent has been stopped. -/
def AllRun (visit : Visit) : Prop :=
  ∀ identity agent, visit.directory.find? identity = some agent → agent.running = true

theorem make_of_run {answer : Except AgentError DirectoryAnswer} {directory : Directory}
    {supply : TokenSupply} (ran : call.task.run Directory.answer visit.directory visit.supply =
      (answer, directory, supply)) :
    visit.make call = ⟨directory, supply, visit.history ++ [⟨call, answer⟩]⟩ := by
  rw [make, ran]

/-- A directory that can have mailboxes carries out every write. -/
theorem run_write_of_fits (allRun : visit.AllRun) (address : AgentAddress) (state : SessionState)
    (fits : visit.directory.mailboxCapacity ≤ greatestMailboxCapacity) :
    (DirectoryCall.write address state).task.run Directory.answer visit.directory visit.supply =
      (.ok .written, visit.directory.put address.identity
        ⟨(visit.directory.location? address.identity).getD address.locator.location, state, true⟩
        fits, visit.supply) := by
  have written := answer_write address.locator.location state fits (allRun address.identity)
  simp only [DirectoryCall.task, AgentTask.run_bind_pure, AgentAddress.handle_eq,
    AgentHandle.write, AgentTask.run_write, written, Except.map]

/-- A directory that can have no mailboxes refuses every write. -/
theorem run_write_of_tooGreat (address : AgentAddress) (state : SessionState)
    (tooGreat : ¬ visit.directory.mailboxCapacity ≤ greatestMailboxCapacity) :
    (DirectoryCall.write address state).task.run Directory.answer visit.directory visit.supply =
      (.error (.mailboxTooLarge address.identity), visit.directory, visit.supply) := by
  simp only [DirectoryCall.task, AgentTask.run_bind_pure, AgentAddress.handle_eq,
    AgentHandle.write, AgentTask.run_write, Directory.answer, dif_neg tooGreat, Except.map]

/-- Where its source is not, a clone is refused. -/
theorem run_clone_of_missing (locator : AgentLocator) {source : AgentIdentity}
    (missing : visit.directory.find? source = none) :
    (DirectoryCall.clone locator source).task.run Directory.answer visit.directory visit.supply =
      (.error (.notFound source), visit.directory, visit.supply) := by
  simp only [DirectoryCall.task, AgentTask.run_bind_pure,
    run_clone_of_absent locator visit.supply missing, Except.map]

/-- Where its source is, a clone is made under the next token. -/
theorem run_clone_of_found (allRun : visit.AllRun) (locator : AgentLocator)
    {source : AgentIdentity} {original : Agent}
    (found : visit.directory.find? source = some original) :
    let clone : AgentIdentity := ⟨visit.supply.mint.1⟩
    (DirectoryCall.clone locator source).task.run Directory.answer visit.directory visit.supply =
      (.ok (.cloned ⟨clone, ⟨clone, locator.location⟩⟩),
        visit.directory.put clone
          ⟨(visit.directory.location? clone).getD locator.location,
            original.state.cloneFor clone, true⟩
          (Directory.mailboxCapacity_le_of_find? found),
        visit.supply.mint.2) := by
  simp only [DirectoryCall.task, AgentTask.run_bind_pure,
    run_clone_of_present locator visit.supply found allRun, Except.map]

/-- What a call does: it writes nothing and changes nothing, or it writes to one agent, which stays
in its place if it is there. A clone is written under its own identity. -/
inductive Does (visit : Visit) (call : DirectoryCall) : Visit → Prop where
  | looks {answer : Except AgentError DirectoryAnswer}
      (silent : CallRecord.wrote? ⟨call, answer⟩ = none) :
      Does visit call { visit with history := visit.history ++ [⟨call, answer⟩] }
  | writes {answer : Except AgentError DirectoryAnswer} {identity : AgentIdentity}
      {location : LocationHint} {state : SessionState} {supply : TokenSupply}
      (wrote : CallRecord.wrote? ⟨call, answer⟩ = some (identity, location))
      (own : state.sessionId = identity ∨
        ∃ address, call = .write address state ∧ address.identity = identity)
      (fits : visit.directory.mailboxCapacity ≤ greatestMailboxCapacity) :
      Does visit call
        { directory := visit.directory.put identity
            ⟨(visit.directory.location? identity).getD location, state, true⟩ fits
          supply
          history := visit.history ++ [⟨call, answer⟩] }

theorem does_make (allRun : visit.AllRun) (call : DirectoryCall) :
    visit.Does call (visit.make call) := by
  have silently
      (kept : (call.task.run Directory.answer visit.directory visit.supply).2 =
        (visit.directory, visit.supply))
      (silent : CallRecord.wrote? ⟨call, visit.answer call⟩ = none) :
      visit.Does call (visit.make call) := by
    have made : visit.make call =
        { visit with history := visit.history ++ [⟨call, visit.answer call⟩] } := by
      simp only [make, answer, kept]
    exact made ▸ .looks silent
  cases call with
  | resolve address => exact silently rfl rfl
  | isInitialized address =>
    exact silently (congrArg Prod.snd (AgentTask.run_bind_pure _ _ _ _ _)) rfl
  | read address =>
    refine silently (congrArg Prod.snd (AgentTask.run_bind_pure _ _ _ _ _) |>.trans ?_) rfl
    rw [AgentHandle.read, AgentTask.run_read, Directory.answer_read_snd]
  | fetch address =>
    refine silently (congrArg Prod.snd (AgentTask.run_bind_pure _ _ _ _ _) |>.trans ?_) rfl
    exact Directory.run_fetch_snd _ _ _
  | write address state =>
    by_cases fits : visit.directory.mailboxCapacity ≤ greatestMailboxCapacity
    · exact make_of_run (run_write_of_fits allRun address state fits) ▸
        .writes rfl (.inr ⟨address, rfl, rfl⟩) fits
    · exact make_of_run (run_write_of_tooGreat address state fits) ▸ .looks rfl
  | clone locator source =>
    cases found : visit.directory.find? source with
    | none => exact make_of_run (run_clone_of_missing locator found) ▸ .looks rfl
    | some original =>
      have fits := Directory.mailboxCapacity_le_of_find? found
      have own : (original.state.cloneFor ⟨visit.supply.mint.1⟩).sessionId =
          ⟨visit.supply.mint.1⟩ := rfl
      exact make_of_run (run_clone_of_found allRun locator found) ▸ .writes rfl (.inl own) fits

/-! ### What is shown of the writes -/

/-- What holds of a directory at every moment of a visit. -/
structure Orderly (visit : Visit) : Prop where
  allRun : visit.AllRun
  /-- Every agent is where the first write has put it. -/
  placed : ∀ identity, visit.directory.location? identity = visit.writes.lookup identity
  size : visit.directory.size = visit.written.toFinset.card

theorem orderly_begin (capacity : Nat) (supply : TokenSupply) :
    (begin capacity supply).Orderly where
  allRun _ _ found := nomatch found
  placed _ := rfl
  size := rfl

/-- An agent is there if it has been written to. -/
theorem Orderly.isSome_find?_iff (orderly : visit.Orderly) (identity : AgentIdentity) :
    (visit.directory.find? identity).isSome ↔ identity ∈ visit.written := by
  have placed := congrArg Option.isSome (orderly.placed identity)
  rw [Directory.location?, Option.isSome_map] at placed
  rw [placed, List.lookup_isSome_iff, written, List.mem_map]
  refine exists_congr fun write => and_congr_right fun _ => ?_
  rw [beq_iff_eq, eq_comm]

/-- One agent more, or another state of one that is there. -/
theorem Orderly.of_put (orderly : visit.Orderly) {after : Visit} {identity : AgentIdentity}
    {location : LocationHint} {state : SessionState}
    (fits : visit.directory.mailboxCapacity ≤ greatestMailboxCapacity)
    (put : after.directory = visit.directory.put identity
      ⟨(visit.directory.location? identity).getD location, state, true⟩ fits)
    (more : after.writes = visit.writes ++ [(identity, location)]) : after.Orderly where
  allRun other agent found := by
    rw [put] at found
    by_cases same : other = identity
    · subst same
      rw [Directory.find?_put_self] at found
      exact Option.some.inj found ▸ rfl
    · rw [Directory.find?_put_other _ _ _ _ same] at found
      exact orderly.allRun other agent found
  placed other := by
    rw [put, more, List.lookup_append, ← orderly.placed]
    by_cases same : other = identity
    · subst same
      rw [Directory.location?_put_self, List.lookup_cons_self]
      cases visit.directory.location? other <;> rfl
    · have absent : List.lookup other [(identity, location)] = none := by
        simp [same]
      rw [Directory.location?_put_other _ _ _ _ same, absent, Option.or_none]
  size := by
    have names : after.written.toFinset = insert identity visit.written.toFinset := by
      rw [written, more, List.map_append, List.toFinset_append, Finset.union_comm]
      rfl
    rw [put, names]
    cases found : visit.directory.find? identity with
    | none =>
      have new : identity ∉ visit.written.toFinset := by
        rw [List.mem_toFinset, ← orderly.isSome_find?_iff, found]
        simp
      rw [Directory.size_put_of_absent _ _ _ _ found, Finset.card_insert_of_notMem new,
        orderly.size]
    | some agent =>
      have known : identity ∈ visit.written.toFinset := by
        rw [List.mem_toFinset, ← orderly.isSome_find?_iff, found]
        rfl
      rw [Directory.size_put_of_present _ _ _ _ found, Finset.insert_eq_of_mem known, orderly.size]

theorem Orderly.of_does (orderly : visit.Orderly) {after : Visit} (does : visit.Does call after) :
    after.Orderly := by
  cases does with
  | @looks answer silent =>
    have same : (Visit.mk visit.directory visit.supply (visit.history ++ [⟨call, answer⟩])).writes =
        visit.writes := by
      rw [writes_concat, silent]
      exact List.append_nil _
    exact ⟨orderly.allRun, fun identity => same ▸ orderly.placed identity,
      by rw [written, same]; exact orderly.size⟩
  | writes wrote own fits =>
    refine orderly.of_put fits rfl ?_
    rw [writes_concat, wrote]
    rfl

theorem orderly_makeAll (orderly : visit.Orderly) (calls : List DirectoryCall) :
    (visit.makeAll calls).Orderly := by
  induction calls using List.reverseRecOn with
  | nil => exact orderly
  | append_singleton calls call inductionHypothesis =>
    rw [makeAll_concat]
    exact inductionHypothesis.of_does (does_make inductionHypothesis.allRun call)

theorem mailboxCapacity_makeAll (orderly : visit.Orderly) (calls : List DirectoryCall) :
    (visit.makeAll calls).directory.mailboxCapacity = visit.directory.mailboxCapacity := by
  induction calls using List.reverseRecOn with
  | nil => rfl
  | append_singleton calls call inductionHypothesis =>
    have does := does_make (orderly_makeAll orderly calls).allRun call
    rw [makeAll_concat, ← inductionHypothesis]
    generalize (visit.makeAll calls).make call = after at does
    cases does <;> rfl

/-- Nothing that was written is forgotten. -/
theorem writes_prefix_makeAll (visit : Visit) (calls : List DirectoryCall) :
    visit.writes <+: (visit.makeAll calls).writes := by
  induction calls using List.reverseRecOn with
  | nil => exact List.prefix_rfl
  | append_singleton calls call inductionHypothesis =>
    rw [makeAll_concat, writes_make]
    exact inductionHypothesis.trans (List.prefix_append _ _)

theorem Orderly.answer_isInitialized (orderly : visit.Orderly) (address : AgentAddress) :
    visit.answer (.isInitialized address) =
      .ok (.known (decide (address.identity ∈ visit.written))) := by
  have known : visit.directory.contains address.identity =
      decide (address.identity ∈ visit.written) := by
    rw [Directory.contains, Bool.eq_iff_iff, orderly.isSome_find?_iff, decide_eq_true_iff]
  simp only [answer, DirectoryCall.task, AgentTask.run_bind_pure, AgentAddress.handle_eq,
    AgentHandle.isInitialized, AgentTask.run_isInitialized, Directory.answer, known, Except.map]

/-- A call that writes nothing leaves everything as it is. -/
theorem unchanged_of_silent (allRun : visit.AllRun)
    (silent : CallRecord.wrote? ⟨call, visit.answer call⟩ = none) :
    (visit.make call).directory = visit.directory ∧ (visit.make call).supply = visit.supply := by
  obtain ⟨after, made⟩ : ∃ after, visit.make call = after := ⟨_, rfl⟩
  have does : visit.Does call after := made ▸ does_make allRun call
  rw [made]
  cases does with
  | looks => exact ⟨rfl, rfl⟩
  | writes wrote =>
    have sameHistory : visit.history ++ [⟨call, visit.answer call⟩] = _ :=
      congrArg Visit.history made
    obtain ⟨same, -⟩ := List.cons.inj (List.append_cancel_left sameHistory)
    rw [← same, silent] at wrote
    cases wrote

/-- If agents are written to under their own identities, every agent keeps its own identity. -/
theorem own_makeAll (orderly : visit.Orderly) {calls : List DirectoryCall}
    (own : ∀ identity agent, visit.directory.find? identity = some agent →
      agent.state.sessionId = identity)
    (addressed : ∀ address state, .write address state ∈ calls →
      state.sessionId = address.identity) (identity : AgentIdentity) (agent : Agent)
    (found : (visit.makeAll calls).directory.find? identity = some agent) :
    agent.state.sessionId = identity := by
  induction calls using List.reverseRecOn generalizing agent with
  | nil => exact own identity agent found
  | append_singleton calls call inductionHypothesis =>
    have before := inductionHypothesis fun address state member =>
      addressed address state (List.mem_append_left _ member)
    have does := does_make (orderly_makeAll orderly calls).allRun call
    rw [← makeAll_concat] at does
    generalize visit.makeAll (calls ++ [call]) = after at does found
    cases does with
    | looks => exact before agent found
    | @writes answer written location state supply wrote ownState fits =>
      by_cases same : identity = written
      · subst same
        obtain rfl := Option.some.inj ((Directory.find?_put_self _ _ _ _).symm.trans found)
        rcases ownState with same | ⟨address, rfl, same⟩
        · exact same
        · exact same ▸ addressed address state (List.mem_append_right _ List.mem_cons_self)
      · exact before agent ((Directory.find?_put_other _ _ _ _ same).symm.trans found)

/-! ### What makes no difference -/

end Visit

/-- The agents are the same, and either both directories can have mailboxes or neither can. -/
structure Directory.Alike (directory other : Directory) : Prop where
  agents : directory.agents = other.agents
  fits : directory.mailboxCapacity ≤ greatestMailboxCapacity ↔
    other.mailboxCapacity ≤ greatestMailboxCapacity

namespace Directory

variable {directory other : Directory}

theorem Alike.find?_eq (alike : directory.Alike other) (identity : AgentIdentity) :
    directory.find? identity = other.find? identity := by
  rw [find?, alike.agents, find?]

theorem Alike.put (alike : directory.Alike other) (identity : AgentIdentity) (agent : Agent)
    (fits : directory.mailboxCapacity ≤ greatestMailboxCapacity) :
    (directory.put identity agent fits).Alike (other.put identity agent (alike.fits.1 fits)) :=
  ⟨congrArg (fun agents => agents.insert identity.token agent) alike.agents, alike.fits⟩

/-- Directories with the same agents answer the same, and still have the same agents. -/
theorem Alike.answer (alike : directory.Alike other) (request : AgentRequest) :
    (directory.answer request).1 = (other.answer request).1 ∧
      (directory.answer request).2.Alike (other.answer request).2 := by
  cases request with
  | isInitialized identity =>
    simp only [Directory.answer, contains, alike.find?_eq identity]
    exact ⟨trivial, alike⟩
  | read identity =>
    simp only [Directory.answer, alike.find?_eq identity]
    split
    · exact ⟨rfl, alike⟩
    · split <;> exact ⟨rfl, alike⟩
  | write identity location state =>
    by_cases fits : directory.mailboxCapacity ≤ greatestMailboxCapacity
    · simp only [Directory.answer, dif_pos fits, dif_pos (alike.fits.1 fits),
        alike.find?_eq identity]
      split
      · exact ⟨rfl, alike.put _ _ fits⟩
      · split
        · exact ⟨rfl, alike.put _ _ fits⟩
        · exact ⟨rfl, alike⟩
    · simp only [Directory.answer, dif_neg fits, dif_neg (fits ∘ alike.fits.2)]
      exact ⟨trivial, alike⟩

/-- A task ends in the same way at directories with the same agents. -/
theorem Alike.run {α : Type} (alike : directory.Alike other) (task : AgentTask α)
    (supply : TokenSupply) :
    let outcome := task.run Directory.answer directory supply
    let otherOutcome := task.run Directory.answer other supply
    outcome.1 = otherOutcome.1 ∧ outcome.2.1.Alike otherOutcome.2.1 ∧
      outcome.2.2 = otherOutcome.2.2 := by
  induction task generalizing directory other supply with
  | finished result => exact ⟨rfl, alike, rfl⟩
  | asking request next inductionHypothesis =>
    obtain ⟨same, alikeAfter⟩ := alike.answer request
    simp only [AgentTask.run]
    rcases answered : directory.answer request with ⟨result, after⟩
    rcases answeredToo : other.answer request with ⟨otherResult, otherAfter⟩
    rw [answered, answeredToo] at same alikeAfter
    obtain rfl : result = otherResult := same
    cases result with
    | ok value => exact inductionHypothesis value alikeAfter supply
    | error error => exact ⟨rfl, alikeAfter, rfl⟩
  | minting next inductionHypothesis =>
    exact inductionHypothesis supply.mint.1 alike supply.mint.2

end Directory

/-- How far a locator looks makes no difference to a call. -/
theorem DirectoryCall.task_atHome (call : DirectoryCall) : call.atHome.task = call.task := by
  cases call <;> simp only [atHome, task, AgentAddress.handle_eq, AgentAddress.atHome]

namespace Visit

/-- Calls that differ in how far is looked alone are answered the same where the agents are the
same. -/
theorem alike_makeAll {visit other : Visit} {calls otherCalls : List DirectoryCall}
    (sameCalls : calls.map DirectoryCall.atHome = otherCalls.map DirectoryCall.atHome)
    (alike : visit.directory.Alike other.directory) (sameSupply : visit.supply = other.supply)
    (sameAnswers : visit.answers = other.answers) :
    (visit.makeAll calls).directory.Alike (other.makeAll otherCalls).directory ∧
      (visit.makeAll calls).answers = (other.makeAll otherCalls).answers := by
  induction calls generalizing visit other otherCalls with
  | nil =>
    obtain rfl : otherCalls = [] := List.map_eq_nil_iff.1 sameCalls.symm
    exact ⟨alike, sameAnswers⟩
  | cons call calls inductionHypothesis =>
    obtain ⟨otherCall, rest, rfl, sameCall, sameRest⟩ := List.map_eq_cons_iff.1 sameCalls.symm
    have sameTask : otherCall.task = call.task := by
      rw [← otherCall.task_atHome, sameCall, call.task_atHome]
    obtain ⟨sameAnswer, alikeAfter, sameSupplyAfter⟩ := alike.run call.task visit.supply
    have alikeNext : (visit.make call).directory.Alike (other.make otherCall).directory := by
      simpa only [make, sameTask, ← sameSupply] using alikeAfter
    have sameSupplyNext : (visit.make call).supply = (other.make otherCall).supply := by
      simpa only [make, sameTask, ← sameSupply] using sameSupplyAfter
    have sameAnswersNext : (visit.make call).answers = (other.make otherCall).answers := by
      simp only [answers, make, sameTask, ← sameSupply, List.map_append, List.map_cons,
        List.map_nil, sameAnswer]
      rw [← answers, ← answers, sameAnswers]
    have conclusion := inductionHypothesis sameRest.symm alikeNext sameSupplyNext sameAnswersNext
    exact conclusion

theorem alike_begin {capacity otherCapacity : Nat}
    (fits : capacity ≤ greatestMailboxCapacity ↔ otherCapacity ≤ greatestMailboxCapacity) :
    (Directory.withCapacity capacity).Alike (.withCapacity otherCapacity) := by
  have roomy : 1 ≤ greatestMailboxCapacity := by decide
  refine ⟨rfl, ?_⟩
  simp only [Directory.withCapacity, Nat.max_le, roomy, and_true]
  exact fits

/-! ### Visits from the beginning -/

/-- A directory that was empty when the visit began shows what has been written, and nothing else.
It has as many agents as were written to, and says of each of them that it was written to; an agent
stays where its first write has put it. Calls that write nothing change nothing. How far is looked
makes no difference to any answer, nor does the size of the mailboxes, as long as there can be
mailboxes. And if every agent is written to under its own identity, every agent keeps it. -/
theorem calls_decided (capacity : Nat) (supply : TokenSupply) (calls : List DirectoryCall) :
    let visit := (begin capacity supply).makeAll calls
    visit.directory.size = visit.written.toFinset.card ∧
    (∀ address, visit.answer (.isInitialized address) =
      .ok (.known (decide (address.identity ∈ visit.written)))) ∧
    (∀ identity, visit.directory.location? identity = visit.writes.lookup identity) ∧
    (∀ later identity, identity ∈ visit.written →
      identity ∈ (visit.makeAll later).written ∧
        (visit.makeAll later).directory.location? identity =
          visit.directory.location? identity) ∧
    (capacity ≤ greatestMailboxCapacity → ∀ address state,
      visit.answer (.write address state) = .ok .written) ∧
    (∀ locator source,
      (source ∈ visit.written →
        ∃ clone, visit.answer (.clone locator source) = .ok (.cloned clone)) ∧
      (source ∉ visit.written →
        visit.answer (.clone locator source) = .error (.notFound source))) ∧
    (∀ call, CallRecord.wrote? ⟨call, visit.answer call⟩ = none →
      (visit.make call).directory = visit.directory ∧ (visit.make call).supply = visit.supply) ∧
    (∀ otherCapacity otherCalls,
      otherCalls.map DirectoryCall.atHome = calls.map DirectoryCall.atHome →
      (otherCapacity ≤ greatestMailboxCapacity ↔ capacity ≤ greatestMailboxCapacity) →
        ((begin otherCapacity supply).makeAll otherCalls).answers = visit.answers ∧
          ((begin otherCapacity supply).makeAll otherCalls).directory.agents =
            visit.directory.agents) ∧
    ((∀ address state, .write address state ∈ calls → state.sessionId = address.identity) →
      ∀ identity agent, visit.directory.find? identity = some agent →
        agent.state.sessionId = identity) := by
  intro visit
  have orderly : visit.Orderly := orderly_makeAll (orderly_begin capacity supply) calls
  refine ⟨orderly.size, orderly.answer_isInitialized, orderly.placed, ?stays, ?carriedOut, ?cloned,
    fun _ => unchanged_of_silent orderly.allRun, ?alike, ?own⟩
  case stays =>
    intro later identity written
    have kept := writes_prefix_makeAll visit later
    refine ⟨(kept.map Prod.fst).subset written, ?_⟩
    obtain ⟨agent, found⟩ := Option.isSome_iff_exists.1
      ((orderly.isSome_find?_iff identity).2 written)
    have placed : visit.directory.location? identity = some agent.location := by
      rw [Directory.location?, found, Option.map_some]
    rw [(orderly_makeAll orderly later).placed, placed]
    exact kept.lookup_eq_some ((orderly.placed identity).symm.trans placed)
  case carriedOut =>
    intro fits address state
    have fitsHere : visit.directory.mailboxCapacity ≤ greatestMailboxCapacity := by
      rw [mailboxCapacity_makeAll (orderly_begin capacity supply)]
      exact Nat.max_le.2 ⟨fits, by decide⟩
    exact congrArg Prod.fst (run_write_of_fits orderly.allRun address state fitsHere)
  case cloned =>
    intro locator source
    rw [← orderly.isSome_find?_iff, Option.not_isSome_iff_eq_none, Option.isSome_iff_exists]
    constructor
    · rintro ⟨original, found⟩
      exact ⟨_, congrArg Prod.fst (run_clone_of_found orderly.allRun locator found)⟩
    · intro missing
      exact congrArg Prod.fst (run_clone_of_missing locator missing)
  case alike =>
    intro otherCapacity otherCalls sameCalls fits
    have alikeBegin : (begin otherCapacity supply).directory.Alike
        (begin capacity supply).directory := alike_begin fits
    obtain ⟨alike, sameAnswers⟩ := alike_makeAll sameCalls alikeBegin rfl rfl
    exact ⟨sameAnswers, alike.agents⟩
  case own =>
    refine own_makeAll (orderly_begin capacity supply) ?_
    intro identity agent found
    cases found

/-- An agent is written to, cloned, and written to again through a locator of another place, in
mailboxes with room for one request. Looking at home all the time, in greater mailboxes, gives the
same answers. -/
theorem calls_decided_of_twoPlaces :
    let a : AgentIdentity := ⟨"a"⟩
    let calls (jurisdiction : Jurisdiction) : List DirectoryCall :=
      [.write ⟨⟨⟨"weur"⟩⟩, a, jurisdiction⟩ (.fresh a), .clone ⟨⟨"enam"⟩⟩ a,
        .write ⟨⟨⟨"apac"⟩⟩, a, jurisdiction⟩ (.fresh a)]
    let supply : TokenSupply := ⟨fun _ => "b", 0⟩
    let visit := (begin 0 supply).makeAll (calls .everywhere)
    let other := (begin 64 supply).makeAll (calls .home)
    let missing : DirectoryCall := .clone ⟨⟨"enam"⟩⟩ ⟨"c"⟩
    visit.directory.size = 2 ∧ visit.directory.location? a = some ⟨"weur"⟩ ∧
      visit.answer (.write ⟨⟨⟨"enam"⟩⟩, ⟨"c"⟩, .home⟩ (.fresh a)) = .ok .written ∧
      (visit.makeAll [missing]).directory.location? a = visit.directory.location? a ∧
      visit.answer missing = .error (.notFound ⟨"c"⟩) ∧
      (visit.make missing).supply = visit.supply ∧ other.answers = visit.answers ∧
      ∀ identity agent, visit.directory.find? identity = some agent →
        agent.state.sessionId = identity := by
  intro a calls supply visit other missing
  have writes : visit.writes = [(a, ⟨"weur"⟩), (⟨"b"⟩, ⟨"enam"⟩), (a, ⟨"apac"⟩)] := by
    decide +kernel
  have written : visit.written = [a, ⟨"b"⟩, a] := congrArg (List.map Prod.fst) writes
  have fits : 0 ≤ greatestMailboxCapacity := Nat.zero_le _
  obtain ⟨size, -, placed, stays, carriedOut, cloned, unchanged, alike, own⟩ :=
    calls_decided 0 supply (calls .everywhere)
  have known : a ∈ visit.written := by rw [written]; exact List.mem_cons_self
  have unknown : ⟨"c"⟩ ∉ visit.written := by rw [written]; decide
  have refused := (cloned ⟨⟨"enam"⟩⟩ ⟨"c"⟩).2 unknown
  have silent : CallRecord.wrote? ⟨missing, visit.answer missing⟩ = none := by
    rw [show visit.answer missing = _ from refused]
    rfl
  refine ⟨size.trans ?_, (placed a).trans ?_, carriedOut fits _ _, (stays [missing] a known).2,
    refused, (unchanged missing silent).2,
    (alike 64 (calls .home) rfl (iff_of_true (by decide) fits)).1, own ?_⟩
  · rw [written]
    decide
  · rw [show _ = _ from writes]
    rfl
  · intro address state member
    have each : address.identity = a ∧ state = .fresh a := by
      simp only [calls, List.mem_cons, DirectoryCall.write.injEq, reduceCtorEq, List.not_mem_nil,
        false_or, or_false] at member
      rcases member with ⟨rfl, rfl⟩ | ⟨rfl, rfl⟩ <;> exact ⟨rfl, rfl⟩
    rw [each.1, each.2]
    rfl

/-- Where there can be no mailboxes, the first write is not carried out. -/
theorem answers_of_tooGreat :
    let calls : List DirectoryCall := [.write ⟨⟨⟨"enam"⟩⟩, ⟨"a"⟩, .home⟩ (.fresh ⟨"a"⟩)]
    let supply : TokenSupply := .sequential "id"
    ((begin 64 supply).makeAll calls).answers ≠
      ((begin 2305843009213693952 supply).makeAll calls).answers := by
  intro calls supply same
  cases same

end Visit

end SessionForge
