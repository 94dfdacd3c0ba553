/-
This file says what a clone, made with no other task in between, changes: nothing at all if its
source was never written to, and one agent otherwise. That agent is the one of the next token, and
whether or not it was there before, it holds the content of the source and nothing else of it
afterwards. The token may be that of an agent that is there, even that of the source; then the
agent stays in its place and loses the state that it had.

`run_clone` states this for every directory that has come about by requests, every locator, every
source and every supply.
-/

import SessionForge.Agent.Locator
import SessionForge.Proofs.Agent.Register

namespace SessionForge

/-! ### A clone as one change to the directory -/

section Run

variable {directory : Directory} (locator : AgentLocator) {source : AgentIdentity}
  (supply : TokenSupply)

/-- Without a source there is no clone, and nothing happens. -/
theorem run_clone_of_absent (absent : directory.find? source = none) :
    (locator.clone source).run Directory.answer directory supply =
      (.error (.notFound source), directory, supply) := by
  have asked : directory.answer (.isInitialized source) = (.ok false, directory) := by
    simp [Directory.answer, Directory.contains, absent]
  simp [AgentLocator.clone, AgentLocator.resolve, AgentHandle.isInitialized, AgentTask.run_bind,
    asked]

/-- An agent that runs, or none, at a directory that can make agents, gets its state from a
write. -/
theorem answer_write {identity : AgentIdentity} (location : LocationHint) (state : SessionState)
    (fits : directory.mailboxCapacity ≤ greatestMailboxCapacity)
    (running : ∀ agent, directory.find? identity = some agent → agent.running = true) :
    directory.answer (.write identity location state) =
      (.ok (), directory.put identity
        ⟨(directory.location? identity).getD location, state, true⟩ fits) := by
  simp only [Directory.answer, dif_pos fits, Directory.location?]
  split
  · next absent => simp [absent]
  · next agent found => simp [found, running agent found]

/-- With a source the agent of the next token gets the content of the source. -/
theorem run_clone_of_present {original : Agent} (found : directory.find? source = some original)
    (running : ∀ identity agent, directory.find? identity = some agent → agent.running = true) :
    (locator.clone source).run Directory.answer directory supply =
      (.ok ⟨⟨supply.mint.1⟩, ⟨⟨supply.mint.1⟩, locator.location⟩⟩,
        directory.put ⟨supply.mint.1⟩
          ⟨(directory.location? ⟨supply.mint.1⟩).getD locator.location,
            original.state.cloneFor ⟨supply.mint.1⟩, true⟩
          (Directory.mailboxCapacity_le_of_find? found),
        supply.mint.2) := by
  have asked : directory.answer (.isInitialized source) = (.ok true, directory) := by
    simp [Directory.answer, Directory.contains, found]
  have stateRead : directory.answer (.read source) = (.ok original.state, directory) := by
    simp [Directory.answer, found, running source original found]
  have written := answer_write locator.location (original.state.cloneFor ⟨supply.mint.1⟩)
    (Directory.mailboxCapacity_le_of_find? found) (running ⟨supply.mint.1⟩)
  simp [AgentLocator.clone, AgentLocator.resolve, AgentHandle.isInitialized, AgentHandle.fetch,
    AgentHandle.write, AgentTask.fetch, AgentTask.run_bind, asked, stateRead, written]

end Run

/-! ### What a clone changes -/

/-- A directory differs from the one before by a clone alone: at the identity of the clone it has
the content of the original under that identity and nothing else of it, and elsewhere it is as it
was. -/
structure DiffersByClone (before after : Directory) (locator : AgentLocator)
    (original : SessionState) (clone : AgentIdentity) : Prop where
  copied : after.find? clone = some {
    location := (before.location? clone).getD locator.location
    state :=
      { sessionId := clone, sandboxInstanceId := none, pendingUserInputs := [],
        currentDevState := .idle, generationPromise := none, shouldBeGenerating := false,
        clientReportedErrors := [], content := original.content }
    running := true }
  unchanged : ∀ other, other ≠ clone → after.find? other = before.find? other
  capacity : after.mailboxCapacity = before.mailboxCapacity
  size_of_new : before.find? clone = none → after.size = before.size + 1
  size_of_old : before.find? clone ≠ none → after.size = before.size
  placed : before.find? clone = none → after.location? clone = some locator.location
  /-- With a new identity every agent of before is still what it was, the source included. -/
  kept : before.find? clone = none →
    ∀ identity agent, before.find? identity = some agent → after.find? identity = some agent

theorem differsByClone_put {directory : Directory} {locator : AgentLocator}
    {original : SessionState} {clone : AgentIdentity}
    (fits : directory.mailboxCapacity ≤ greatestMailboxCapacity) :
    DiffersByClone directory
      (directory.put clone
        ⟨(directory.location? clone).getD locator.location, original.cloneFor clone, true⟩ fits)
      locator original clone where
  copied := Directory.find?_put_self _ _ _ _
  unchanged _ different := Directory.find?_put_other _ _ _ _ different
  capacity := rfl
  size_of_new new := Directory.size_put_of_absent _ _ _ _ new
  size_of_old old := by
    obtain ⟨agent, found⟩ := Option.ne_none_iff_exists'.1 old
    exact Directory.size_put_of_present _ _ _ _ found
  placed new := by simp [Directory.location?, new]
  kept new identity agent found := by
    have different : identity ≠ clone := fun same => by simp [same, new] at found
    rw [Directory.find?_put_other _ _ _ _ different, found]

/-- A clone is refused exactly if its source was never written to, and then nothing changes, the
supply included. Otherwise it has the identity of the next token, and its handle reads the copy,
which is all that has changed. -/
theorem run_clone {directory : Directory} {history : List AgentRequest}
    (reached : directory.ReachedBy history) (locator : AgentLocator) (source : AgentIdentity)
    (supply : TokenSupply) :
    let outcome := (locator.clone source).run Directory.answer directory supply
    let clone : AgentIdentity := ⟨supply.token supply.minted⟩
    (outcome.1 = .error (.notFound source) ↔
      ∀ location state, AgentRequest.write source location state ∉ history) ∧
    ((∀ location state, AgentRequest.write source location state ∉ history) →
      outcome.2 = (directory, supply)) ∧
    ((∃ location state, AgentRequest.write source location state ∈ history) →
      ∃ original after, directory.find? source = some original ∧
        outcome = (.ok ⟨clone, ⟨clone, locator.location⟩⟩, after,
          { supply with minted := supply.minted + 1 }) ∧
        DiffersByClone directory after locator original.state clone ∧
        ((AgentHandle.mk clone locator.location).read.run Directory.answer after supply).1 =
          .ok (original.state.cloneFor clone)) := by
  intro outcome clone
  have written := Directory.isSome_find?_iff_written reached source
  cases found : directory.find? source with
  | none =>
    have never : ∀ location state, AgentRequest.write source location state ∉ history := by
      intro location state member
      exact absurd (written.2 ⟨location, state, member⟩) (by simp [found])
    have refused : outcome = (.error (.notFound source), directory, supply) :=
      run_clone_of_absent locator supply found
    refine ⟨⟨fun _ => never, fun _ => by rw [refused]⟩, fun _ => by rw [refused], ?_⟩
    rintro ⟨location, state, member⟩
    exact absurd member (never location state)
  | some original =>
    obtain ⟨location, state, member⟩ := written.1 (by simp [found])
    have fits := Directory.mailboxCapacity_le_of_find? found
    have made := run_clone_of_present locator supply found
      fun _ _ => Directory.running_of_reachedBy reached
    refine ⟨⟨fun refused => ?_, fun never => absurd member (never location state)⟩,
      fun never => absurd member (never location state), fun _ => ?_⟩
    · rw [show outcome = _ from made] at refused
      cases refused
    · refine ⟨original, _, rfl, made, differsByClone_put fits, ?_⟩
      have copy := Directory.find?_put_self directory clone
        ⟨(directory.location? clone).getD locator.location, original.state.cloneFor clone, true⟩
        fits
      rw [AgentHandle.read, AgentTask.run_read]
      simp only [Directory.answer, clone, TokenSupply.mint] at copy ⊢
      rw [copy]
      rfl

/-- The token of the source itself: the clone is the source, which stays where it was placed. -/
theorem run_clone_onto_source :
    let source : AgentIdentity := ⟨"a"⟩
    let written : SessionState := { SessionState.fresh source with shouldBeGenerating := true }
    let directory := ((Directory.withCapacity 0).answer (.write source ⟨"weur"⟩ written)).2
    let outcome :=
      ((AgentLocator.mk ⟨"apac"⟩).clone source).run Directory.answer directory ⟨fun _ => "a", 0⟩
    outcome.1 = .ok ⟨source, ⟨source, ⟨"apac"⟩⟩⟩ ∧
      outcome.2.1.find? source = some ⟨⟨"weur"⟩, SessionState.fresh source, true⟩ ∧
      outcome.2.1.size = 1 ∧ outcome.2.2.minted = 1 := by
  intro source written directory outcome
  have reached : directory.ReachedBy [.write source ⟨"weur"⟩ written] :=
    .answered (.begun 0) (show _ = Except.ok () from rfl)
  obtain ⟨-, -, present⟩ := run_clone reached ⟨⟨"apac"⟩⟩ source ⟨fun _ => "a", 0⟩
  obtain ⟨original, after, found, made, differs, -⟩ :=
    present ⟨⟨"weur"⟩, written, List.mem_singleton_self _⟩
  obtain rfl : original = ⟨⟨"weur"⟩, written, true⟩ := Option.some.inj (found.symm.trans rfl)
  rw [show outcome = _ from made]
  refine ⟨rfl, differs.copied, ?_, rfl⟩
  rw [differs.size_of_old (by rw [found]; simp)]
  rfl

end SessionForge
