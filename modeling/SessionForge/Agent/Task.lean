/-
What is done with agents, as tasks. A task is written down once, as the requests that it makes, one
after the other, and what it does with their answers. Who answers the requests is left open: a
directory may answer all requests of a task in a row, or let other tasks come in between.
-/

import SessionForge.Agent.Directory

namespace SessionForge

/-- A task that makes requests, mints tokens and ends with a value or an error. It ends with the
first request that fails. -/
inductive AgentTask (α : Type) where
  | finished (result : Except AgentError α)
  | asking (request : AgentRequest) (next : request.Answer → AgentTask α)
  | minting (next : String → AgentTask α)

namespace AgentTask

variable {α β : Type}

/-! ### Putting tasks together -/

/-- Goes on with another task when a task has ended with a value. -/
def andThen (task : AgentTask α) (next : α → AgentTask β) : AgentTask β :=
  match task with
  | .finished (.ok value) => next value
  | .finished (.error error) => .finished (.error error)
  | .asking request rest => .asking request fun answer => (rest answer).andThen next
  | .minting rest => .minting fun token => (rest token).andThen next

instance : Monad AgentTask where
  pure value := .finished (.ok value)
  bind := andThen

/-- What is left to do after the answer to a request. -/
def resume (next : β → AgentTask α) : Except AgentError β → AgentTask α
  | .ok value => next value
  | .error error => .finished (.error error)

/-- Ends with an error. -/
def fail (error : AgentError) : AgentTask α :=
  .finished (.error error)

/-- Makes one request. -/
def ask (request : AgentRequest) : AgentTask request.Answer :=
  .asking request pure

/-- Mints the identity of a new agent. -/
def mintAgent : AgentTask AgentIdentity :=
  .minting fun token => pure ⟨token⟩

/-! ### The tasks -/

/-- Whether an agent has been written to. -/
def isInitialized (identity : AgentIdentity) : AgentTask Bool :=
  ask (.isInitialized identity)

/-- The state of an agent. -/
def read (identity : AgentIdentity) : AgentTask SessionState :=
  ask (.read identity)

/-- Replaces the state of an agent, which is made there if it is not yet. -/
def write (identity : AgentIdentity) (location : LocationHint) (state : SessionState) :
    AgentTask Unit :=
  ask (.write identity location state)

/-- The state of an agent that says of itself that it has been written to. -/
def fetch (identity : AgentIdentity) : AgentTask SessionState := do
  if ← isInitialized identity then read identity else fail (.notFound identity)

/-! ### Doing a task in a row -/

/-- Who answers requests: a function on the states of some kind. -/
abbrev Answerer (σ : Type) :=
  σ → (request : AgentRequest) → Except AgentError request.Answer × σ

/-- Does a whole task, with no other in between. -/
def run {σ : Type} (answerer : Answerer σ) :
    AgentTask α → σ → TokenSupply → Except AgentError α × σ × TokenSupply
  | .finished result, state, supply => (result, state, supply)
  | .asking request next, state, supply =>
    match answerer state request with
    | (.ok value, state) => run answerer (next value) state supply
    | (.error error, state) => (.error error, state, supply)
  | .minting next, state, supply => run answerer (next supply.mint.1) state supply.mint.2

section Run

variable {σ : Type} (answerer : Answerer σ) (state : σ) (supply : TokenSupply)

@[simp] theorem run_pure (value : α) :
    run answerer (pure value) state supply = (.ok value, state, supply) :=
  rfl

@[simp] theorem run_fail (error : AgentError) :
    run answerer (fail error : AgentTask α) state supply = (.error error, state, supply) :=
  rfl

@[simp] theorem run_mintAgent :
    run answerer mintAgent state supply = (.ok ⟨supply.mint.1⟩, state, supply.mint.2) :=
  rfl

theorem run_ask (request : AgentRequest) :
    run answerer (ask request) state supply =
      ((answerer state request).1, (answerer state request).2, supply) := by
  simp only [ask, run]
  split
  · next answered => rw [answered, run_pure]
  · next answered => rw [answered]

@[simp] theorem run_isInitialized (identity : AgentIdentity) :
    run answerer (isInitialized identity) state supply =
      ((answerer state (.isInitialized identity)).1,
        (answerer state (.isInitialized identity)).2, supply) :=
  run_ask _ _ _ _

@[simp] theorem run_read (identity : AgentIdentity) :
    run answerer (read identity) state supply =
      ((answerer state (.read identity)).1, (answerer state (.read identity)).2, supply) :=
  run_ask _ _ _ _

@[simp] theorem run_write (identity : AgentIdentity) (location : LocationHint)
    (written : SessionState) :
    run answerer (write identity location written) state supply =
      ((answerer state (.write identity location written)).1,
        (answerer state (.write identity location written)).2, supply) :=
  run_ask _ _ _ _

/-- A task that goes on with another is done by doing both in a row. -/
theorem run_bind (task : AgentTask α) (next : α → AgentTask β) :
    run answerer (task >>= next) state supply =
      match run answerer task state supply with
      | (.ok value, state, supply) => run answerer (next value) state supply
      | (.error error, state, supply) => (.error error, state, supply) := by
  induction task generalizing state supply with
  | finished result => cases result <;> rfl
  | asking request rest inductionHypothesis =>
    change run answerer (.asking request fun answer => (rest answer).andThen next) state supply = _
    simp only [run]
    split
    · exact inductionHypothesis _ _ _
    · rfl
  | minting rest inductionHypothesis => exact inductionHypothesis _ _ _

end Run

end AgentTask

end SessionForge
