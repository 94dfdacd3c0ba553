/-
What a single call does with the supply of tokens, whatever other calls are under way at the same
time and whatever agents there were before. A call draws a token if it is the clone of an agent
that is there, or a selection that has a catalog; then it draws one, and otherwise none. It gives
no name but the token that it drew.

The call is followed from stage to stage through the history (`CallStage`). Its last stage says
what it has drawn, and what it has given.
-/

import SessionForge.Orchestrator.Call
import SessionForge.Proofs.Agent.Recorded
import SessionForge.Proofs.Results

namespace SessionForge

/-! ### Names and who draws them -/

/-- The name that an answer gives to something new: an agent or a sandbox. -/
def OrchestratorAnswer.name? : OrchestratorAnswer → Option String
  | .cloned clone => some clone.identity.token
  | .selected (.ok resolution) => some resolution.sandbox.token
  | .selected (.error _) | .resolved _ | .known _ | .state _ | .written => none

theorem OrchestratorAnswer.name?_selected {result : Except SelectionError Resolution}
    {name : String} (isName : (selected result).name? = some name) :
    ∃ resolution, result = .ok resolution ∧ resolution.sandbox.token = name := by
  cases result with
  | error error => cases isName
  | ok resolution => exact ⟨resolution, rfl, Option.some.inj isName⟩

/-- Whether an event tells a caller that an agent is there. -/
def TrafficEvent.confirms (caller : Nat) (identity : AgentIdentity) : TrafficEvent → Bool
  | .told sender (.isInitialized other) (.ok true) => sender = caller && other = identity
  | _ => false

theorem TrafficEvent.confirms_of_other {sender caller : Nat} {request : AgentRequest}
    {result : Except AgentError request.Answer} (different : sender ≠ caller)
    (identity : AgentIdentity) : (told sender request result).confirms caller identity = false := by
  unfold confirms
  split
  · next same =>
    rw [← (TrafficEvent.told.inj same).1, decide_eq_false different, Bool.false_and]
  · rfl

namespace OrchestratorCall

variable (config : Config) (caller : Nat) (history : List TrafficEvent)

/-- Whether a call is a selection that has a catalog. -/
def hasCatalog : OrchestratorCall → Bool
  | .select store _ _ _ => (config.selector.fetch store).isOk
  | .resolve _ _ | .isInitialized _ | .read _ | .fetch _ | .write _ _ | .clone _ => false

/-- Whether a call is the clone of an agent that was there when it asked. -/
def hasSource : OrchestratorCall → Bool
  | .clone source => history.any (TrafficEvent.confirms caller source)
  | .resolve _ _ | .isInitialized _ | .read _ | .fetch _ | .write _ _ | .select _ _ _ _ => false

/-- Whether a call draws a token. -/
def draws (call : OrchestratorCall) : Bool :=
  call.hasCatalog config || call.hasSource caller history

end OrchestratorCall

/-- A task mints nothing any more, and gives no name but one that was drawn for it. -/
inductive AgentTask.Gives (drawn : Option String) : AgentTask OrchestratorAnswer → Prop where
  | finished {result : Except AgentError OrchestratorAnswer}
      (own : ∀ answer token, result = .ok answer → answer.name? = some token →
        drawn = some token) : Gives drawn (.finished result)
  | asking {request : AgentRequest} {next : request.Answer → AgentTask OrchestratorAnswer}
      (later : ∀ answer, Gives drawn (next answer)) : Gives drawn (.asking request next)

/-- A call that has failed gives no name. -/
theorem gives_failed (drawn : Option String) (error : AgentError) :
    AgentTask.Gives drawn (.finished (.error error)) :=
  .finished fun _ _ failed => nomatch failed

/-! ### The stages of a call -/

/-- How far a call has got, by what it still has to do. -/
inductive CallStage (config : Config) (caller : Nat) (call : OrchestratorCall)
    (history : List TrafficEvent) : AgentTask OrchestratorAnswer → Prop where
  /-- It is none of those that draw. -/
  | plain {task : AgentTask OrchestratorAnswer}
      (never : ∀ later, call.draws config caller later = false)
      (undrawn : mintedBy (· == caller) history = []) (gives : task.Gives none) :
      CallStage config caller call history task
  /-- It asks for its source. -/
  | checking {source : AgentIdentity} {next : String → AgentTask OrchestratorAnswer}
      (isClone : call = .clone source) (untold : call.draws config caller history = false)
      (undrawn : mintedBy (· == caller) history = [])
      (gives : ∀ token, (next token).Gives (some token)) :
      CallStage config caller call history (.asking (.isInitialized source) fun known =>
        if known then .minting next else .finished (.error (.notFound source)))
  /-- It has failed for want of a source. -/
  | refused {error : AgentError} (untold : call.draws config caller history = false)
      (undrawn : mintedBy (· == caller) history = []) :
      CallStage config caller call history (.finished (.error error))
  /-- It draws next. -/
  | due {next : String → AgentTask OrchestratorAnswer}
      (draws : call.draws config caller history = true)
      (undrawn : mintedBy (· == caller) history = [])
      (gives : ∀ token, (next token).Gives (some token)) :
      CallStage config caller call history (.minting next)
  /-- It has drawn. -/
  | drawn {task : AgentTask OrchestratorAnswer} {token : String}
      (draws : call.draws config caller history = true)
      (drawn : mintedBy (· == caller) history = [token]) (gives : task.Gives (some token)) :
      CallStage config caller call history task

/-! ### The first stage -/

namespace OrchestratorCall

variable (config : Config)

/-- The rest of a clone that has drawn its identity. -/
def copying (source : AgentIdentity) (token : String) : AgentTask OrchestratorAnswer :=
  .asking (.isInitialized source) fun known =>
    if known then
      .asking (.read source) fun state =>
        .asking (.write ⟨token⟩ config.locationHint (state.cloneFor ⟨token⟩)) fun _ =>
          .finished (.ok (.cloned ⟨⟨token⟩, ⟨⟨token⟩, config.locationHint⟩⟩))
    else .finished (.error (.notFound source))

theorem task_clone (source : AgentIdentity) :
    (clone source).task config = .asking (.isInitialized source) fun known =>
      if known then .minting (copying config source)
      else .finished (.error (.notFound source)) := by
  refine congrArg (AgentTask.asking (.isInitialized source)) (funext fun known => ?_)
  cases known with
  | false => rfl
  | true =>
    refine congrArg AgentTask.minting (funext fun token => ?_)
    refine congrArg (AgentTask.asking (.isInitialized source)) (funext fun known => ?_)
    cases known <;> rfl

theorem gives_copying (source : AgentIdentity) (token : String) :
    (copying config source token).Gives (some token) := by
  refine .asking fun known => ?_
  cases known with
  | false => exact gives_failed (some token) _
  | true =>
    refine .asking fun state => .asking fun _ => .finished fun answer name isAnswer isName => ?_
    obtain rfl := Except.ok.inj isAnswer
    exact isName

/-- A call that makes one request and ends gives no name. -/
theorem gives_ask {request : AgentRequest} {answer : request.Answer → OrchestratorAnswer}
    (nameless : ∀ value, (answer value).name? = none) :
    AgentTask.Gives none (.asking request fun value => .finished (.ok (answer value))) := by
  refine .asking fun value => .finished fun other name isAnswer isName => ?_
  rw [← Except.ok.inj isAnswer, nameless] at isName
  cases isName

/-- Before anything has happened a call is in one of its first stages. -/
theorem stage_task (caller : Nat) (call : OrchestratorCall) :
    CallStage config caller call [] (call.task config) := by
  cases call with
  | resolve identity jurisdiction =>
    refine .plain (fun _ => rfl) rfl (.finished fun answer name isAnswer isName => ?_)
    obtain rfl := Except.ok.inj isAnswer
    cases isName
  | isInitialized handle => exact .plain (fun _ => rfl) rfl (gives_ask fun _ => rfl)
  | read handle => exact .plain (fun _ => rfl) rfl (gives_ask fun _ => rfl)
  | write handle state => exact .plain (fun _ => rfl) rfl (gives_ask fun _ => rfl)
  | fetch handle =>
    refine .plain (fun _ => rfl) rfl (.asking fun known => ?_)
    cases known with
    | false => exact gives_failed none _
    | true => exact gives_ask fun _ => rfl
  | clone source =>
    rw [task_clone]
    exact .checking rfl rfl rfl (gives_copying config source)
  | select store matcher context query =>
    have isTask : (select store matcher context query).task config =
        (config.selector.task store matcher context query >>= fun result =>
          pure (.selected result)) := rfl
    rw [isTask, SelectorConfig.task]
    cases fetched : config.selector.fetch store with
    | error trouble =>
      refine .plain (fun later => ?_) rfl (.finished fun answer name isAnswer isName => ?_)
      · simp [draws, hasCatalog, hasSource, fetched, Except.isOk, Except.toBool]
      · obtain rfl := Except.ok.inj isAnswer
        cases isName
    | ok catalog =>
      refine .due ?_ rfl fun token => .finished fun answer name isAnswer isName => ?_
      · simp [draws, hasCatalog, fetched, Except.isOk, Except.toBool]
      · obtain rfl := Except.ok.inj isAnswer
        obtain ⟨resolution, resolved, isName⟩ := OrchestratorAnswer.name?_selected isName
        obtain ⟨selection, -, resolved⟩ := bind_eq_ok_iff.1 resolved
        obtain ⟨entry, -, same⟩ := bind_eq_ok_iff.1 resolved
        obtain rfl := Except.ok.inj same
        exact congrArg some isName

end OrchestratorCall

/-! ### From stage to stage -/

section Hear

variable {α : Type} {caller : Nat} {task later : AgentTask α}

/-- Only a task that makes a request hears an answer of its own, and it is the answer to this
request. Whether the request was admitted makes no difference. -/
theorem exists_asking_of_hear {request : AgentRequest} {result : Except AgentError request.Answer}
    (heard : task.hear caller (.told caller request result) = some later) :
    ∃ next, task = .asking request next ∧ later = .resume next result := by
  cases task with
  | finished | minting => simp [AgentTask.hear] at heard
  | asking asked next =>
    by_cases same : request = asked
    · subst same
      rw [hear_told_self] at heard
      exact ⟨next, rfl, (Option.some.inj heard).symm⟩
    · simp [AgentTask.hear, same] at heard

theorem exists_minting_of_hear {token : String}
    (heard : task.hear caller (.minted caller token) = some later) :
    ∃ next, task = .minting next ∧ later = next token := by
  cases task with
  | finished | asking => simp [AgentTask.hear] at heard
  | minting next =>
    rw [hear_minted_self] at heard
    exact ⟨next, rfl, (Option.some.inj heard).symm⟩

/-- What it means that a task hears an event: the event is of no concern to its caller, or it
answers the request of the task, or it mints the token that the task waits for. -/
theorem hear_cases {event : TrafficEvent} (heard : task.hear caller event = some later) :
    (later = task ∧ event.mintedBy? (· == caller) = none ∧
      ∀ identity, event.confirms caller identity = false) ∨
    (∃ request next result, task = .asking request next ∧ later = .resume next result ∧
      (event = .told caller request result ∨ event = .answered caller request result)) ∨
    ∃ token next, task = .minting next ∧ later = next token ∧ event = .minted caller token := by
  cases event with
  | admitted letter => exact .inl ⟨(Option.some.inj heard).symm, rfl, fun _ => rfl⟩
  | created identity => exact .inl ⟨(Option.some.inj heard).symm, rfl, fun _ => rfl⟩
  | answered sender request result =>
    by_cases own : sender = caller
    · subst own
      obtain ⟨next, isTask, isLater⟩ := exists_asking_of_hear heard
      exact .inr (.inl ⟨request, next, result, isTask, isLater, .inr rfl⟩)
    · rw [(hear_of_other task own).1] at heard
      exact .inl ⟨(Option.some.inj heard).symm, rfl, fun _ => rfl⟩
  | told sender request result =>
    by_cases own : sender = caller
    · subst own
      obtain ⟨next, isTask, isLater⟩ := exists_asking_of_hear heard
      exact .inr (.inl ⟨request, next, result, isTask, isLater, .inl rfl⟩)
    · rw [(hear_of_other task own).2.1] at heard
      exact .inl ⟨(Option.some.inj heard).symm, rfl, TrafficEvent.confirms_of_other own⟩
  | minted sender token =>
    by_cases own : sender = caller
    · subst own
      obtain ⟨next, isTask, isLater⟩ := exists_minting_of_hear heard
      exact .inr (.inr ⟨token, next, isTask, isLater, rfl⟩)
    · rw [(hear_of_other task own).2.2] at heard
      exact .inl ⟨(Option.some.inj heard).symm, by simp [TrafficEvent.mintedBy?, own],
        fun _ => rfl⟩

end Hear

/-- A task that mints nothing goes on minting nothing. -/
theorem AgentTask.Gives.hear {drawn : Option String} {task later : AgentTask OrchestratorAnswer}
    {caller : Nat} {event : TrafficEvent} (gives : task.Gives drawn)
    (heard : task.hear caller event = some later) :
    later.Gives drawn ∧ event.mintedBy? (· == caller) = none := by
  rcases hear_cases heard with ⟨rfl, silent, -⟩ | ⟨request, next, result, rfl, rfl, isEvent⟩ |
    ⟨token, next, rfl, -, -⟩
  · exact ⟨gives, silent⟩
  · refine ⟨?_, by rcases isEvent with rfl | rfl <;> rfl⟩
    cases gives with
    | asking goesOn =>
      cases result with
      | ok value => exact goesOn value
      | error error => exact gives_failed drawn error
  · cases gives

namespace OrchestratorCall

variable {config : Config} {caller : Nat} {call : OrchestratorCall}

theorem draws_append (history later : List TrafficEvent) :
    call.draws config caller (history ++ later) =
      (call.draws config caller history || call.hasSource caller later) := by
  cases call <;> simp [draws, hasSource, Bool.or_assoc]

theorem hasSource_singleton {event : TrafficEvent}
    (silent : ∀ identity, event.confirms caller identity = false) :
    call.hasSource caller [event] = false := by
  cases call <;> simp [hasSource, silent]

end OrchestratorCall

section Stages

variable {config : Config} {caller : Nat} {call : OrchestratorCall} {history : List TrafficEvent}
  {task : AgentTask OrchestratorAnswer}

/-- What a caller hears brings its call from one stage to the next. -/
theorem CallStage.hear {event : TrafficEvent} {later : AgentTask OrchestratorAnswer}
    (stage : CallStage config caller call history task)
    (mailed : ∀ {sender request result}, event = .answered sender request result →
      request.isMailed = true)
    (heard : task.hear caller event = some later) :
    CallStage config caller call (history ++ [event]) later := by
  have still (silent : ∀ identity, event.confirms caller identity = false) :
      call.draws config caller (history ++ [event]) = call.draws config caller history := by
    rw [OrchestratorCall.draws_append, OrchestratorCall.hasSource_singleton silent,
      Bool.or_false]
  have undrawnStill {tokens : List String} (before : mintedBy (· == caller) history = tokens)
      (silent : event.mintedBy? (· == caller) = none) :
      mintedBy (· == caller) (history ++ [event]) = tokens :=
    (mintedBy_concat_of_silent _ _ silent).trans before
  cases stage with
  | plain never undrawn gives =>
    obtain ⟨gives, silent⟩ := gives.hear heard
    exact .plain never (undrawnStill undrawn silent) gives
  | @checking source next isClone untold undrawn gives =>
    rcases hear_cases heard with ⟨rfl, silent, unconfirmed⟩ |
      ⟨request, _, result, same, rfl, isEvent⟩ | ⟨_, _, same, -, -⟩
    · exact .checking isClone ((still unconfirmed).trans untold) (undrawnStill undrawn silent) gives
    · cases same
      rcases isEvent with rfl | rfl
      · have undrawn := undrawnStill undrawn rfl
        have isTold : call.draws config caller
            (history ++ [.told caller (.isInitialized source) result]) =
            call.hasSource caller [.told caller (.isInitialized source) result] := by
          rw [OrchestratorCall.draws_append, untold, Bool.false_or]
        subst isClone
        match result with
        | .ok true => exact .due (isTold.trans (by simp [OrchestratorCall.hasSource,
            TrafficEvent.confirms])) undrawn gives
        | .ok false => exact .refused isTold undrawn
        | .error _ => exact .refused isTold undrawn
      · exact nomatch mailed rfl
    · cases same
  | refused untold undrawn =>
    rcases hear_cases heard with ⟨rfl, silent, unconfirmed⟩ | ⟨_, _, _, same, -, -⟩ |
      ⟨_, _, same, -, -⟩
    · exact .refused ((still unconfirmed).trans untold) (undrawnStill undrawn silent)
    · cases same
    · cases same
  | due draws undrawn gives =>
    rcases hear_cases heard with ⟨rfl, silent, unconfirmed⟩ | ⟨_, _, _, same, -, -⟩ |
      ⟨token, _, same, rfl, rfl⟩
    · exact .due ((still unconfirmed).trans draws) (undrawnStill undrawn silent) gives
    · cases same
    · cases same
      refine .drawn ((still fun _ => rfl).trans draws) ?_ (gives token)
      rw [mintedBy_concat _ _ (by simp), undrawn, List.nil_append]
  | drawn draws drawn gives =>
    obtain ⟨gives, silent⟩ := gives.hear heard
    refine .drawn ?_ (undrawnStill drawn silent) gives
    rw [OrchestratorCall.draws_append, draws, Bool.true_or]

/-- The history has brought every call to one of its stages. -/
theorem stage_of_history
    (mailed : ∀ {sender request result}, .answered sender request result ∈ history →
      request.isMailed = true)
    (heard : history.foldlM (AgentTask.hear caller) (call.task config) = some task) :
    CallStage config caller call history task := by
  induction history using List.reverseRecOn generalizing task with
  | nil => exact Option.some.inj heard ▸ OrchestratorCall.stage_task config caller call
  | append_singleton earlier event inductionHypothesis =>
    rw [List.foldlM_append, Option.bind_eq_bind, Option.bind_eq_some_iff] at heard
    obtain ⟨between, heardEarlier, heardEvent⟩ := heard
    have stage := inductionHypothesis (fun member => mailed (List.mem_append_left _ member))
      heardEarlier
    refine stage.hear ?_ (by simpa using heardEvent)
    rintro _ _ _ rfl
    exact mailed List.mem_concat_self

/-! ### What a stage says about the tokens -/

/-- Whether a task mints a token next. -/
def AgentTask.isMinting {α : Type} : AgentTask α → Bool
  | .minting _ => true
  | .finished _ | .asking _ _ => false

theorem AgentTask.Gives.isMinting {drawn : Option String} (gives : task.Gives drawn) :
    task.isMinting = false := by
  cases gives <;> rfl

/-- A call has drawn a token, or it draws one next, or it is none of those that draw. -/
theorem CallStage.length_mintedBy (stage : CallStage config caller call history task) :
    (mintedBy (· == caller) history).length + task.isMinting.toNat =
      (call.draws config caller history).toNat := by
  cases stage with
  | plain never undrawn gives => rw [undrawn, gives.isMinting, never]; rfl
  | checking _ untold undrawn _ => rw [undrawn, untold]; rfl
  | refused untold undrawn => rw [undrawn, untold]; rfl
  | due draws undrawn _ => rw [undrawn, draws]; rfl
  | drawn draws drawn gives => rw [drawn, gives.isMinting, draws]; rfl

/-- A call that has ended gives no name but the token that it drew. -/
theorem CallStage.mintedBy_of_name? {answer : OrchestratorAnswer} {token : String}
    (stage : CallStage config caller call history (.finished (.ok answer)))
    (isName : answer.name? = some token) : mintedBy (· == caller) history = [token] := by
  have own {drawn : Option String} (gives : AgentTask.Gives drawn (.finished (.ok answer))) :
      drawn = some token := by
    cases gives with
    | finished own => exact own answer token rfl isName
  cases stage with
  | plain _ _ gives => exact nomatch own gives
  | drawn _ drawn gives => exact drawn.trans (by rw [Option.some.inj (own gives)])

end Stages

end SessionForge
