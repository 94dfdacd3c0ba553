/-
What is said of calls that are under way at the same time, among them calls that make clones. Every
call is a process. What matters of a step is what it answers: a request takes effect in the step in
which it is answered, and in no other. Its answer is then what a register answers that holds the
agent of that moment, the agent asked becomes what the register becomes, and all other agents and
all other calls are as before (`Traffic.Effect`, `effect_of_step?`). The facts about single calls
are proved from this alone, by induction on the moves of a run.
-/

import Mathlib.Data.List.Induction
import SessionForge.Agent.Locator
import SessionForge.Proofs.Agent.Preserved

namespace SessionForge

/-! ### Calls -/

/-- What a call gives in the end. -/
inductive CallOutcome where
  | known (initialized : Bool)
  | state (state : SessionState)
  | written
  | cloned (clone : ClonedAgent)
  deriving DecidableEq

/-- What the answer to a request gives to the one who made it. -/
def AgentRequest.outcome : (request : AgentRequest) → request.Answer → CallOutcome
  | .isInitialized _, initialized => .known initialized
  | .read _, state => .state state
  | .write _ _ _, () => .written

/-- A call by one who uses the directory: a clone, or one request. -/
inductive AgentCall where
  | clone (locator : AgentLocator) (source : AgentIdentity)
  | ask (request : AgentRequest)

/-- What a call does. -/
def AgentCall.task : AgentCall → AgentTask CallOutcome
  | .clone locator source => do return .cloned (← locator.clone source)
  | .ask request => do return request.outcome (← AgentTask.ask request)

/-! ### Answers in a history -/

/-- The answer that is given in an event. -/
def TrafficEvent.answer? : TrafficEvent → Option Reply
  | .answered sender request result | .told sender request result =>
    some ⟨⟨sender, request⟩, result⟩
  | .admitted _ | .created _ | .minted _ _ => none

/-- All answers of a history, the oldest first. -/
def answers (history : List TrafficEvent) : List Reply :=
  history.filterMap TrafficEvent.answer?

theorem answers_append (history later : List TrafficEvent) :
    answers (history ++ later) = answers history ++ answers later :=
  List.filterMap_append

/-- Nobody has written to an agent before one process did. -/
def WritesFirst (writer : Nat) (identity : AgentIdentity) (history : List TrafficEvent) : Prop :=
  ∀ {earlier other location state later},
    answers history = earlier ++ ⟨⟨other, .write identity location state⟩, .ok ()⟩ :: later →
      other = writer ∨ ∃ location state,
        ⟨⟨writer, .write identity location state⟩, .ok ()⟩ ∈ earlier

namespace Traffic

variable {α : Type} {capacity : Nat} {tasks : List (AgentTask α)}
  {first traffic after : Traffic α}

/-! ### Runs -/

theorem run?_append (traffic : Traffic α) (moves later : List TrafficMove) :
    traffic.run? (moves ++ later) =
      (traffic.run? moves).bind fun between => between.run? later := by
  rw [run?, List.foldlM_append]
  rfl

theorem run?_concat_eq_some_iff {moves : List TrafficMove} {move : TrafficMove} :
    first.run? (moves ++ [move]) = some after ↔
      ∃ before, first.run? moves = some before ∧ before.step? move = some after := by
  simp only [run?_append, Option.bind_eq_some_iff]
  refine exists_congr fun before => and_congr_right fun _ => ?_
  rw [run?, List.foldlM_cons, Option.bind_eq_bind]
  exact ⟨fun ran => by simpa [List.foldlM_nil] using ran, fun moved => by rw [moved]; rfl⟩

/-- A traffic is passed in the course of some moves. -/
def Passes (first : Traffic α) (moves : List TrafficMove) (moment : Traffic α) : Prop :=
  ∃ earlier, earlier <+: moves ∧ first.run? earlier = some moment

theorem passes_last {moves : List TrafficMove} (ran : first.run? moves = some after) :
    first.Passes moves after :=
  ⟨moves, List.prefix_rfl, ran⟩

/-- What holds at the beginning and is kept by every move holds at the end of every run. -/
theorem run_induction {motive : List TrafficMove → Traffic α → Prop}
    (orderly : first.Orderly capacity tasks) (begin : motive [] first)
    (step : ∀ {moves traffic move after}, first.run? moves = some traffic →
      traffic.Orderly capacity tasks → motive moves traffic → traffic.step? move = some after →
        motive (moves ++ [move]) after)
    {moves : List TrafficMove} (ran : first.run? moves = some after) : motive moves after := by
  induction moves using List.reverseRecOn generalizing after with
  | nil => exact Option.some.inj ran ▸ begin
  | append_singleton earlier move inductionHypothesis =>
    obtain ⟨before, ranBefore, moved⟩ := run?_concat_eq_some_iff.1 ran
    exact step ranBefore (orderly_of_run? orderly ranBefore) (inductionHypothesis ranBefore) moved

theorem Passes.mono {moves later : List TrafficMove} {moment : Traffic α}
    (passes : first.Passes moves moment) (isPrefix : moves <+: later) :
    first.Passes later moment :=
  let ⟨earlier, isEarlier, ran⟩ := passes
  ⟨earlier, isEarlier.trans isPrefix, ran⟩

/-! ### What processes still have to do -/

/-- What a process still has to do. -/
def task? (traffic : Traffic α) (sender : Nat) : Option (AgentTask α) :=
  traffic.processes[sender]?.map Process.task

theorem task?_of_getElem? {sender : Nat} {process : Process α}
    (current : traffic.processes[sender]? = some process) :
    traffic.task? sender = some process.task := by
  rw [task?, current, Option.map_some]

/-- A process has its result when it has nothing left to do. -/
theorem result?_eq_some_iff {sender : Nat} {result : Except AgentError α} :
    traffic.result? sender = some result ↔ traffic.task? sender = some (.finished result) := by
  rw [result?, task?]
  cases traffic.processes[sender]? with
  | none => simp
  | some process =>
    cases process with
    | active task => cases task <;> simp [Process.result?, Process.task]
    | bound | waiting => simp [Process.result?, Process.task]

theorem result?_eq_none_of_asking {sender : Nat} {request : AgentRequest}
    {next : request.Answer → AgentTask α}
    (asking : traffic.task? sender = some (.asking request next)) :
    traffic.result? sender = none := by
  cases result : traffic.result? sender with
  | none => rfl
  | some value =>
    rw [result?_eq_some_iff, asking] at result
    cases result

/-- One process goes on with its task, and no other does. -/
structure GoesOn (traffic after : Traffic α) (sender : Nat) (task later : AgentTask α) :
    Prop where
  before : traffic.task? sender = some task
  later : after.task? sender = some later
  others : ∀ other, sender ≠ other → after.task? other = traffic.task? other

theorem goesOn_of_set {sender : Nat} {process changed : Process α} {task later : AgentTask α}
    (current : traffic.processes[sender]? = some process) (isTask : process.task = task)
    (processes : after.processes = traffic.processes.set sender changed)
    (isLater : changed.task = later) : GoesOn traffic after sender task later where
  before := isTask ▸ task?_of_getElem? current
  later := by
    rw [← isLater]
    apply task?_of_getElem?
    rw [processes, List.getElem?_set_self (List.getElem?_eq_some_iff.1 current).1]
  others other different := by rw [task?, processes, List.getElem?_set_ne different, task?]

/-- A process that has come nearer to its answer still has the same to do. -/
theorem task?_eq_of_set {sender : Nat} {process changed : Process α}
    (current : traffic.processes[sender]? = some process)
    (processes : after.processes = traffic.processes.set sender changed)
    (same : changed.task = process.task) (other : Nat) :
    after.task? other = traffic.task? other := by
  have goesOn := goesOn_of_set current rfl processes same
  by_cases isSender : sender = other
  · rw [← isSender, goesOn.later, goesOn.before]
  · exact goesOn.others other isSender

/-! ### What a step does -/

/-- What a step does to the calls, the answers and the agents. -/
inductive Effect (traffic after : Traffic α) : Prop where
  /-- Nothing that anybody notices. -/
  | silent (tasks : ∀ sender, after.task? sender = traffic.task? sender)
      (recorded : answers after.history = answers traffic.history)
      (kept : after.directory = traffic.directory)
  | minted {sender : Nat} {next : String → AgentTask α} {token : String}
      (goesOn : GoesOn traffic after sender (.minting next) (next token))
      (recorded : answers after.history = answers traffic.history)
      (kept : after.directory = traffic.directory)
  /-- A request is answered, and takes effect. -/
  | answered {sender : Nat} {request : AgentRequest} {next : request.Answer → AgentTask α}
      {result : Except AgentError request.Answer}
      (goesOn : GoesOn traffic after sender (.asking request next) (.resume next result))
      (recorded : answers after.history =
        answers traffic.history ++ [⟨⟨sender, request⟩, result⟩])
      (isReply : result = request.replyOf (traffic.directory.find? request.identity))
      (asked : after.directory.find? request.identity =
        request.applyTo (traffic.directory.find? request.identity))
      (elsewhere : ∀ other, other ≠ request.identity →
        after.directory.find? other = traffic.directory.find? other)
  /-- A write is refused, which happens where there can be no agents. -/
  | refused {sender : Nat} {identity : AgentIdentity} {location : LocationHint}
      {state : SessionState} {next : Unit → AgentTask α}
      (goesOn : GoesOn traffic after sender (.asking (.write identity location state) next)
        (.finished (.error (.mailboxTooLarge identity))))
      (recorded : answers after.history = answers traffic.history ++
        [⟨⟨sender, .write identity location state⟩, .error (.mailboxTooLarge identity)⟩])
      (nobody : ∀ other, traffic.directory.find? other = none)
      (kept : after.directory = traffic.directory)

/-- An answer at once is the answer of a register too. -/
theorem effect_of_told {sender : Nat} {request : AgentRequest} {next : request.Answer → AgentTask α}
    {result : Except AgentError request.Answer}
    (asking : traffic.processes[sender]? = some (.active (.asking request next)))
    (atOnce : AnswersAtOnce traffic.directory request result) :
    Effect traffic ((traffic.setProcess sender (.active (.resume next result))).record
      [.told sender request result]) := by
  have recorded : answers (traffic.history ++ [.told sender request result]) =
      answers traffic.history ++ [⟨⟨sender, request⟩, result⟩] :=
    answers_append _ _
  cases atOnce with
  | known identity =>
    exact .answered (goesOn_of_set asking rfl rfl rfl) recorded rfl rfl fun _ _ => rfl
  | notFound identity absent =>
    refine .answered (goesOn_of_set asking rfl rfl rfl) recorded ?_ rfl fun _ _ => rfl
    rw [AgentRequest.identity, absent, AgentRequest.replyOf]
  | refused identity location state tooLarge =>
    refine .refused (goesOn_of_set asking rfl rfl rfl) recorded (fun other => ?_) rfl
    cases found : traffic.directory.find? other with
    | none => rfl
    | some agent =>
      exact absurd (Directory.mailboxCapacity_le_of_find? found) (Nat.not_le_of_lt tooLarge)

/-- Every step of orderly traffic has one of these effects. -/
theorem effect_of_step? (orderly : traffic.Orderly capacity tasks) {move : TrafficMove}
    (moved : traffic.step? move = some after) : Effect traffic after := by
  have unanswered {history : List TrafficEvent} {event : TrafficEvent}
      (silent : event.answer? = none) : answers (history ++ [event]) = answers history := by
    rw [answers_append, answers, answers, List.filterMap_cons_none silent, List.filterMap_nil,
      List.append_nil]
  cases step_of_step? orderly moved with
  | told asking atOnce => exact effect_of_told asking atOnce
  | @created sender identity location state next asking absent fits =>
    refine .answered (goesOn_of_set asking rfl rfl rfl) (answers_append _ _) rfl ?_ ?_
    · rw [AgentRequest.identity, absent]
      exact Directory.find?_put_self _ _ _ _
    · exact fun other different => Directory.find?_put_other _ _ _ _ different
  | found asking present =>
    exact .silent (task?_eq_of_set asking rfl rfl) rfl rfl
  | sent bound first room =>
    exact .silent (task?_eq_of_set bound rfl rfl) (unanswered rfl) rfl
  | delayed bound => exact .silent (task?_eq_of_set bound rfl rfl) rfl rfl
  | letIn oldest room => exact .silent (fun _ => rfl) (unanswered rfl) rfl
  | taken idle oldest => exact .silent (fun _ => rfl) rfl rfl
  | @replied identity letter next taken waits =>
    have member : letter ∈ (traffic.mailboxes identity).letters := by
      simp [Mailbox.letters, Mailbox.inside, taken]
    have addressed := (orderly.letters.waits member).1
    obtain ⟨isReply, asked⟩ := answer_of_mem orderly member
    refine .answered (goesOn_of_set waits rfl rfl rfl) (answers_append _ _) ?_ ?_ ?_
    · rw [isReply, addressed]
    · rw [addressed]
      exact asked
    · exact fun other different => Directory.find?_answer_other different
  | minted minting => exact .minted (goesOn_of_set minting rfl rfl rfl) (unanswered rfl) rfl
  | none => exact .silent (fun _ => rfl) rfl rfl

/-- Answers are never taken back. -/
theorem answers_prefix_of_effect (effect : Effect traffic after) :
    answers traffic.history <+: answers after.history := by
  cases effect with
  | silent _ recorded _ | minted _ recorded _ => exact recorded ▸ List.prefix_rfl
  | answered _ recorded _ _ _ | refused _ recorded _ _ => exact recorded ▸ List.prefix_append _ _

theorem isSome_applyTo_write (agent : Option Agent) (identity : AgentIdentity)
    (location : LocationHint) (state : SessionState) :
    ((AgentRequest.write identity location state).applyTo agent).isSome := by
  cases agent <;> rfl

/-! ### What a step does to one call -/

/-- What a step does to one process, which has something else to do afterwards or not. -/
inductive Turn (traffic after : Traffic α) (sender : Nat) : AgentTask α → AgentTask α → Prop where
  | waits {task : AgentTask α}
      (unheard : ∀ reply ∈ answers after.history, reply.letter.sender = sender →
        reply ∈ answers traffic.history) :
      Turn traffic after sender task task
  | mints {next : String → AgentTask α} {token : String}
      (recorded : answers after.history = answers traffic.history) :
      Turn traffic after sender (.minting next) (next token)
  | gets {request : AgentRequest} {next : request.Answer → AgentTask α}
      (recorded : answers after.history = answers traffic.history ++
        [⟨⟨sender, request⟩, request.replyOf (traffic.directory.find? request.identity)⟩])
      (asked : after.directory.find? request.identity =
        request.applyTo (traffic.directory.find? request.identity)) :
      Turn traffic after sender (.asking request next)
        (.resume next (request.replyOf (traffic.directory.find? request.identity)))
  | refused {identity : AgentIdentity} {location : LocationHint} {state : SessionState}
      {next : Unit → AgentTask α}
      (recorded : answers after.history = answers traffic.history ++
        [⟨⟨sender, .write identity location state⟩, .error (.mailboxTooLarge identity)⟩])
      (nobody : ∀ other, traffic.directory.find? other = none) :
      Turn traffic after sender (.asking (.write identity location state) next)
        (.finished (.error (.mailboxTooLarge identity)))

/-- A process whose turn it is not stays as it is. -/
theorem turn_of_effect (effect : Effect traffic after) {caller : Nat} {task : AgentTask α}
    (current : traffic.task? caller = some task) :
    ∃ later, after.task? caller = some later ∧ Turn traffic after caller task later := by
  have others {sender : Nat} {before later : AgentTask α}
      (goesOn : GoesOn traffic after sender before later) (different : sender ≠ caller)
      {replies : List Reply}
      (recorded : answers after.history = answers traffic.history ++ replies)
      (theirs : ∀ reply ∈ replies, reply.letter.sender = sender) :
      ∃ later, after.task? caller = some later ∧ Turn traffic after caller task later := by
    refine ⟨task, (goesOn.others caller different).trans current, .waits fun reply member own => ?_⟩
    rw [recorded] at member
    refine (List.mem_append.1 member).resolve_right fun isNew => different ?_
    rw [← theirs reply isNew, own]
  cases effect with
  | silent tasks recorded _ =>
    exact ⟨task, (tasks caller).trans current, .waits fun reply member _ => recorded ▸ member⟩
  | @minted sender next token goesOn recorded _ =>
    by_cases isCaller : sender = caller
    · subst isCaller
      obtain rfl := Option.some.inj (current.symm.trans goesOn.before)
      exact ⟨_, goesOn.later, .mints recorded⟩
    · exact others goesOn isCaller (recorded.trans (List.append_nil _).symm) (by simp)
  | @answered sender request next result goesOn recorded isReply asked _ =>
    by_cases isCaller : sender = caller
    · subst isCaller
      subst isReply
      obtain rfl := Option.some.inj (current.symm.trans goesOn.before)
      exact ⟨_, goesOn.later, .gets recorded asked⟩
    · exact others goesOn isCaller recorded (by simp)
  | @refused sender identity location state next goesOn recorded nobody _ =>
    by_cases isCaller : sender = caller
    · subst isCaller
      obtain rfl := Option.some.inj (current.symm.trans goesOn.before)
      exact ⟨_, goesOn.later, .refused recorded nobody⟩
    · exact others goesOn isCaller recorded (by simp)

end Traffic

end SessionForge
