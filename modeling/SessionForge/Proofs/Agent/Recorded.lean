/-
What the history says of traffic that began with any agents whatsoever. Nothing is asked of these
agents here: some of them may have been stopped before. Still every step puts into the history what
it does to the tasks and to the supply (`Traffic.Records`), and so every process is where the
history has brought it, the tokens were minted in turn, and who was told that an agent is there was
told the truth (`recorded_of_run?`).
-/

import SessionForge.Proofs.Agent.Alone
import SessionForge.Proofs.Agent.Calls

namespace SessionForge

/-! ### What is heard of an answer at once -/

section AtOnce

variable {α : Type} {sender other : Nat} {request : AgentRequest}
  {result : Except AgentError request.Answer}

theorem hear_atOnce_self (next : request.Answer → AgentTask α) :
    (TrafficEvent.atOnce sender request result).foldlM (AgentTask.hear sender)
      (.asking request next) = some (.resume next result) := by
  rw [TrafficEvent.atOnce]
  split <;> simp

theorem hear_atOnce_other (task : AgentTask α) (different : sender ≠ other) :
    (TrafficEvent.atOnce sender request result).foldlM (AgentTask.hear other) task =
      some task := by
  rw [TrafficEvent.atOnce]
  split <;> simp [(hear_of_other task different).1, (hear_of_other task different).2.1]

/-- What is answered at once and was admitted is a write. -/
theorem isMailed_of_mem_atOnce {asked : AgentRequest} {answer : Except AgentError asked.Answer}
    (member : .answered other asked answer ∈ TrafficEvent.atOnce sender request result) :
    asked.isMailed = true := by
  rw [TrafficEvent.atOnce] at member
  cases request with
  | write =>
    split at member
    · simp only [List.mem_cons, reduceCtorEq, false_or, List.not_mem_nil, or_false] at member
      cases member
      rfl
    · simp at member
  | isInitialized | read => simp [AgentRequest.isWrite] at member

/-- Whoever is told at once whether an agent is there has asked for it. -/
theorem eq_of_told_mem_atOnce {identity : AgentIdentity} {answer : Except AgentError Bool}
    (member : .told other (.isInitialized identity) answer ∈
      TrafficEvent.atOnce sender request result) :
    other = sender ∧ request = .isInitialized identity ∧ HEq answer result := by
  cases request with
  | isInitialized asked =>
    cases List.mem_singleton.1 member
    exact ⟨rfl, rfl, .rfl⟩
  | read asked => cases List.mem_singleton.1 member
  | write asked location state =>
    rw [TrafficEvent.atOnce] at member
    split at member <;> simp at member

end AtOnce

namespace Traffic

variable {α : Type} {traffic after : Traffic α}

/-! ### One step -/

/-- Processes send to agents what goes through a mailbox, and nothing else. -/
def AsksByMail (traffic : Traffic α) : Prop :=
  ∀ {sender : Nat} {request : AgentRequest} {next : request.Answer → AgentTask α},
    traffic.processes[sender]? = some (.bound request next) ∨
      traffic.processes[sender]? = some (.waiting request next) → request.isMailed = true

/-- A step puts some events into the history, and does what they say. -/
structure Records (traffic after : Traffic α) (move : TrafficMove) (events : List TrafficEvent) :
    Prop where
  extended : after.history = traffic.history ++ events
  length : after.processes.length = traffic.processes.length
  heard : ∀ sender, after.task? sender =
    (traffic.task? sender).bind fun task => events.foldlM (AgentTask.hear sender) task
  /-- A token is minted for a process, or none is and the supply stays as it is. -/
  minted : mintedBy (fun _ => true) events = [] ∧ after.supply = traffic.supply ∨
    ∃ sender, (traffic.task? sender).isSome ∧ events = [.minted sender traffic.supply.mint.1] ∧
      after.supply = traffic.supply.mint.2
  answered : ∀ {sender request result}, .answered sender request result ∈ events →
    request.isMailed = true
  told : ∀ {sender identity result}, .told sender (.isInitialized identity) result ∈ events →
    move = .advance sender ∧ result = .ok (traffic.directory.contains identity)
  byMail : after.AsksByMail

/-- A step of which no process hears: at most it lets requests in. -/
theorem records_of_unheard {move : TrafficMove} (letters : List Letter)
    (extended : after.history = traffic.history ++ letters.map .admitted)
    (supply : after.supply = traffic.supply)
    (tasks : ∀ sender, after.task? sender = traffic.task? sender) (byMail : after.AsksByMail) :
    Records traffic after move (letters.map .admitted) where
  extended := extended
  length := by
    have same : after.processes.map Process.task = traffic.processes.map Process.task :=
      List.ext_getElem? fun sender => by
        rw [List.getElem?_map, List.getElem?_map]
        exact tasks sender
    simpa only [List.length_map] using congrArg List.length same
  heard sender := by
    have unheard (task : AgentTask α) :
        (letters.map TrafficEvent.admitted).foldlM (AgentTask.hear sender) task = some task := by
      clear extended
      induction letters with
      | nil => rfl
      | cons letter rest inductionHypothesis => exact inductionHypothesis
    simp only [tasks, unheard]
    exact (Option.bind_fun_some _).symm
  minted := by
    refine .inl ⟨List.filterMap_eq_nil_iff.2 fun event member => ?_, supply⟩
    obtain ⟨letter, -, rfl⟩ := List.mem_map.1 member
    rfl
  answered := by simp
  told := by simp
  byMail := byMail

/-- A step of which one process hears, through one event. -/
theorem heard_of_event {sender : Nat} {process later : Process α} {event : TrafficEvent}
    (current : traffic.processes[sender]? = some process)
    (processes : after.processes = traffic.processes.set sender later)
    (heard : process.task.hear sender event = some later.task)
    (notOthers : ∀ other, sender ≠ other → ∀ task : AgentTask α,
      task.hear other event = some task) (other : Nat) :
    after.task? other =
      (traffic.task? other).bind fun task => [event].foldlM (AgentTask.hear other) task := by
  have one (who : Nat) (task : AgentTask α) :
      [event].foldlM (AgentTask.hear who) task = task.hear who event := bind_pure _
  rw [task?, processes]
  exact heard_of_set current ((one _ _).trans heard)
    (fun other different task => (one _ _).trans (notOthers other different task)) other

section Step

variable (byMail : traffic.AsksByMail)

include byMail

/-- When one process changes, the requests still go through the mailboxes if its own request does,
should it have one. -/
theorem AsksByMail.set {sender : Nat} {changed : Process α}
    (processes : after.processes = traffic.processes.set sender changed)
    (mailed : ∀ {request : AgentRequest} {next : request.Answer → AgentTask α},
      changed = .bound request next ∨ changed = .waiting request next →
        request.isMailed = true) : after.AsksByMail := by
  intro other request next asks
  rw [processes] at asks
  rcases asks with current | current
  · rcases process_of_set current with ⟨-, same⟩ | ⟨-, before⟩
    · exact mailed (.inl same.symm)
    · exact byMail (.inl before)
  · rcases process_of_set current with ⟨-, same⟩ | ⟨-, before⟩
    · exact mailed (.inr same.symm)
    · exact byMail (.inr before)

theorem AsksByMail.set_active {sender : Nat} {task : AgentTask α}
    (processes : after.processes = traffic.processes.set sender (.active task)) :
    after.AsksByMail := by
  refine byMail.set processes ?_
  rintro _ _ (same | same) <;> cases same

theorem records_ask {sender : Nat} {request : AgentRequest} {next : request.Answer → AgentTask α}
    (asking : traffic.processes[sender]? = some (.active (.asking request next))) :
    ∃ events, Records traffic (traffic.ask sender request next) (.advance sender) events := by
  rw [ask]
  split
  · next found =>
    refine ⟨_, records_of_unheard [] (List.append_nil _).symm rfl (task?_eq_of_set asking rfl rfl)
      (byMail.set rfl ?_)⟩
    rintro _ _ (same | same)
    · cases same
      exact (Bool.and_eq_true_iff.1 found).1
    · cases same
  · exact ⟨_, {
      extended := rfl
      length := List.length_set
      heard := heard_of_set asking (hear_atOnce_self next)
        fun _ different task => hear_atOnce_other task different
      minted := .inl ⟨mintedBy_atOnce _ _ _ _, rfl⟩
      answered := isMailed_of_mem_atOnce
      told := fun member => by
        obtain ⟨rfl, rfl, same⟩ := eq_of_told_mem_atOnce member
        exact ⟨rfl, eq_of_heq same⟩
      byMail := byMail.set_active rfl }⟩

theorem records_send {sender : Nat} {request : AgentRequest} {next : request.Answer → AgentTask α}
    (bound : traffic.processes[sender]? = some (.bound request next)) :
    ∃ events, Records traffic (traffic.send sender request next) (.advance sender) events := by
  have mailed := byMail (.inl bound)
  have waits {changed : Traffic α} (processes : changed.processes =
      traffic.processes.set sender (.waiting request next)) : changed.AsksByMail := by
    refine byMail.set processes ?_
    rintro _ _ (same | same)
    · cases same
    · cases same
      exact mailed
  rw [send]
  split
  · simp only
    split
    · exact ⟨_, records_of_unheard [⟨sender, request⟩] rfl rfl
        (task?_eq_of_set bound rfl rfl) (waits rfl)⟩
    · exact ⟨_, records_of_unheard [] (List.append_nil _).symm rfl (task?_eq_of_set bound rfl rfl)
        (waits rfl)⟩
  · exact ⟨_, {
      extended := rfl
      length := List.length_set
      heard := heard_of_event bound rfl (hear_told_self _ _ _)
        fun _ different task => (hear_of_other task different).2.1 _ _
      minted := .inl ⟨rfl, rfl⟩
      answered := by simp
      told := fun member => by
        cases List.mem_singleton.1 member
        cases mailed
      byMail := byMail.set_active rfl }⟩

theorem records_mint {sender : Nat} {next : String → AgentTask α}
    (minting : traffic.processes[sender]? = some (.active (.minting next))) :
    ∃ events, Records traffic (traffic.mint sender next) (.advance sender) events :=
  ⟨_, {
    extended := rfl
    length := List.length_set
    heard := heard_of_event minting rfl (hear_minted_self _ _)
      fun _ different task => (hear_of_other task different).2.2 _
    minted := .inr ⟨sender, by rw [task?, minting, Option.map_some, Option.isSome_some], rfl, rfl⟩
    answered := by simp
    told := by simp
    byMail := byMail.set_active rfl }⟩

theorem records_reply {identity : AgentIdentity} (moved : traffic.reply? identity = some after) :
    ∃ events, Records traffic after (.reply identity) events := by
  rw [reply?, Option.bind_eq_bind, Option.bind_eq_some_iff] at moved
  obtain ⟨letter, -, replied⟩ := moved
  split at replied
  · next request next waits =>
    split at replied
    · next same =>
      subst same
      obtain rfl := Option.some.inj replied
      exact ⟨_, {
        extended := rfl
        length := List.length_set
        heard := heard_of_event waits rfl (hear_answered_self _ _ _)
          fun _ different task => (hear_of_other task different).1 _ _
        minted := .inl ⟨rfl, rfl⟩
        answered := fun member => by
          cases List.mem_singleton.1 member
          exact byMail (.inr waits)
        told := by simp
        byMail := byMail.set_active rfl }⟩
    · cases replied
  · cases replied
  · cases replied
  · cases replied

/-- Every step records what it does. -/
theorem exists_records {move : TrafficMove} (moved : traffic.step? move = some after) :
    ∃ events, Records traffic after move events := by
  cases move with
  | advance sender =>
    simp only [step?, advance?] at moved
    split at moved
    · next asking => exact Option.some.inj moved ▸ records_ask byMail asking
    · next minting => exact Option.some.inj moved ▸ records_mint byMail minting
    · next bound => exact Option.some.inj moved ▸ records_send byMail bound
    · cases moved
    · cases moved
    · cases moved
  | letIn identity =>
    simp only [step?, letIn?, Option.bind_eq_bind, Option.bind_eq_some_iff] at moved
    obtain ⟨⟨letter, mailbox⟩, -, same⟩ := moved
    obtain rfl := Option.some.inj same
    exact ⟨_, records_of_unheard [letter] rfl rfl (fun _ => rfl) byMail⟩
  | take identity =>
    simp only [step?, take?, Option.bind_eq_bind, Option.bind_eq_some_iff] at moved
    obtain ⟨mailbox, -, same⟩ := moved
    obtain rfl := Option.some.inj same
    exact ⟨_, records_of_unheard [] (List.append_nil _).symm rfl (fun _ => rfl) byMail⟩
  | reply identity => exact records_reply byMail moved
  | stop identity =>
    simp only [step?, stop?] at moved
    split at moved
    · obtain rfl := Option.some.inj moved
      exact ⟨_, records_of_unheard [] (List.append_nil _).symm rfl (fun _ => rfl) byMail⟩
    · cases moved

end Step

/-! ### Whole runs -/

/-- What the history of a run says, if it began with some tasks and no token was minted before. -/
structure Recorded (first : Traffic α) (tasks : List (AgentTask α)) (moves : List TrafficMove)
    (traffic : Traffic α) : Prop where
  byMail : traffic.AsksByMail
  length : traffic.processes.length = tasks.length
  heard : ∀ sender, traffic.task? sender =
    tasks[sender]?.bind fun task => traffic.history.foldlM (AgentTask.hear sender) task
  token : traffic.supply.token = first.supply.token
  minted : mintedBy (fun _ => true) traffic.history =
    (List.range traffic.supply.minted).map traffic.supply.token
  sender : ∀ {sender token}, .minted sender token ∈ traffic.history → sender < tasks.length
  answered : ∀ {sender request result}, .answered sender request result ∈ traffic.history →
    request.isMailed = true
  told : ∀ {sender identity result},
    .told sender (.isInitialized identity) result ∈ traffic.history →
      ∃ earlier later moment, moves = earlier ++ .advance sender :: later ∧
        first.run? earlier = some moment ∧ result = .ok (moment.directory.contains identity)

theorem recorded_start (directory : Directory) (token : Nat → String)
    (tasks : List (AgentTask α)) :
    Recorded (start directory ⟨token, 0⟩ tasks) tasks [] (start directory ⟨token, 0⟩ tasks) where
  byMail := by
    intro sender request next asks
    simp [start] at asks
  length := List.length_map _
  heard sender := by
    rw [task?, start, List.getElem?_map]
    cases tasks[sender]? <;> rfl
  token := rfl
  minted := rfl
  sender := nofun
  answered := nofun
  told := nofun

theorem Recorded.step {first : Traffic α} {tasks : List (AgentTask α)} {moves : List TrafficMove}
    {move : TrafficMove} (recorded : Recorded first tasks moves traffic)
    (ran : first.run? moves = some traffic) (moved : traffic.step? move = some after) :
    Recorded first tasks (moves ++ [move]) after := by
  obtain ⟨events, records⟩ := exists_records recorded.byMail moved
  have heard (sender : Nat) : after.task? sender = tasks[sender]?.bind fun task =>
      after.history.foldlM (AgentTask.hear sender) task := by
    rw [records.heard, recorded.heard, records.extended, Option.bind_assoc]
    simp only [List.foldlM_append, Option.bind_eq_bind]
  have told {sender : Nat} {identity : AgentIdentity} {result : Except AgentError Bool}
      (member : .told sender (.isInitialized identity) result ∈ after.history) :
      ∃ earlier later moment, moves ++ [move] = earlier ++ .advance sender :: later ∧
        first.run? earlier = some moment ∧
          result = .ok (moment.directory.contains identity) := by
    rw [records.extended] at member
    rcases List.mem_append.1 member with old | new
    · obtain ⟨earlier, later, moment, split, ranEarlier, isContained⟩ := recorded.told old
      exact ⟨earlier, later ++ [move], moment, by rw [split]; simp, ranEarlier, isContained⟩
    · obtain ⟨rfl, isContained⟩ := records.told new
      exact ⟨moves, [], traffic, rfl, ran, isContained⟩
  have answered {sender : Nat} {request : AgentRequest} {result : Except AgentError request.Answer}
      (member : .answered sender request result ∈ after.history) : request.isMailed = true := by
    rw [records.extended] at member
    exact (List.mem_append.1 member).elim recorded.answered records.answered
  have length := records.length.trans recorded.length
  rcases records.minted with ⟨none, kept⟩ | ⟨sender, isSome, rfl, minted⟩
  · refine ⟨records.byMail, length, heard, kept ▸ recorded.token, ?_,
      fun {sender token} member => ?_, answered, told⟩
    · rw [records.extended, mintedBy_append, none, List.append_nil, recorded.minted, kept]
    · rw [records.extended] at member
      refine recorded.sender ((List.mem_append.1 member).resolve_right fun new => ?_)
      exact nomatch List.filterMap_eq_nil_iff.1 none _ new
  · refine ⟨records.byMail, length, heard, by rw [minted]; exact recorded.token, ?_,
      fun {other token} member => ?_, answered, told⟩
    · rw [records.extended, mintedBy_append, recorded.minted, minted]
      exact (List.map_append.symm.trans (congrArg _ List.range_succ.symm))
    · rw [records.extended] at member
      rcases List.mem_append.1 member with old | new
      · exact recorded.sender old
      · cases List.mem_singleton.1 new
        by_contra outside
        rw [recorded.heard, List.getElem?_eq_none (Nat.le_of_not_lt outside)] at isSome
        cases isSome

theorem recorded_of_run? {directory : Directory} {token : Nat → String}
    {tasks : List (AgentTask α)} {moves : List TrafficMove} {final : Traffic α}
    (ran : (start directory ⟨token, 0⟩ tasks).run? moves = some final) :
    Recorded (start directory ⟨token, 0⟩ tasks) tasks moves final := by
  induction moves using List.reverseRecOn generalizing final with
  | nil => exact Option.some.inj ran ▸ recorded_start directory token tasks
  | append_singleton earlier move inductionHypothesis =>
    obtain ⟨before, ranBefore, moved⟩ := run?_concat_eq_some_iff.1 ran
    exact (inductionHypothesis ranBefore).step ranBefore moved

/-- Every process is where the history has brought it. -/
theorem Recorded.exists_task {first : Traffic α} {tasks : List (AgentTask α)}
    {moves : List TrafficMove} (recorded : Recorded first tasks moves traffic) {sender : Nat}
    {task : AgentTask α} (isTask : tasks[sender]? = some task) :
    ∃ later, traffic.task? sender = some later ∧
      traffic.history.foldlM (AgentTask.hear sender) task = some later := by
  have inRange : sender < traffic.processes.length :=
    recorded.length ▸ (List.getElem?_eq_some_iff.1 isTask).1
  have current := task?_of_getElem? (List.getElem?_eq_getElem inRange)
  have heard := recorded.heard sender
  rw [isTask, Option.bind_some, current] at heard
  exact ⟨_, current, heard.symm⟩

/-! ### One process at one moment -/

/-- The history grows in the course of a run, and loses nothing. -/
theorem isPrefix_of_run? (byMail : traffic.AsksByMail) {moves : List TrafficMove}
    (ran : traffic.run? moves = some after) : traffic.history <+: after.history := by
  suffices kept : after.AsksByMail ∧ traffic.history <+: after.history from kept.2
  induction moves using List.reverseRecOn generalizing after with
  | nil => exact Option.some.inj ran ▸ ⟨byMail, List.prefix_rfl⟩
  | append_singleton earlier move inductionHypothesis =>
    obtain ⟨before, ranBefore, moved⟩ := run?_concat_eq_some_iff.1 ran
    obtain ⟨byMail, isPrefix⟩ := inductionHypothesis ranBefore
    obtain ⟨events, records⟩ := exists_records byMail moved
    exact ⟨records.byMail, isPrefix.trans (records.extended ▸ List.prefix_append _ _)⟩

/-- Whoever asks whether an agent is there is told with its next step. -/
theorem mem_history_of_isInitialized (byMail : traffic.AsksByMail) {sender : Nat}
    {identity : AgentIdentity} {next : Bool → AgentTask α}
    (asking : traffic.task? sender = some (.asking (.isInitialized identity) next))
    (moved : traffic.step? (.advance sender) = some after) :
    .told sender (.isInitialized identity) (.ok (traffic.directory.contains identity)) ∈
      after.history := by
  rw [task?, Option.map_eq_some_iff] at asking
  obtain ⟨process, current, isAsking⟩ := asking
  cases process with
  | active task =>
    rw [Process.task] at isAsking
    subst isAsking
    simp only [step?, advance?, current, Option.some.injEq] at moved
    rw [← moved]
    exact List.mem_concat_self
  | bound request next =>
    cases isAsking
    exact absurd (byMail (.inl current)) Bool.false_ne_true
  | waiting request next =>
    cases isAsking
    exact absurd (byMail (.inr current)) Bool.false_ne_true

/-- A process that has its result goes no further. -/
theorem step?_advance_of_finished {sender : Nat} {result : Except AgentError α}
    (finished : traffic.task? sender = some (.finished result)) :
    traffic.step? (.advance sender) = none := by
  rw [task?, Option.map_eq_some_iff] at finished
  obtain ⟨process, current, isFinished⟩ := finished
  cases process with
  | active task =>
    rw [Process.task] at isFinished
    subst isFinished
    simp only [step?, advance?, current]
  | bound | waiting => cases isFinished

end Traffic

end SessionForge
