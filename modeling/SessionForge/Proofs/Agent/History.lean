/-
What a history of traffic says about one agent: which requests were admitted to it, in which order,
and what it answered. The answers of a register to the same requests (`replies`) are what the
answers of an agent are compared with. Nothing here depends on how the history came about.
-/

import SessionForge.Agent.Traffic
import SessionForge.Proofs.Agent.Register

namespace SessionForge

/-- An answer that an agent has given. -/
structure Reply where
  letter : Letter
  result : Except AgentError letter.request.Answer

/-! ### One agent in a history -/

/-- The request that an event admits. -/
def TrafficEvent.admitted? : TrafficEvent → Option Letter
  | .admitted letter => some letter
  | .created _ | .answered _ _ _ | .told _ _ _ | .minted _ _ => none

/-- The answer that an agent gives in an event. -/
def TrafficEvent.reply? : TrafficEvent → Option Reply
  | .answered sender request result => some ⟨⟨sender, request⟩, result⟩
  | .admitted _ | .created _ | .told _ _ _ | .minted _ _ => none

/-- Whether an event makes the agent of an identity. -/
def TrafficEvent.creates (identity : AgentIdentity) : TrafficEvent → Bool
  | .created made => made = identity
  | .admitted _ | .answered _ _ _ | .told _ _ _ | .minted _ _ => false

/-- The requests that were admitted to an agent, the oldest first. -/
def admittedTo (identity : AgentIdentity) (history : List TrafficEvent) : List Letter :=
  (history.filterMap TrafficEvent.admitted?).filter fun letter =>
    letter.request.identity = identity

/-- The answers that an agent gave, the oldest first. -/
def answeredBy (identity : AgentIdentity) (history : List TrafficEvent) : List Reply :=
  (history.filterMap TrafficEvent.reply?).filter fun reply =>
    reply.letter.request.identity = identity

/-- How often the agent of an identity was made. -/
def timesCreated (identity : AgentIdentity) (history : List TrafficEvent) : Nat :=
  history.countP (TrafficEvent.creates identity)

section One

variable (identity : AgentIdentity) (history later : List TrafficEvent) (event : TrafficEvent)

@[simp] theorem admittedTo_nil : admittedTo identity [] = [] :=
  rfl

theorem admittedTo_append :
    admittedTo identity (history ++ later) =
      admittedTo identity history ++ admittedTo identity later := by
  simp only [admittedTo, List.filterMap_append, List.filter_append]

theorem admittedTo_cons :
    admittedTo identity (event :: later) =
      event.admitted?.toList.filter (fun letter => letter.request.identity = identity) ++
        admittedTo identity later := by
  have parts : (event :: later).filterMap TrafficEvent.admitted? =
      event.admitted?.toList ++ later.filterMap TrafficEvent.admitted? := by
    rw [List.filterMap_cons]
    cases event.admitted? <;> rfl
  rw [admittedTo, parts, List.filter_append, admittedTo]

@[simp] theorem answeredBy_nil : answeredBy identity [] = [] :=
  rfl

theorem answeredBy_append :
    answeredBy identity (history ++ later) =
      answeredBy identity history ++ answeredBy identity later := by
  simp only [answeredBy, List.filterMap_append, List.filter_append]

theorem answeredBy_cons :
    answeredBy identity (event :: later) =
      event.reply?.toList.filter (fun reply => reply.letter.request.identity = identity) ++
        answeredBy identity later := by
  have parts : (event :: later).filterMap TrafficEvent.reply? =
      event.reply?.toList ++ later.filterMap TrafficEvent.reply? := by
    rw [List.filterMap_cons]
    cases event.reply? <;> rfl
  rw [answeredBy, parts, List.filter_append, answeredBy]

theorem mem_answeredBy {identity : AgentIdentity} {history : List TrafficEvent} {reply : Reply}
    (member : .answered reply.letter.sender reply.letter.request reply.result ∈ history)
    (addressed : reply.letter.request.identity = identity) :
    reply ∈ answeredBy identity history :=
  List.mem_filter.2 ⟨List.mem_filterMap.2 ⟨_, member, rfl⟩, by simpa using addressed⟩

theorem timesCreated_append :
    timesCreated identity (history ++ later) =
      timesCreated identity history + timesCreated identity later :=
  List.countP_append

end One

/-! ### The answers of a register -/

/-- What a register answers to some letters after other requests. -/
def repliesAfter (earlier : List AgentRequest) : List Letter → List Reply
  | [] => []
  | letter :: later =>
    ⟨letter, letter.request.replyOf (agentAfter earlier)⟩ ::
      repliesAfter (earlier ++ [letter.request]) later

/-- What a register answers to some letters. -/
def replies (letters : List Letter) : List Reply :=
  repliesAfter [] letters

theorem repliesAfter_append (earlier : List AgentRequest) (letters later : List Letter) :
    repliesAfter earlier (letters ++ later) =
      repliesAfter earlier letters ++
        repliesAfter (earlier ++ letters.map Letter.request) later := by
  induction letters generalizing earlier with
  | nil => simp [repliesAfter]
  | cons letter rest inductionHypothesis =>
    simp only [List.cons_append, repliesAfter, inductionHypothesis, List.map_cons,
      List.append_assoc, List.nil_append]

theorem replies_append (letters later : List Letter) :
    replies (letters ++ later) =
      replies letters ++ repliesAfter (letters.map Letter.request) later :=
  repliesAfter_append [] letters later

theorem map_letter_repliesAfter (earlier : List AgentRequest) (letters : List Letter) :
    (repliesAfter earlier letters).map Reply.letter = letters := by
  induction letters generalizing earlier with
  | nil => rfl
  | cons letter rest inductionHypothesis =>
    simp only [repliesAfter, List.map_cons, inductionHypothesis]

@[simp] theorem map_letter_replies (letters : List Letter) :
    (replies letters).map Reply.letter = letters :=
  map_letter_repliesAfter [] letters

/-- Every answer of a register is what it answers after the letters before. -/
theorem result_of_replies {letters : List Letter} {earlier later : List Reply} {reply : Reply}
    (split : replies letters = earlier ++ reply :: later) :
    reply.result = reply.letter.request.replyOf
      (agentAfter (earlier.map fun reply => reply.letter.request)) := by
  have before : letters =
      earlier.map Reply.letter ++ reply.letter :: later.map Reply.letter := by
    have mapped := congrArg (List.map Reply.letter) split
    rwa [map_letter_replies, List.map_append, List.map_cons] at mapped
  rw [before, replies_append] at split
  have lengths : (replies (earlier.map Reply.letter)).length = earlier.length := by
    have mapped := congrArg List.length (map_letter_replies (earlier.map Reply.letter))
    rwa [List.length_map, List.length_map] at mapped
  obtain ⟨-, rest⟩ := List.append_inj split lengths
  rw [repliesAfter, List.map_map] at rest
  have same : _ = reply := (List.cons.inj rest).1
  rw [← same]
  rfl

/-- A register never fails of itself: it answers, or it is not there. -/
theorem AgentRequest.replyOf_ne_failed (request : AgentRequest) (agent : Option Agent)
    (operation : String) (identity : AgentIdentity) (reason : String) :
    request.replyOf agent ≠ .error (.failed operation identity reason) := by
  cases request with
  | isInitialized | write => simp [AgentRequest.replyOf]
  | read other => cases agent <;> simp [AgentRequest.replyOf]

end SessionForge
