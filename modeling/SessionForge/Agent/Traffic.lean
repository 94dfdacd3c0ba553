/-
The traffic between processes and agents. Several processes carry out tasks at the same time, and
what each of them does next may come in between the steps of the others. A process that makes a
request looks for the agent first. Whether an agent has been written to is answered at once, and so
are requests that find no agent: a read then fails, and a write makes the agent together with its
first state. All other requests are sent to the agent that was found, and go through its mailbox. A
mailbox has room for some requests; further ones wait, and get in in the order in which they came.
The agent takes the requests out of its mailbox one after the other and answers them, and a process
goes on when it has its answer.

An agent stops when nobody can send to it any more. It is asked about in vain then: sending to it
fails, and what was sent is dropped. The directory is one of those who can send to an agent.

A history records when requests are admitted, which is when they make their agent or get into its
mailbox, and how they are answered.
-/

import SessionForge.Agent.Task

namespace SessionForge

/-! ### Mailboxes -/

/-- A request, with the number of the process that waits for the answer. -/
structure Letter where
  sender : Nat
  request : AgentRequest
  deriving DecidableEq

/-- The requests at one agent, the oldest first: the one that the agent has taken out to answer it,
those in the mailbox, and those that wait for room in it. -/
structure Mailbox where
  taken : Option Letter
  queue : List Letter
  waiting : List Letter
  deriving DecidableEq

namespace Mailbox

/-- A mailbox without requests. -/
def empty : Mailbox :=
  ⟨none, [], []⟩

/-- Whether a request gets in at once: there is room, and no other request waits for it. -/
def isOpen (capacity : Nat) (mailbox : Mailbox) : Bool :=
  mailbox.waiting.isEmpty && mailbox.queue.length < capacity

/-- A request comes to the mailbox. -/
def post (capacity : Nat) (letter : Letter) (mailbox : Mailbox) : Mailbox :=
  if mailbox.isOpen capacity then { mailbox with queue := mailbox.queue ++ [letter] }
  else { mailbox with waiting := mailbox.waiting ++ [letter] }

/-- The request that has waited longest gets in, if there is room. -/
def letIn? (capacity : Nat) (mailbox : Mailbox) : Option (Letter × Mailbox) :=
  match mailbox.waiting with
  | [] => none
  | letter :: rest =>
    if mailbox.queue.length < capacity then
      some (letter, { mailbox with queue := mailbox.queue ++ [letter], waiting := rest })
    else none

/-- The agent takes the oldest request out of the mailbox, if it has answered the one before. -/
def take? (mailbox : Mailbox) : Option Mailbox :=
  match mailbox.taken, mailbox.queue with
  | none, letter :: rest => some { mailbox with taken := some letter, queue := rest }
  | _, _ => none

/-- What has been admitted and not yet answered. -/
def inside (mailbox : Mailbox) : List Letter :=
  mailbox.taken.toList ++ mailbox.queue

/-- Everything that waits for an answer. -/
def letters (mailbox : Mailbox) : List Letter :=
  mailbox.inside ++ mailbox.waiting

end Mailbox

/-! ### Processes -/

/-- A process, which carries out a task. -/
inductive Process (α : Type) where
  /-- It can go on with the task. -/
  | active (task : AgentTask α)
  /-- It has found the agent of its request, and sends it next. -/
  | bound (request : AgentRequest) (next : request.Answer → AgentTask α)
  /-- It has sent its request, and waits for the answer. -/
  | waiting (request : AgentRequest) (next : request.Answer → AgentTask α)

namespace Process

variable {α : Type}

/-- What a process still has to do. -/
def task : Process α → AgentTask α
  | .active task => task
  | .bound request next | .waiting request next => .asking request next

/-- Whether a process has found an agent and can send to it. -/
def isBoundTo (identity : AgentIdentity) : Process α → Bool
  | .bound request _ => request.identity = identity
  | .active _ | .waiting _ _ => false

/-- The result of a process that has come to its end. -/
def result? : Process α → Option (Except AgentError α)
  | .active (.finished result) => some result
  | .active (.asking _ _) | .active (.minting _) | .bound _ _ | .waiting _ _ => none

end Process

/-! ### All together -/

/-- What is recorded of the traffic. -/
inductive TrafficEvent where
  /-- A request makes its agent or gets into its mailbox. -/
  | admitted (letter : Letter)
  /-- A write makes an agent. -/
  | created (identity : AgentIdentity)
  /-- A request that has been admitted is answered. -/
  | answered (sender : Nat) (request : AgentRequest)
      (result : Except AgentError request.Answer)
  /-- A request is answered and was never admitted. -/
  | told (sender : Nat) (request : AgentRequest) (result : Except AgentError request.Answer)
  | minted (sender : Nat) (token : String)

/-- What is recorded of a request that is answered at once. Only a write that is not refused is
admitted; it makes the agent. -/
def TrafficEvent.atOnce (sender : Nat) (request : AgentRequest)
    (result : Except AgentError request.Answer) : List TrafficEvent :=
  if request.isWrite && result.isOk then
    [.admitted ⟨sender, request⟩, .created request.identity, .answered sender request result]
  else [.told sender request result]

/-- The agents with their mailboxes, the processes by their numbers, the supply from which they
mint tokens, and the history so far, the oldest event first. -/
structure Traffic (α : Type) where
  directory : Directory
  mailboxes : AgentIdentity → Mailbox
  processes : List (Process α)
  supply : TokenSupply
  history : List TrafficEvent

/-- What may happen next. -/
inductive TrafficMove where
  /-- A process goes on. -/
  | advance (sender : Nat)
  /-- A request that waits gets into the mailbox. -/
  | letIn (identity : AgentIdentity)
  /-- An agent takes a request out of its mailbox. -/
  | take (identity : AgentIdentity)
  /-- An agent answers the request that it has taken. -/
  | reply (identity : AgentIdentity)
  /-- An agent stops. -/
  | stop (identity : AgentIdentity)
  deriving DecidableEq

namespace Traffic

variable {α : Type}

/-- Tasks that have not begun yet. -/
def start (directory : Directory) (supply : TokenSupply) (tasks : List (AgentTask α)) :
    Traffic α where
  directory
  mailboxes _ := .empty
  processes := tasks.map .active
  supply
  history := []

/-! ### Changes of one part -/

/-- The traffic with another mailbox at one agent. -/
def setMailbox (traffic : Traffic α) (identity : AgentIdentity) (mailbox : Mailbox) : Traffic α :=
  { traffic with
    mailboxes := fun other => if other = identity then mailbox else traffic.mailboxes other }

/-- The traffic with another process under a number. -/
def setProcess (traffic : Traffic α) (sender : Nat) (process : Process α) : Traffic α :=
  { traffic with processes := traffic.processes.set sender process }

/-- The traffic with more events in its history. -/
def record (traffic : Traffic α) (events : List TrafficEvent) : Traffic α :=
  { traffic with history := traffic.history ++ events }

/-! ### The steps -/

/-- A process makes a request: it looks for the agent. -/
def ask (traffic : Traffic α) (sender : Nat) (request : AgentRequest)
    (next : request.Answer → AgentTask α) : Traffic α :=
  if request.isMailed && traffic.directory.contains request.identity then
    traffic.setProcess sender (.bound request next)
  else
    let (result, directory) := traffic.directory.answer request
    ({ traffic with directory }.setProcess sender (.active (.resume next result))).record
      (TrafficEvent.atOnce sender request result)

/-- A process sends its request to the agent that it has found. -/
def send (traffic : Traffic α) (sender : Nat) (request : AgentRequest)
    (next : request.Answer → AgentTask α) : Traffic α :=
  if traffic.directory.isRunning request.identity then
    let mailbox := traffic.mailboxes request.identity
    let capacity := traffic.directory.mailboxCapacity
    let posted :=
      (traffic.setMailbox request.identity (mailbox.post capacity ⟨sender, request⟩)).setProcess
        sender (.waiting request next)
    if mailbox.isOpen capacity then posted.record [.admitted ⟨sender, request⟩] else posted
  else
    (traffic.setProcess sender (.active (.resume next (.error (Directory.stopped request))))).record
      [.told sender request (.error (Directory.stopped request))]

/-- A process mints a token. -/
def mint (traffic : Traffic α) (sender : Nat) (next : String → AgentTask α) : Traffic α :=
  let (token, supply) := traffic.supply.mint
  ({ traffic with supply }.setProcess sender (.active (next token))).record
    [.minted sender token]

/-- A process goes on, if it can. -/
def advance? (traffic : Traffic α) (sender : Nat) : Option (Traffic α) :=
  match traffic.processes[sender]? with
  | some (.active (.asking request next)) => some (traffic.ask sender request next)
  | some (.active (.minting next)) => some (traffic.mint sender next)
  | some (.bound request next) => some (traffic.send sender request next)
  | some (.active (.finished _)) | some (.waiting _ _) | none => none

/-- The request that has waited longest at an agent gets into the mailbox, if there is room. -/
def letIn? (traffic : Traffic α) (identity : AgentIdentity) : Option (Traffic α) := do
  let (letter, mailbox) ←
    (traffic.mailboxes identity).letIn? traffic.directory.mailboxCapacity
  return (traffic.setMailbox identity mailbox).record [.admitted letter]

/-- An agent takes the oldest request out of its mailbox, if it has answered the one before. -/
def take? (traffic : Traffic α) (identity : AgentIdentity) : Option (Traffic α) := do
  let mailbox ← (traffic.mailboxes identity).take?
  return traffic.setMailbox identity mailbox

/-- An agent answers the request that it has taken, to the process that waits for the answer to
just this request. -/
def reply? (traffic : Traffic α) (identity : AgentIdentity) : Option (Traffic α) := do
  let letter ← (traffic.mailboxes identity).taken
  match traffic.processes[letter.sender]? with
  | some (.waiting request next) =>
    if letter.request = request then
      let (result, directory) :=
        if traffic.directory.isRunning identity then traffic.directory.answer request
        else (.error (Directory.dropped request), traffic.directory)
      let emptied := { traffic.mailboxes identity with taken := none }
      return (({ traffic with directory }.setMailbox identity emptied).setProcess letter.sender
        (.active (.resume next result))).record [.answered letter.sender request result]
    else none
  | some (.active _) | some (.bound _ _) | none => none

/-- Whether anybody can send to an agent: the directory can if it has the agent, and so can a
process that has found it or that waits to get in. -/
def hasSender (traffic : Traffic α) (identity : AgentIdentity) : Bool :=
  traffic.directory.contains identity || traffic.processes.any (Process.isBoundTo identity) ||
    !(traffic.mailboxes identity).waiting.isEmpty

/-- An agent stops, if it has answered everything and nobody can send to it. -/
def stop? (traffic : Traffic α) (identity : AgentIdentity) : Option (Traffic α) :=
  if (traffic.mailboxes identity).inside.isEmpty && !traffic.hasSender identity then
    some { traffic with directory := traffic.directory.stop identity }
  else none

/-- What comes of a move, if it can be made. -/
def step? (traffic : Traffic α) : TrafficMove → Option (Traffic α)
  | .advance sender => traffic.advance? sender
  | .letIn identity => traffic.letIn? identity
  | .take identity => traffic.take? identity
  | .reply identity => traffic.reply? identity
  | .stop identity => traffic.stop? identity

/-- What comes of some moves, one after the other, if all of them can be made. -/
def run? (traffic : Traffic α) (moves : List TrafficMove) : Option (Traffic α) :=
  moves.foldlM step? traffic

/-- The result of a process that has come to its end. -/
def result? (traffic : Traffic α) (sender : Nat) : Option (Except AgentError α) :=
  traffic.processes[sender]?.bind Process.result?

end Traffic

end SessionForge
