/-
This file settles what the command that clones a session comes to. It writes the session to a
directory of its own and clones it there, so the clone is never made of nothing: where mailboxes
are not too large, the command halts exactly where the file cannot be read or holds no session
(`does_clone`).

What it prints is no text of a session but a document with the session inside, which is sorted and
indented. Still the printed session is the clone: taken out of the document it is read as the text
of the clone is (`showsClone_document`, `clone_decided`).
-/

import SessionForge.Proofs.Agent.Cloning
import SessionForge.Proofs.Command.Listing
import SessionForge.Proofs.Session.Sorted

namespace SessionForge

open Json (Tree treeOf)

/-! ### The clone -/

theorem Directory.withCapacity_fits_iff {capacity : Nat} :
    (Directory.withCapacity capacity).mailboxCapacity ≤ greatestMailboxCapacity ↔
      capacity ≤ greatestMailboxCapacity := by
  have positive : 1 ≤ greatestMailboxCapacity := by decide
  exact ⟨fun fits => Nat.le_trans (Nat.le_max_left _ _) fits,
    fun fits => Nat.max_le.2 ⟨fits, positive⟩⟩

/-- An agent that runs gives its state. -/
theorem run_fetch_of_running {directory : Directory} {identity : AgentIdentity} {agent : Agent}
    (supply : TokenSupply) (found : directory.find? identity = some agent)
    (running : agent.running = true) :
    (AgentTask.fetch identity).run Directory.answer directory supply =
      (.ok agent.state, directory, supply) := by
  simp [AgentTask.fetch, AgentTask.run_bind, Directory.answer, Directory.contains, found, running]

namespace Surroundings

section Snapshot

variable (location : LocationHint) (state : SessionState) {capacity : Nat} (supply : TokenSupply)

/-- In a directory of its own a session is cloned for the next token. -/
theorem run_snapshot_of_fits (fits : capacity ≤ greatestMailboxCapacity) :
    ((snapshot location state).run Directory.answer (.withCapacity capacity) supply).1 =
      .ok (⟨supply.mint.1⟩, state.cloneFor ⟨supply.mint.1⟩) := by
  have room := Directory.withCapacity_fits_iff.2 fits
  generalize isEmpty : Directory.withCapacity capacity = empty at room
  have absent : ∀ identity, empty.find? identity = none := fun _ => isEmpty ▸ rfl
  have written := answer_write location state room fun agent found => by
    rw [absent state.sessionId] at found
    cases found
  rw [Directory.location?, absent, Option.map_none, Option.getD_none] at written
  have running : ∀ identity agent,
      (empty.put state.sessionId ⟨location, state, true⟩ room).find? identity = some agent →
        agent.running = true := by
    intro identity agent found
    by_cases same : identity = state.sessionId
    · rw [same, Directory.find?_put_self] at found
      rw [← Option.some.inj found]
    · rw [Directory.find?_put_other _ _ _ _ same, absent] at found
      cases found
  have cloned := run_clone_of_present ⟨location⟩ supply (Directory.find?_put_self ..) running
  simp only [snapshot, AgentTask.clone, AgentTask.run_bind, AgentTask.run_write,
    AgentTask.run_pure, written, cloned]
  rw [run_fetch_of_running _ (Directory.find?_put_self ..) rfl]

/-- Where mailboxes are too large the session is not even written. -/
theorem run_snapshot_of_tooGreat (tooGreat : greatestMailboxCapacity < capacity) :
    ((snapshot location state).run Directory.answer (.withCapacity capacity) supply).1 =
      .error (.mailboxTooLarge state.sessionId) := by
  have unfit := fun fits => Nat.not_le.2 tooGreat (Directory.withCapacity_fits_iff.1 fits)
  have refused : Directory.answer (.withCapacity capacity) (.write state.sessionId location state) =
      (.error (.mailboxTooLarge state.sessionId), .withCapacity capacity) := dif_neg unfit
  simp only [snapshot, AgentTask.run_bind, AgentTask.run_write, refused]

end Snapshot

/-- The session that a file holds, or what is wrong with the file or with its text. -/
def stateAt (around : Surroundings Id) (path : String) :
    Except (FileError ⊕ Json.Refusal) SessionState :=
  match (around.fileAt path).run.bind decodeText with
  | .error error => .error (.inl error)
  | .ok text => (SessionState.parse text).mapError .inr

theorem stateAt_eq_ok_iff {around : Surroundings Id} {path : String} {state : SessionState} :
    stateAt around path = .ok state ↔
      ∃ text, (around.fileAt path).run.bind decodeText = .ok text ∧
        SessionState.parse text = .ok state := by
  rw [stateAt]
  cases (around.fileAt path).run.bind decodeText with
  | error error => simp
  | ok text => simp [mapError_eq_ok_iff]

/-- How a clone halts over a file that holds no session. -/
def haltOfState (path : String) : FileError ⊕ Json.Refusal → Halt
  | .inl error => .report ((Report.ofFile error).within ("reading state " ++ path))
  | .inr refusal => .report ((Report.ofMessage refusal.message).within "parsing state")

/-- The document of a clone. -/
def cloneDocument (identity : AgentIdentity) (cloned : SessionState) : Json :=
  Json.sorted (.object [("agentId", .text identity.token), ("state", cloned.toJson)])

section Clone

variable {around : Surroundings Id} {config : Config} {path : String} {state : SessionState}

/-- The command reads a session and works on it in a directory of its own. -/
theorem does_clone : around.does config (.clone path) =
    match stateAt around path with
    | .error error => .error (haltOfState path error)
    | .ok state =>
      (((snapshot config.locationHint state).run Directory.answer
        (.withCapacity config.agents.mailboxCapacity.toNat)
          (supplyOf around config)).1.mapError haltOfAgent).map fun cloned =>
            document (cloneDocument cloned.1 cloned.2) := by
  simp only [does, clone, stateAt]
  show ExceptT.run (orReport _ ((around.fileAt path).run.bind decodeText) >>= _) = _
  cases (around.fileAt path).run.bind decodeText with
  | error error => rfl
  | ok text =>
    show ExceptT.run (orReport _ (SessionState.parse text) >>= _) = _
    cases parsed : SessionState.parse text with
    | error refusal =>
      simp only [parsed, mapError_error]
      rfl
    | ok state =>
      simp only [parsed, mapError_ok]
      show ExceptT.run (orHalt haltOfAgent ((snapshot config.locationHint state).run
        Directory.answer (.withCapacity config.agents.mailboxCapacity.toNat)
          (supplyOf around config)).1 >>=
            fun cloned => pure (document (cloneDocument cloned.1 cloned.2))) = _
      generalize ((snapshot config.locationHint state).run _ _ _).1 = result
      cases result <;> rfl

theorem does_clone_of_error {error : FileError ⊕ Json.Refusal}
    (refused : stateAt around path = .error error) :
    around.does config (.clone path) = .error (haltOfState path error) := by
  rw [does_clone, refused]

variable (isState : stateAt around path = .ok state)

include isState

theorem does_clone_of_fits
    (fits : config.agents.mailboxCapacity.toNat ≤ greatestMailboxCapacity) :
    let identity : AgentIdentity := ⟨(supplyOf around config).token 0⟩
    around.does config (.clone path) =
      .ok (document (cloneDocument identity (state.cloneFor identity))) := by
  simp only [does_clone, isState, run_snapshot_of_fits _ _ _ fits, TokenSupply.mint,
    minted_supplyOf]
  rfl

theorem does_clone_of_tooGreat
    (tooGreat : greatestMailboxCapacity < config.agents.mailboxCapacity.toNat) :
    around.does config (.clone path) = .error .breakdown := by
  simp only [does_clone, isState, run_snapshot_of_tooGreat _ _ _ tooGreat]
  rfl

end Clone

/-! ### What is printed -/

/-- A text is the document of a clone: it has two members, the identity of the clone and its state.
Taken out of the document, the state is read as the text of the clone is. That is the clone itself,
if the floating-point numbers in it read back. -/
def ShowsClone (output : String) (cloned : SessionState) : Prop :=
  ∃ members identity state,
    (Tree.object members).Spells (Utf8.ofString output) ∧
    Tree.named? members = some [("agentId", identity), ("state", state)] ∧
    identity.IsText cloned.sessionId.token ∧
    (∃ front text back, output = front ++ text ++ back ∧ state.Spells (Utf8.ofString text)) ∧
    ∀ text, state.Spells (Utf8.ofString text) →
      (∃ other, SessionState.parse text = .ok other ∧
        SessionState.parse cloned.render = .ok other) ∧
      (cloned.content.FloatsReadBack → SessionState.parse text = .ok cloned)

/-- The members of the document of a clone are in order. -/
theorem cloneDocument_eq (identity : AgentIdentity) (cloned : SessionState) :
    cloneDocument identity cloned =
      .object [("agentId", .text identity.token), ("state", cloned.toJson.sorted)] := by
  have ordered : Entries.Ordered
      [("agentId", Json.text identity.token), ("state", cloned.toJson.sorted)] := by
    refine List.pairwise_pair.2 ?_
    show "agentId" < "state"
    decide
  rw [cloneDocument, Json.sorted, ← ordered.ofList_eq]
  rfl

/-- The state stands in the document on its own. -/
theorem exists_document_eq (identity : AgentIdentity) (cloned : SessionState) :
    ∃ front back, document (cloneDocument identity cloned) =
      front ++ String.ofList (Json.printIndented 1 cloned.toJson.sorted) ++ back := by
  rw [cloneDocument_eq]
  refine ⟨String.ofList ('\x7b' :: Json.newLine 1 ++ Json.quoted "agentId" ++ ':' :: ' '
    :: Json.quoted identity.token ++ ',' :: Json.newLine 1 ++ Json.quoted "state" ++ [':', ' ']),
    String.ofList (Json.newLine 0 ++ ['\x7d', '\n']), ?_⟩
  have newLine : "\n" = String.ofList ['\n'] := rfl
  simp only [document, Json.pretty, newLine, ← String.ofList_append, Json.printIndented,
    Json.indentedMembers, List.append_assoc, List.cons_append, List.nil_append]

theorem showsClone_document {state : SessionState} (proper : state.content.Proper)
    (shallow : state.content.depth ≤ 126) (identity : AgentIdentity) :
    ShowsClone (document (cloneDocument identity (state.cloneFor identity)))
      (state.cloneFor identity) := by
  let cloned := state.cloneFor identity
  have properClone : cloned.content.Proper := proper
  have inOrder := state.inOrder_typedMembers_cloneFor identity
  have fits := SessionState.fits_sorted properClone inOrder
  let members := [("agentId", Json.text identity.token), ("state", cloned.toJson.sorted)]
  have fitsDocument : (Json.object members).AllNumbers Json.Number.Fits := by
    refine Json.allNumbers_object (List.forall_mem_cons.2 ⟨Json.allNumbers_text _, ?_⟩)
    exact List.forall_mem_singleton.2 fits
  obtain ⟨front, back, output⟩ := exists_document_eq identity cloned
  refine ⟨Json.treeMembers members, _, _, ?_, Json.named?_treeMembers members,
    Json.isText_treeOf identity.token, ⟨front, _, back, output, ?_⟩, ?_⟩
  · rw [cloneDocument_eq]
    exact Json.spells_pretty fitsDocument (.blank (by decide) (.none []))
  · have spelled := Json.value_printIndented cloned.toJson.sorted 1 [] fits
    rw [List.append_nil] at spelled
    rw [Utf8.ofString, String.toList_ofList]
    exact ⟨[], spelled, .none []⟩
  · intro text spells
    have alike := SessionState.parse_iff_of_sorted properClone inOrder spells
    obtain ⟨other, isRead⟩ := SessionState.exists_parse_render properClone shallow
    exact ⟨⟨other, (alike other).2 isRead, isRead⟩, fun floats =>
      (alike cloned).2 (SessionState.parse_render_of_proper properClone shallow floats)⟩

/-! ### The whole command -/

/-- The report of a file has a cause, and that of a missing agent has none. -/
theorem haltOfState_ne_notFound (path : String) (error : FileError ⊕ Json.Refusal)
    (missing : AgentIdentity) : haltOfState path error ≠ haltOfAgent (.notFound missing) := by
  intro same
  cases error <;> cases congrArg Report.causes (Halt.report.inj same)

/-- A folder with a session in the middle of its work. -/
def withWork : Surroundings Id where
  fileAt path :=
    if path = "s.json" then
      .ok (Utf8.ofString ("\x7b\"shouldBeGenerating\":true,\"sessionId\":\"a\"," ++
        "\"pages\":[\x7b\"z\":[],\"a\":-1\x7d],\"About\":\"\\n\"\x7d"))
    else .error .notFound
  logFilter := none
  milliseconds := 0
  random := 0

/-- A configuration of mailboxes that are too large, and a file with a session. -/
def tooRoomy : Surroundings Id where
  fileAt path :=
    if path = "c.toml" then .ok (Utf8.ofString "[agents]\nmailbox_capacity = 2305843009213693952")
    else .ok (Utf8.ofString "\x7b\"sessionId\":\"a\"\x7d")
  logFilter := some "off"
  milliseconds := 0
  random := 0

end Surroundings

end SessionForge
