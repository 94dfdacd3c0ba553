/-
The state of a session, which one agent owns: its typed fields and its free-form content. In a
document both stand side by side in one object, the typed fields first and in their order, then the
content in the order of its names. Reading sorts them apart again: a member is a typed field if it
has the name of one, and content otherwise.
-/

import SessionForge.Identity
import SessionForge.Session.Content
import SessionForge.Session.Marker
import SessionForge.Session.Phase

namespace SessionForge

/-- The state of a session. -/
structure SessionState where
  /-- The identity of the agent that owns the session. -/
  sessionId : AgentIdentity
  /-- The sandbox in which the project runs, if one is live. -/
  sandboxInstanceId : Option String
  /-- What the user has asked for and no one has answered, oldest first. -/
  pendingUserInputs : List String
  /-- The phase of generation. -/
  currentDevState : Phase
  /-- The generation run that is under way, if there is one. -/
  generationPromise : Option GenerationMarker
  /-- Whether generation goes on after a restart. -/
  shouldBeGenerating : Bool
  /-- What the running client has reported, oldest first. -/
  clientReportedErrors : List ErrorReport
  /-- All other fields. -/
  content : Content
  deriving DecidableEq

namespace SessionState

/-- The state of a session that starts. -/
def fresh (sessionId : AgentIdentity) : SessionState where
  sessionId
  sandboxInstanceId := none
  pendingUserInputs := []
  currentDevState := .initial
  generationPromise := none
  shouldBeGenerating := false
  clientReportedErrors := []
  content := .empty

/-- The state of a new session with the content of this one. Nothing else is taken over. -/
def cloneFor (state : SessionState) (identity : AgentIdentity) : SessionState :=
  { fresh identity with content := state.content }

/-- Whether a generation run is under way. -/
def isGenerating (state : SessionState) : Bool :=
  state.generationPromise.isSome

/-! ### Content -/

/-- Stores a field as content and gives the value it had. -/
def insertContent (state : SessionState) (name : String) (value : Json) :
    Except ReservedName (Option Json × SessionState) :=
  if free : isReservedName name = false then
    .ok (state.content.find? name, { state with content := state.content.insert name value free })
  else .error ⟨name⟩

/-- Stores a field as content, unless its name is reserved. -/
def withContent (state : SessionState) (name : String) (value : Json) : SessionState :=
  match state.insertContent name value with
  | .ok (_, changed) => changed
  | .error _ => state

/-- Takes a field out of the content and gives the value it had. -/
def removeContent (state : SessionState) (name : String) : Option Json × SessionState :=
  (state.content.find? name, { state with content := state.content.erase name })

/-! ### Documents -/

/-- The members of the typed fields. -/
def typedMembers (state : SessionState) : List (String × Json) :=
  ("sessionId", .text state.sessionId.token)
    :: Json.optional "sandboxInstanceId" (state.sandboxInstanceId.map .text)
    ++ ("pendingUserInputs", Json.texts state.pendingUserInputs)
    :: ("currentDevState", state.currentDevState.toJson)
    :: Json.optional "generationPromise" (state.generationPromise.map GenerationMarker.toJson)
    ++ [("shouldBeGenerating", .boolean state.shouldBeGenerating),
      ("clientReportedErrors", .array (state.clientReportedErrors.map ErrorReport.toJson))]

/-- A state as a value of a document. -/
def toJson (state : SessionState) : Json :=
  .object (state.typedMembers ++ state.content.fields.entries)

/-- The text of a state. -/
def render (state : SessionState) : String :=
  state.toJson.compact

/-- The fields of a state, which wait for its content. -/
def shape : Json.Shape (List (String × Json) → SessionState) :=
  (fun sessionId sandboxInstanceId pendingUserInputs currentDevState generationPromise
      shouldBeGenerating clientReportedErrors members =>
    { sessionId := ⟨sessionId⟩, sandboxInstanceId, pendingUserInputs, currentDevState,
      generationPromise, shouldBeGenerating, clientReportedErrors,
      content := .ofMembers members }) <$>
    .required "sessionId" Json.Reader.text
    <*> .optional "sandboxInstanceId" Json.Reader.text
    <*> .defaulted "pendingUserInputs" Json.Reader.text.list []
    <*> .defaulted "currentDevState" Phase.reader .initial
    <*> .optional "generationPromise" GenerationMarker.reader
    <*> .defaulted "shouldBeGenerating" Json.Reader.boolean false
    <*> .defaulted "clientReportedErrors" ErrorReport.reader.list []

/-- Reads a state. -/
def reader : Json.Reader SessionState :=
  shape.openReader "SessionState"

/-- Reads a state from a text. -/
def parse (text : String) : Except Json.Refusal SessionState :=
  Json.readString reader text

end SessionState

end SessionForge
