/-
Changes to the state of a session, one at a time, and what each of them answers.
-/

import SessionForge.Session.State

namespace SessionForge

/-- A change to the state of a session. -/
inductive SessionEdit where
  | insertContent (name : String) (value : Json)
  | removeContent (name : String)
  | withContent (name : String) (value : Json)
  | cloneFor (identity : AgentIdentity)
  | setSandbox (id : Option String)
  | pushInput (input : String)
  | setPhase (phase : Phase)
  | setGeneration (marker : Option GenerationMarker)
  | setResume (resume : Bool)
  | pushError (report : ErrorReport)
  deriving DecidableEq

/-- What a change answers. -/
inductive SessionEdit.Answer where
  | done
  | previous (value : Option Json)
  | reserved (error : ReservedName)
  | count (n : Nat)
  | phase (phase : Phase)
  | flag (value : Bool)
  deriving DecidableEq

namespace SessionEdit

/-- Makes a change. A refused change leaves the state as it is. -/
def apply (state : SessionState) : SessionEdit → Answer × SessionState
  | .insertContent name value =>
    match state.insertContent name value with
    | .ok (previous, changed) => (.previous previous, changed)
    | .error error => (.reserved error, state)
  | .removeContent name => (.previous (state.removeContent name).1, (state.removeContent name).2)
  | .withContent name value => (.done, state.withContent name value)
  | .cloneFor identity => (.done, state.cloneFor identity)
  | .setSandbox id => (.done, { state with sandboxInstanceId := id })
  | .pushInput input =>
    let inputs := state.pendingUserInputs ++ [input]
    (.count inputs.length, { state with pendingUserInputs := inputs })
  | .setPhase phase => (.phase phase, { state with currentDevState := phase })
  | .setGeneration marker =>
    let changed := { state with generationPromise := marker }
    (.flag changed.isGenerating, changed)
  | .setResume resume => (.flag resume, { state with shouldBeGenerating := resume })
  | .pushError report =>
    let reports := state.clientReportedErrors ++ [report]
    (.count reports.length, { state with clientReportedErrors := reports })

/-- Makes changes one after the other. -/
def applyAll (state : SessionState) (edits : List SessionEdit) : SessionState :=
  edits.foldl (fun state edit => (edit.apply state).2) state

end SessionEdit

end SessionForge
