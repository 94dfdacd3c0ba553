/-
Outages of agents. Of each agent it is known which requests fail for it, and with what error, and
whether it denies or pretends to have been written to; all other requests go to the directory.
-/

import SessionForge.Agent.Task

namespace SessionForge

/-- How a request fails that does not reach its agent. -/
inductive OutageCause where
  | notFound
  | failed (reason : String)
  deriving DecidableEq

/-- The error of a request that does not reach its agent. -/
def OutageCause.error (cause : OutageCause) (request : AgentRequest) : AgentError :=
  match cause with
  | .notFound => .notFound request.identity
  | .failed reason => .failed request.operation request.identity reason

/-- What is out at one agent. -/
structure Outage where
  /-- What the agent says to the question whether it has been written to, if not the truth. -/
  isInitialized : Option (Except OutageCause Bool) := none
  /-- How reads fail. -/
  read : Option OutageCause := none
  /-- How writes fail. -/
  write : Option OutageCause := none
  deriving Inhabited

/-- What is out at which agent, by the tokens of their identities. -/
abbrev Outages := Dictionary Outage

/-- Answers a request, unless it fails because of an outage. -/
def Outages.answer (outages : Outages) (directory : Directory) (request : AgentRequest) :
    Except AgentError request.Answer × Directory :=
  let outage := (outages.find? request.identity.token).getD {}
  match request with
  | .isInitialized identity =>
    match outage.isInitialized with
    | some said =>
      (said.mapError fun cause => cause.error (.isInitialized identity), directory)
    | none => directory.answer (.isInitialized identity)
  | .read identity =>
    match outage.read with
    | some cause => (.error (cause.error (.read identity)), directory)
    | none => directory.answer (.read identity)
  | .write identity location state =>
    match outage.write with
    | some cause => (.error (cause.error (.write identity location state)), directory)
    | none => directory.answer (.write identity location state)

end SessionForge
