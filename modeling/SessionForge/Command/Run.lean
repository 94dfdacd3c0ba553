/-
Running a command: what it reads, what it prints, and how it ends. Files are read through a
function that is given, so that the same commands run over the files of a machine and over a folder
in memory.
-/

import SessionForge.Command.Arguments
import SessionForge.Command.Report
import SessionForge.Command.Usage
import SessionForge.Config.Reader
import SessionForge.Log.Filter
import SessionForge.Orchestrator
import SessionForge.Template.FolderStore
import SessionForge.Template.Keyword

namespace SessionForge

/-- What a run has to do with: the files, the filter of the log that the environment gives, and
the time and the random bits that tokens are made of. -/
structure Surroundings (m : Type → Type) where
  fileAt : String → m (Except FileError Bytes)
  logFilter : Option String
  milliseconds : Nat
  random : Nat

/-- Why a run halts before its end: something went wrong and is reported, or the program breaks
down. -/
inductive Halt where
  | report (report : Report)
  | breakdown
  deriving DecidableEq

/-- What a run leaves behind: its exit code, what it printed, and the report of what went wrong. -/
structure Outcome where
  exitCode : Nat
  output : String
  report : Option Report
  deriving DecidableEq

namespace Outcome

/-- The outcome of a run that went well. -/
def success (output : String) : Outcome :=
  ⟨0, output, none⟩

/-- The outcome of a run that halts. -/
def halted : Halt → Outcome
  | .report report => ⟨1, "", some report⟩
  | .breakdown => ⟨101, "", none⟩

end Outcome

namespace Surroundings

variable {m : Type → Type} [Monad m]

/-- A step of a run, which may halt. -/
abbrev Attempt (m : Type → Type) := ExceptT Halt m

/-- Goes on with a result, or halts over its error. -/
def orHalt {ε α : Type} (halt : ε → Halt) (result : Except ε α) : Attempt m α :=
  ExceptT.mk (pure (result.mapError halt))

/-- Goes on with a result, or halts with a report of its error. -/
def orReport {ε α : Type} (report : ε → Report) (result : Except ε α) : Attempt m α :=
  orHalt (fun error => .report (report error)) result

/-! ### The configuration -/

/-- Reads the configuration from a file. -/
def readConfig (fileAt : String → m (Except FileError Bytes)) (path : String) :
    m (Except ConfigError Config) := do
  match (← fileAt path).bind decodeText with
  | .error error => return .error (.io path error.message)
  | .ok text => return Config.ofToml text

/-- The configuration of a run. -/
def config (around : Surroundings m) (path : Option String) : Attempt m Config :=
  match path with
  | none => return {}
  | some path => do
    let result ← (readConfig around.fileAt path : m _)
    orReport (fun error => (Report.ofConfig error).within ("loading config " ++ path)) result

/-! ### Listing the catalog -/

/-- A text with blanks after it, up to a width. -/
def padded (width : Nat) (text : String) : String :=
  text ++ String.ofList (List.replicate (width - text.length) ' ')

/-- The line of an entry. -/
def listing (entry : CatalogEntry) : String :=
  padded 32 entry.name ++ " " ++ padded 12 (entry.language.getD "-") ++ " "
    ++ entry.description.getD "" ++ "\n"

/-- Lists the catalog. -/
def listCatalog (around : Surroundings m) (config : Config) (folder : String) :
    Attempt m String := do
  let key := config.templates.catalogKey
  let answer ← (FolderStore.get around.fileAt folder key : m _)
  match ← orReport Report.ofBlob answer with
  | none => throw (.report (.ofMessage ("no catalog at " ++ Path.join folder key)))
  | some bytes =>
    let catalog ← orReport
      (fun refusal => (Report.ofMessage refusal.message).within "parsing catalog")
      (Catalog.parse bytes)
    return String.join (catalog.entries.map listing)

/-! ### Selecting a template -/

/-- A document on lines of its own. -/
def document (value : Json) : String :=
  value.pretty ++ "\n"

/-- Selects a template by keywords. The store is asked for nothing but the catalog. -/
def select (around : Surroundings m) (config : Config) (folder query : String)
    (user : Option String) : Attempt m String := do
  let answer ← (FolderStore.get around.fileAt folder config.templates.catalogKey : m _)
  let parts : Orchestrator.Parts :=
    { config, store := some fun _ => .now answer, matcher := some Keyword.matcher
      directory := none, supply := none }
  let orchestrator ← orReport Report.ofFailure
    (Orchestrator.build parts around.milliseconds around.random)
  let context := { InferenceContext.empty with userId := user }
  let resolution ← orReport Report.ofFailure (orchestrator.select context query).1
  return document resolution.toJson

/-! ### Cloning a session -/

/-- Writes a state to its own agent and reads the state of a clone of that agent. -/
def snapshot (location : LocationHint) (state : SessionState) :
    AgentTask (AgentIdentity × SessionState) := do
  AgentTask.write state.sessionId location state
  let identity ← AgentTask.clone location state.sessionId
  let cloned ← AgentTask.fetch identity
  return (identity, cloned)

/-- What an error of an agent means for a run. -/
def haltOfAgent (error : AgentError) : Halt :=
  if error.isFatal then .breakdown else .report (.ofMessage error.message)

/-- Clones the session whose state a file holds. -/
def clone (around : Surroundings m) (config : Config) (path : String) : Attempt m String := do
  let bytes ← (around.fileAt path : m _)
  let text ← orReport (fun error => (Report.ofFile error).within ("reading state " ++ path))
    (bytes.bind decodeText)
  let state ← orReport
    (fun refusal => (Report.ofMessage refusal.message).within "parsing state")
    (SessionState.parse text)
  let directory := Directory.withCapacity config.agents.mailboxCapacity.toNat
  let supply := config.agents.idFormat.supply around.milliseconds around.random
  let (result, _) := (snapshot config.locationHint state).run Directory.answer directory supply
  let (identity, cloned) ← orHalt haltOfAgent result
  return document
    (Json.sorted (.object [("agentId", .text identity.token), ("state", cloned.toJson)]))

/-! ### All commands -/

/-- What a refused filter of the log means for a run. -/
def haltOfFilter (config : LoggingConfig) (error : FilterError) : Halt :=
  if error.isFatal then .breakdown
  else .report (Report.ofConfig (LogFilter.refused config error))

/-- Runs a command: the configuration comes first, then the filter of the log, then the command. -/
def perform (around : Surroundings m) (invocation : Invocation) : Attempt m String := do
  let config ← config around invocation.config
  orHalt (haltOfFilter config.logging)
    (LogFilter.checkEffective around.logFilter config.logging)
  match invocation.command with
  | .catalog folder => listCatalog around config folder
  | .select folder query user => select around config folder query user
  | .clone path => clone around config path

/-- The name and the version of the program. -/
def version : String :=
  "cgo 0.1.0\n"

/-- Runs the program. -/
def run (around : Surroundings m) (arguments : List String) : m Outcome := do
  match Arguments.read arguments with
  | .version => return .success version
  | .help command => return .success (Usage.text command)
  | .misuse => return ⟨2, "", none⟩
  | .run invocation =>
    match ← (perform around invocation).run with
    | .ok output => return .success output
    | .error halt => return .halted halt

end Surroundings

end SessionForge
