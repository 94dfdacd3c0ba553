/-
This file says what is left of a run of the program once it has come to its command: the outcome of
the command, which prints something or halts (`run_of_begins`). A run comes to its command when it
has a configuration and a filter of the log that hold, and the configuration is then a valid one
(`Begins.valid`).
-/

import SessionForge.Command.Run
import SessionForge.Proofs.Config.Checks

namespace SessionForge

/-- The outcome of a command that printed something, or halted. -/
def Outcome.of : Except Halt String → Outcome
  | .ok output => .success output
  | .error halt => .halted halt

namespace Surroundings

variable {around : Surroundings Id} {path : Option String} {config : Config}

/-- A run with a file for its configuration, or without one, comes to its command, with some
configuration. -/
structure Begins (around : Surroundings Id) (path : Option String) (config : Config) : Prop where
  configured : (around.config path).run = Except.ok config
  logged : LogFilter.checkEffective around.logFilter config.logging = .ok ()

/-- What a command comes to. -/
def does (around : Surroundings Id) (config : Config) : Command → Except Halt String
  | .catalog folder => (listCatalog around config folder).run
  | .select folder query user => (select around config folder query user).run
  | .clone path => (clone around config path).run

/-- A configuration that was read from a file has been checked. -/
theorem validate_of_readConfig {fileAt : String → Except FileError Bytes} {file : String}
    (isRead : readConfig (m := Id) fileAt file = Except.ok config) :
    config.validate = .ok () := by
  simp only [readConfig, pure, bind] at isRead
  split at isRead
  · cases isRead
  · exact Config.validate_of_ofToml isRead

theorem Begins.valid (begins : around.Begins path config) : config.validate = .ok () := by
  have configured := begins.configured
  cases path with
  | none =>
    obtain rfl : ({} : Config) = config := Except.ok.inj configured
    exact Config.validate_default
  | some file => exact validate_of_readConfig (mapError_eq_ok_iff.1 configured)

/-- What is left of a run that comes to its command is what the command comes to. -/
theorem run_of_begins {arguments : List String} {command : Command}
    (asked : Arguments.read arguments = .run ⟨path, command⟩) (begins : around.Begins path config) :
    around.run arguments = Outcome.of (around.does config command) := by
  have performed : (around.perform ⟨path, command⟩).run = around.does config command := by
    rw [perform, ExceptT.run_bind, begins.configured]
    show ((orHalt (haltOfFilter config.logging)
      (LogFilter.checkEffective around.logFilter config.logging) >>= _ : Attempt Id String)).run = _
    rw [ExceptT.run_bind, begins.logged]
    cases command <;> rfl
  rw [run, asked]
  show (match (around.perform ⟨path, command⟩).run with
    | .ok output => Outcome.success output
    | .error halt => .halted halt) = _
  rw [performed]
  cases around.does config command <;> rfl

end Surroundings

end SessionForge
