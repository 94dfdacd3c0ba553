/-
Reports of what went wrong: a message and the messages of its causes, from the outermost on. A
single cause is indented under the message; several are numbered.
-/

import SessionForge.Failure
import SessionForge.Files.Error
import SessionForge.Text.Runs

namespace SessionForge

/-- A message and its causes. -/
structure Report where
  message : String
  causes : List String
  deriving DecidableEq

namespace Report

/-! ### Layout -/

/-- The lines of a text. -/
def linesOf (text : String) : List String :=
  let (first, more) := cutPieces (· != '\n') text.toList
  (first :: more).map String.ofList

/-- The lines of a cause, with one start for the first line and another for the rest. -/
def indented (first rest : String) (text : String) : List String :=
  match linesOf text with
  | [] => []
  | line :: more => (first ++ line) :: more.map (rest ++ ·)

/-- A number with blanks in front, up to five characters. -/
def paddedNumber (n : Nat) : String :=
  let digits := toString n
  String.ofList (List.replicate (5 - digits.length) ' ') ++ digits

/-- The lines of the causes. -/
def causeLines : List String → List String
  | [] => []
  | [cause] => indented "    " "    " cause
  | causes =>
    causes.zipIdx.flatMap fun (cause, number) =>
      indented (paddedNumber number ++ ": ") "       " cause

/-- The lines of a report. -/
def lines (report : Report) : List String :=
  linesOf ("Error: " ++ report.message)
    ++ (if report.causes.isEmpty then [] else "" :: "Caused by:" :: causeLines report.causes)

/-! ### Reports of errors -/

/-- A report of a message without causes. -/
def ofMessage (message : String) : Report :=
  ⟨message, []⟩

/-- The report that an error happened while something was done. -/
def within (report : Report) (message : String) : Report :=
  ⟨message, report.message :: report.causes⟩

/-- The report of a file that could not be read. -/
def ofFile (error : FileError) : Report :=
  .ofMessage error.message

/-- The report of an error of a store. -/
def ofBlob (error : BlobError) : Report :=
  match error with
  | .io _ reason => ⟨error.message, [reason]⟩
  | .invalidKey _ | .backend _ => .ofMessage error.message

/-- The report of a missing configuration. -/
def ofConfig (error : ConfigError) : Report :=
  match error with
  | .io _ reason => ⟨error.message, [reason]⟩
  | .parse refusal => ⟨error.message, [refusal.describe]⟩
  | .invalid _ | .telemetry _ => .ofMessage error.message

/-- The report of a failure. -/
def ofFailure (failure : Failure) : Report :=
  match failure with
  | .config cause => (ofConfig cause).within failure.message
  | .agent _ | .selection _ => (ofMessage failure.source).within failure.message

end Report

end SessionForge
