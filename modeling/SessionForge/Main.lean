/-
The program: it hands the arguments, the files and the surroundings of its process to `run`, and
prints what comes out.
-/

import SessionForge.Command.Run
import Std.Time.DateTime.Timestamp

namespace SessionForge

/-- What an error of the machine means for a file. -/
def fileErrorOf : IO.Error → FileError
  | .noFileOrDirectory _ _ _ => .notFound
  | error => .other error.toString

/-- Reads a file of the machine. -/
def readMachineFile (path : String) : IO (Except FileError Bytes) := do
  try
    let bytes ← IO.FS.readBinFile path
    return .ok bytes.toList
  catch error => return .error (fileErrorOf error)

/-- The milliseconds since the beginning of 1970. -/
def millisecondsNow : IO Nat := do
  return (← Std.Time.Timestamp.now).toMillisecondsSinceUnixEpoch.toInt.toNat

/-- The surroundings of the process. -/
def machine : IO (Surroundings IO) := do
  return {
    fileAt := readMachineFile
    logFilter := ← IO.getEnv "RUST_LOG"
    milliseconds := ← millisecondsNow
    random := ← IO.rand 0 (Nat.pow 2 122) }

end SessionForge

/-- Runs the program on the machine. -/
def main (arguments : List String) : IO UInt32 := do
  let outcome ← (← SessionForge.machine).run arguments
  IO.print outcome.output
  match outcome.report with
  | some report =>
    for line in report.lines do
      IO.eprintln line
  | none => pure ()
  return UInt32.ofNat outcome.exitCode
