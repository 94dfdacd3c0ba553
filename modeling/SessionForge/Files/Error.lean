/-
What can be wrong with reading a file.
-/

import SessionForge.Template.BlobStore
import SessionForge.Text.Utf8

namespace SessionForge

/-- Why a file could not be read. -/
inductive FileError where
  | notFound
  | notDirectory
  | isDirectory
  | nameTooLong
  | nulInName
  | notText
  | other (reason : String)
  deriving DecidableEq

/-- The message of a file that could not be read. -/
def FileError.message : FileError → String
  | .notFound => "No such file or directory (os error 2)"
  | .notDirectory => "Not a directory (os error 20)"
  | .isDirectory => "Is a directory (os error 21)"
  | .nameTooLong => "File name too long (os error 36)"
  | .nulInName => "file name contained an unexpected NUL byte"
  | .notText => "stream did not contain valid UTF-8"
  | .other reason => reason

/-- The text that a file holds. -/
def decodeText (bytes : Bytes) : Except FileError String :=
  match Utf8.toString? bytes with
  | some text => .ok text
  | none => .error .notText

end SessionForge
