/-
The store that keeps its blobs in the files of a folder. A key is a path from the folder on, and
only paths that stay inside it are keys.
-/

import SessionForge.Files.Error
import SessionForge.Files.Path

namespace SessionForge.FolderStore

/-- Whether a text is a key: a path of names only. -/
def isKey (key : String) : Bool :=
  !key.isEmpty && (Path.parts key).all Path.isName

/-- The path of the file under a key. -/
def resolve (root key : String) : Except BlobError String :=
  if isKey key then .ok (Path.join root key) else .error (.invalidKey key)

/-- What reading a file means for the store: where no file is, there is no blob. -/
def blobOf (path : String) : Except FileError Bytes → Except BlobError (Option Bytes)
  | .ok bytes => .ok (some bytes)
  | .error .notFound => .ok none
  | .error error => .error (.io path error.message)

/-- Reads the blob under a key. No file is touched for a text that is no key. -/
def get {m : Type → Type} [Monad m] (fileAt : String → m (Except FileError Bytes))
    (root key : String) : m (Except BlobError (Option Bytes)) :=
  match resolve root key with
  | .error error => return .error error
  | .ok path => return blobOf path (← fileAt path)

end SessionForge.FolderStore
