/-
A folder of files that is kept in memory, and reading from it by paths. What is outside the folder
is not known, except that there are folders above it.
-/

import SessionForge.Files.Error
import SessionForge.Files.Path

namespace SessionForge

/-- The files of a folder by the names on the way to them, and its folders that may be empty. -/
structure Folder where
  files : List (List String × Bytes)
  folders : List (List String)

namespace Folder

/-- What stands at a place. -/
inductive Node where
  | file (bytes : Bytes)
  | folder
  deriving DecidableEq

/-- The names on the way to a place. -/
def placeOf (path : String) : List String :=
  (Path.segments path).filter fun segment => !(segment = "" ∨ segment = ".")

/-- The folder of some files and folders. -/
def ofPaths (files : List (String × Bytes)) (folders : List String) : Folder where
  files := files.map fun file => (placeOf file.1, file.2)
  folders := folders.map placeOf

/-- What stands at a place, if anything does. -/
def node? (folder : Folder) (place : List String) : Option Node :=
  match folder.files.lookup place with
  | some bytes => some (.file bytes)
  | none =>
    if place.isEmpty || (folder.files.any fun file => place.isPrefixOf file.1)
        || (folder.folders.any fun other => place.isPrefixOf other) then
      some .folder
    else none

/-- Where one may be: at a node inside the folder, or outside. -/
inductive Location where
  | inside (place : List String)
  | outside

/-- The longest name, in bytes. -/
def longestName : Nat :=
  255

/-- Goes one segment on. -/
def step (folder : Folder) (location : Location) (segment : String) :
    Except FileError Location :=
  match location with
  | .outside =>
    if segment = "" ∨ segment = "." ∨ segment = ".." then .ok .outside else .error .notFound
  | .inside place =>
    match folder.node? place with
    | some (.file _) => .error .notDirectory
    | none => .error .notFound
    | some .folder =>
      if segment = "" ∨ segment = "." then .ok (.inside place)
      else if segment = ".." then
        .ok (if place.isEmpty then .outside else .inside place.dropLast)
      else if longestName < segment.utf8ByteSize then .error .nameTooLong
      else if (folder.node? (place ++ [segment])).isSome then .ok (.inside (place ++ [segment]))
      else .error .notFound

/-- The longest path, in bytes. -/
def longestPath : Nat :=
  4095

/-- Reads a file. -/
def read (folder : Folder) (path : String) : Except FileError Bytes :=
  if path.contains '\x00' then .error .nulInName
  else if path.isEmpty then .error .notFound
  else if longestPath < path.utf8ByteSize then .error .nameTooLong
  else do
    let start := if path.toList.head? = some '/' then Location.outside else .inside []
    match ← (Path.segments path).foldlM folder.step start with
    | .outside => throw .isDirectory
    | .inside place =>
      match folder.node? place with
      | some (.file bytes) => return bytes
      | some .folder => throw .isDirectory
      | none => throw .notFound

end Folder

end SessionForge
