/-
Stores of blobs. A store is asked for the bytes under a key and answers, after some time, with the
bytes, with nothing, or with an error.
-/

import SessionForge.Dictionary
import SessionForge.Template.Matcher

namespace SessionForge

/-- The bytes of a document. -/
abbrev Bytes := List UInt8

/-- Why a store has no answer. -/
inductive BlobError where
  | invalidKey (key : String)
  | io (path : String) (reason : String)
  | backend (reason : String)
  deriving DecidableEq

/-- The message of an error of a store. -/
def BlobError.message : BlobError → String
  | .invalidKey key => "invalid blob key: '" ++ key ++ "'"
  | .io path reason => "io error reading " ++ path ++ ": " ++ reason
  | .backend reason => "blob store error: " ++ reason

/-- A store: what it answers for each key. -/
abbrev BlobStore := String → Delayed (Except BlobError (Option Bytes))

/-- A store that keeps its blobs in memory and takes some milliseconds for every read. -/
structure MemoryStore where
  blobs : Dictionary Bytes
  delay : Nat
  deriving DecidableEq

namespace MemoryStore

/-- Reads from the store. -/
def read (store : MemoryStore) : BlobStore := fun key =>
  ⟨store.delay, .ok (store.blobs.find? key)⟩

/-- Puts a blob under a key. -/
def put (store : MemoryStore) (key : String) (blob : Bytes) : MemoryStore :=
  { store with blobs := store.blobs.insert key blob }

/-- Takes a blob away. -/
def remove (store : MemoryStore) (key : String) : MemoryStore :=
  { store with blobs := store.blobs.erase key }

end MemoryStore

end SessionForge
