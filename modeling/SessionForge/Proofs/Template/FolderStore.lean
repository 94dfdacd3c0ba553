/-
This file settles which texts are keys of a store that is kept in a folder, and that no key leads
out of the folder. A key is relative and does not lead up anywhere (`isKey_iff`), so that what
stands between its slashes is names, or nothing. The file under it is therefore reached from the
folder by one name or more, and by these names alone: other slashes and points in a key make no
difference. For any other text the store refuses before it looks at any file (`keys_decided`).
-/

import SessionForge.Proofs.Files.Path
import SessionForge.Template.FolderStore

namespace SessionForge.FolderStore

open Folder (placeOf)

section Keys

variable {root key path : String}

theorem isKey_iff :
    isKey key = true ↔ Path.IsRelative key ∧ ".." ∉ Path.segments key := by
  rw [isKey, Bool.and_eq_true, Bool.not_eq_true', String.isEmpty_eq_false_iff]
  constructor
  · rintro ⟨nonempty, areNames⟩
    exact (Path.all_isName_iff nonempty).1 areNames
  · rintro ⟨relative, noUp⟩
    exact ⟨relative.nonempty, (Path.all_isName_iff relative.nonempty).2 ⟨relative, noUp⟩⟩

theorem resolve_eq_ok_iff :
    resolve root key = .ok path ↔ isKey key = true ∧ Path.join root key = path := by
  rw [resolve]
  split <;> simp [*]

/-- The names that a key is made of. -/
theorem mem_placeOf_iff {name : String} :
    name ∈ placeOf key ↔ name ∈ Path.segments key ∧ name ≠ "" ∧ name ≠ "." := by
  simp [placeOf, List.mem_filter]

/-- The first segment of a key is a name. -/
theorem placeOf_ne_nil (relative : Path.IsRelative key) : placeOf key ≠ [] := by
  obtain ⟨first, more, split, notEmpty, notPoint⟩ := relative.exists_segments_eq_cons
  have isName : first ∈ placeOf key :=
    mem_placeOf_iff.2 ⟨by rw [split]; exact List.mem_cons_self, notEmpty, notPoint⟩
  exact List.ne_nil_of_mem isName

/-- The file under a key is reached by its names from the folder on. -/
theorem parts_of_resolve (resolved : resolve root key = .ok path) :
    Path.parts path = Path.parts root ++ (placeOf key).map PathPart.name := by
  obtain ⟨isKey, rfl⟩ := resolve_eq_ok_iff.1 resolved
  obtain ⟨relative, noUp⟩ := isKey_iff.1 isKey
  rw [Path.parts_join root relative, Path.filterMap_partOf?_eq noUp, placeOf]

theorem placeOf_eq_iff {other otherPath : String} (resolved : resolve root key = .ok path)
    (otherResolved : resolve root other = .ok otherPath) :
    Path.parts path = Path.parts otherPath ↔ placeOf key = placeOf other := by
  rw [parts_of_resolve resolved, parts_of_resolve otherResolved, List.append_cancel_left_eq,
    List.map_inj_right fun _ _ => PathPart.name.inj]

/-- For what is no key no file is looked at. -/
theorem get_of_refused (refused : ∀ path, resolve root key ≠ .ok path) {m : Type → Type} [Monad m]
    (fileAt : String → m (Except FileError Bytes)) :
    get fileAt root key = pure (.error (.invalidKey key)) := by
  have noKey : isKey key = false :=
    Bool.eq_false_iff.2 fun isKey => refused _ (resolve_eq_ok_iff.2 ⟨isKey, rfl⟩)
  have failed : resolve root key = .error (.invalidKey key) := by
    rw [resolve, noKey]
    rfl
  rw [get, failed]

end Keys

/-- A text is a key if it is not empty, begins with no slash, and has segments of which the first is
not a single point and none is two points. The path of a key has the parts of the root and behind
them the segments of the key that are neither empty nor single points. There is at least one of
them, and each is the name of a file or folder, so that the path leads to a place below that of the
root; it is the path of just those keys that have the same ones. For any other text the store
refuses with this text, and no file is looked at. -/
theorem keys_decided (root key : String) :
    (∀ segments, Path.segments key = segments ↔
      segments ≠ [] ∧ (∀ segment ∈ segments, '/' ∉ segment.toList) ∧
        "/".intercalate segments = key) ∧
    ((∃ path, resolve root key = .ok path) ↔
      key ≠ "" ∧ key.toList.head? ≠ some '/' ∧ (Path.segments key).head? ≠ some "." ∧
        ".." ∉ Path.segments key) ∧
    (∀ path, resolve root key = .ok path →
      Path.parts path = Path.parts root ++ (placeOf key).map PathPart.name ∧
      placeOf key ≠ [] ∧
      (∀ name ∈ placeOf key, name ≠ "" ∧ name ≠ "." ∧ name ≠ ".." ∧ '/' ∉ name.toList) ∧
      (∀ start, Path.leadsTo start path = Path.leadsTo start root ++ placeOf key) ∧
      ∀ other otherPath, resolve root other = .ok otherPath →
        (Path.parts path = Path.parts otherPath ↔ placeOf key = placeOf other)) ∧
    ((∀ path, resolve root key ≠ .ok path) →
      ∀ (m : Type → Type) [Monad m] (fileAt : String → m (Except FileError Bytes)),
        get fileAt root key = pure (.error (.invalidKey key))) := by
  refine ⟨fun _ => Path.segments_eq_iff, ?accepted, ?contained,
    fun refused _ _ fileAt => get_of_refused refused fileAt⟩
  case accepted =>
    constructor
    · rintro ⟨path, resolved⟩
      obtain ⟨relative, noUp⟩ := isKey_iff.1 (resolve_eq_ok_iff.1 resolved).1
      exact ⟨relative.nonempty, relative.noSlash, relative.noPoint, noUp⟩
    · rintro ⟨nonempty, noSlash, noPoint, noUp⟩
      exact ⟨_, resolve_eq_ok_iff.2 ⟨isKey_iff.2 ⟨⟨nonempty, noSlash, noPoint⟩, noUp⟩, rfl⟩⟩
  case contained =>
    intro path resolved
    obtain ⟨relative, noUp⟩ := isKey_iff.1 (resolve_eq_ok_iff.1 resolved).1
    refine ⟨parts_of_resolve resolved, placeOf_ne_nil relative, fun name member => ?_,
      Path.leadsTo_eq_of_parts (parts_of_resolve resolved),
      fun _ _ => placeOf_eq_iff resolved⟩
    obtain ⟨isSegment, notEmpty, notPoint⟩ := mem_placeOf_iff.1 member
    obtain ⟨-, noSlash, -⟩ := Path.segments_eq_iff.1 (rfl : Path.segments key = _)
    exact ⟨notEmpty, notPoint, fun isUp => noUp (isUp ▸ isSegment), noSlash name isSegment⟩

/-- Two keys of one file, below a root that is no name itself, and a text that leads out of a folder
of the root and back into it. -/
theorem keys_decided_of_detours :
    let path := "./data/a//./b/"
    let otherPath := "./data/a/b"
    let reading (_ : String) : StateM (List String) (Except FileError Bytes) :=
      fun asked => (.ok [], "asked" :: asked)
    resolve "./data" "a//./b/" = .ok path ∧ resolve "./data" "a/b" = .ok otherPath ∧
    Path.parts path = [.here, .name "data", .name "a", .name "b"] ∧
    Path.leadsTo ["home"] path = Path.leadsTo ["home"] "./data" ++ ["a", "b"] ∧
    Path.parts path = Path.parts otherPath ∧
    get reading "./data" "a/../b" = pure (.error (.invalidKey "a/../b")) := by
  intro path otherPath reading
  have resolved : resolve "./data" "a//./b/" = .ok path := by decide +kernel
  have otherResolved : resolve "./data" "a/b" = .ok otherPath := by decide +kernel
  obtain ⟨-, -, contained, -⟩ := keys_decided "./data" "a//./b/"
  obtain ⟨-, accepted, -, untouched⟩ := keys_decided "./data" "a/../b"
  have refused : ∀ path, resolve "./data" "a/../b" ≠ .ok path := fun path isPath =>
    (accepted.1 ⟨path, isPath⟩).2.2.2 (by decide +kernel)
  obtain ⟨parts, -, -, below, same⟩ := contained path resolved
  refine ⟨resolved, otherResolved, parts.trans (by decide +kernel), below ["home"],
    (same _ _ otherResolved).2 (by decide +kernel), untouched refused _ reading⟩

end SessionForge.FolderStore
