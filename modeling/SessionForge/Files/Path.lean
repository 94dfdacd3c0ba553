/-
Paths as texts and as parts. The parts of a path are what stands between its slashes: empty parts
and, except at the very front, parts of a single point stand for nothing; two points lead up.
-/

import SessionForge.Text.Runs

namespace SessionForge

/-- A part of a path. -/
inductive PathPart where
  | root
  | here
  | up
  | name (name : String)
  deriving DecidableEq

namespace Path

/-- What stands between the slashes of a path. -/
def segments (path : String) : List String :=
  let (first, more) := cutPieces (· != '/') path.toList
  (first :: more).map String.ofList

/-- The part that a segment after the first stands for, if it stands for one. -/
def partOf? (segment : String) : Option PathPart :=
  if segment = "" ∨ segment = "." then none
  else if segment = ".." then some .up
  else some (.name segment)

/-- The parts of a path. -/
def parts (path : String) : List PathPart :=
  match segments path with
  | [] => []
  | first :: more =>
    let front :=
      if path.isEmpty then []
      else if first = "" then [.root]
      else if first = "." then [.here]
      else (partOf? first).toList
    front ++ more.filterMap partOf?

/-- Whether a part is a name. -/
def isName : PathPart → Bool
  | .name _ => true
  | .root | .here | .up => false

/-- A path that goes on from another one. -/
def join (root path : String) : String :=
  if root.isEmpty || root.toList.getLast? = some '/' then root ++ path
  else root ++ "/" ++ path

end Path

end SessionForge
