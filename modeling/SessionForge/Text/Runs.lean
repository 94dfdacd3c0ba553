/-
The runs of a text: its longest stretches of characters of one class, from left to right. Two runs
are never neighbours, since a character that is not of the class stands between them.
-/

namespace SessionForge

/-- Cuts a text at every character that is not of a class: the piece before the first cut, and the
pieces after the cuts. Pieces may be empty. -/
def cutPieces (inClass : Char → Bool) : List Char → List Char × List (List Char)
  | [] => ([], [])
  | c :: rest =>
    let (first, more) := cutPieces inClass rest
    if inClass c then (c :: first, more) else ([], first :: more)

/-- The runs of a text. -/
def runs (inClass : Char → Bool) (text : List Char) : List (List Char) :=
  let (first, more) := cutPieces inClass text
  (first :: more).filter fun piece => !piece.isEmpty

end SessionForge
