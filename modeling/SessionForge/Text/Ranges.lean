/-
Sets of characters given by ranges of scalar values, as the tables of character properties list
them: in ascending order and without overlap.
-/

namespace SessionForge

/-- Ranges of scalar values, both ends included, in ascending order. -/
abbrev Ranges := List (Nat × Nat)

/-- Whether a character lies in one of some ranges. -/
def Ranges.holds : Ranges → Char → Bool
  | [], _ => false
  | (low, high) :: rest, c => c.toNat ≥ low && (c.toNat ≤ high || Ranges.holds rest c)

end SessionForge
