/-
White space, as the property of characters that texts are trimmed by. It holds of the blanks of the
keyboard and of the line ends, and also of the no-break space, the spaces of typography and the
ideographic space; it does not hold of the zero-width space.
-/

namespace SessionForge

/-- Whether a character has the White_Space property. -/
def isWhiteSpace (c : Char) : Bool :=
  let n := c.toNat
  (9 ≤ n && n ≤ 13) || n == 32 || n == 0x85 || n == 0xA0 || n == 0x1680
    || (0x2000 ≤ n && n ≤ 0x200A) || n == 0x2028 || n == 0x2029 || n == 0x202F || n == 0x205F
    || n == 0x3000

/-- Whether a text holds white space only, or nothing. -/
def isBlankText (text : String) : Bool :=
  text.toList.all isWhiteSpace

theorem toNat_of_isDigit {c : Char} (isDigit : c.isDigit = true) :
    48 ≤ c.toNat ∧ c.toNat ≤ 57 := by
  simp only [Char.isDigit, Bool.and_eq_true, decide_eq_true_eq, ge_iff_le,
    UInt32.le_iff_toNat_le] at isDigit
  exact isDigit

theorem isWhiteSpace_of_isDigit {c : Char} (isDigit : c.isDigit = true) :
    isWhiteSpace c = false := by
  have bounds := toNat_of_isDigit isDigit
  simp only [isWhiteSpace, Bool.or_eq_false_iff, Bool.and_eq_false_iff, decide_eq_false_iff_not,
    beq_eq_false_iff_ne]
  omega

end SessionForge
