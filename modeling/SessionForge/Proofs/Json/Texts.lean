/-
This file settles that a quoted text is read back as it was written. A text is scanned into pieces
first (`scanText_quoted`): a character that is escaped as a unit of sixteen bits is one piece, every
other character is as many pieces as it has bytes. The pieces stand for the bytes of the text
again (`text_ofChars`), whatever characters it has.
-/

import SessionForge.Json.Printer
import SessionForge.Json.Reader

namespace SessionForge

/-! ### Bytes -/

namespace Utf8

@[simp] theorem encode_nil : encode [] = [] :=
  rfl

theorem encode_cons (c : Char) (rest : List Char) :
    encode (c :: rest) = encodeChar c ++ encode rest :=
  List.flatMap_cons

theorem encode_append (first second : List Char) :
    encode (first ++ second) = encode first ++ encode second :=
  List.flatMap_append

theorem encodeChar_of_ascii {c : Char} (ascii : c.toNat < 0x80) :
    encodeChar c = [UInt8.ofNat c.toNat] := by
  simp only [encodeChar, if_pos ascii]

/-- A character that takes several bytes is written with bytes above the plain ones. -/
theorem le_of_mem_encodeChar {c : Char} {b : UInt8} (long : 0x80 ≤ c.toNat)
    (member : b ∈ encodeChar c) : 0x80 ≤ b.toNat := by
  have bound := toNat_char_lt c
  simp only [encodeChar, if_neg (Nat.not_lt.2 long)] at member
  split at member
  · simp only [List.mem_cons, List.not_mem_nil, or_false] at member
    rcases member with rfl | rfl <;> simp only [UInt8.toNat_ofNat'] <;> omega
  · split at member
    · simp only [List.mem_cons, List.not_mem_nil, or_false] at member
      rcases member with rfl | rfl | rfl <;> simp only [UInt8.toNat_ofNat'] <;> omega
    · simp only [List.mem_cons, List.not_mem_nil, or_false] at member
      rcases member with rfl | rfl | rfl | rfl <;> simp only [UInt8.toNat_ofNat'] <;> omega

theorem length_le_encode (text : List Char) : text.length ≤ (encode text).length := by
  induction text with
  | nil => exact Nat.le_refl 0
  | cons c rest inductionHypothesis =>
    have one : 1 ≤ (encodeChar c).length := by
      simp only [encodeChar]
      split
      · exact Nat.le_refl 1
      · split
        · exact Nat.le_add_left 1 1
        · split <;> exact Nat.le_add_left 1 _
    rw [encode_cons, List.length_append, List.length_cons]
    omega

theorem ofString_append (first second : String) :
    ofString (first ++ second) = ofString first ++ ofString second := by
  rw [ofString, String.toList_append, encode_append, ofString, ofString]

theorem ofString_ne_nil {text : String} (nonempty : text ≠ "") : ofString text ≠ [] := by
  intro none
  have short := length_le_encode text.toList
  rw [← ofString, none] at short
  exact nonempty (String.toList_eq_nil_iff.1 (List.length_eq_zero_iff.1 (Nat.le_zero.1 short)))

end Utf8

namespace Json

/-! ### The pieces of a text -/

/-- Whether a character is written as a unit of sixteen bits. -/
def isUnit (c : Char) : Bool :=
  c.toNat < 0x20 && !(c = '\n' || c = '\r' || c = '\t' || c = '\x08' || c = '\x0c')

/-- The pieces that a printed character is read into. -/
def piecesOf (c : Char) : List Piece :=
  if isUnit c then [.unit c.toNat] else (Utf8.encodeChar c).map .byte

/-- The spelling that a printed text is read into. -/
def Spelling.ofChars (text : List Char) : Spelling :=
  ⟨text.flatMap piecesOf, none⟩

/-- Adds pieces in front of what follows them. -/
def Spelling.afterAll (pieces : List Piece) (scanned : Spelling × List UInt8) :
    Spelling × List UInt8 :=
  pieces.foldr Spelling.after scanned

theorem afterAll_eq (pieces : List Piece) (scanned : Spelling × List UInt8) :
    Spelling.afterAll pieces scanned =
      (⟨pieces ++ scanned.1.pieces, scanned.1.fault⟩, scanned.2) := by
  induction pieces with
  | nil => rfl
  | cons piece rest inductionHypothesis =>
    rw [Spelling.afterAll, List.foldr_cons, ← Spelling.afterAll, inductionHypothesis]
    rfl

/-! ### Scanning what was printed -/

/-- Bytes that stand for themselves are read one by one. -/
theorem scanText_plain {bytes : List UInt8}
    (plain : ∀ b ∈ bytes, b ≠ 0x22 ∧ b ≠ 0x5C ∧ ¬ b < 0x20) (rest : List UInt8) :
    scanText (bytes ++ rest) = Spelling.afterAll (bytes.map .byte) (scanText rest) := by
  induction bytes with
  | nil => rfl
  | cons b more inductionHypothesis =>
    obtain ⟨notQuote, notBackslash, notControl⟩ := plain b List.mem_cons_self
    rw [List.cons_append, scanText.eq_def]
    simp only [if_neg notQuote, if_neg notBackslash, if_neg notControl]
    rw [inductionHypothesis fun other member => plain other (List.mem_cons_of_mem b member)]
    rfl

/-- The digits of a unit below 32 are read back. -/
theorem hexUnit?_hexDigit : ∀ n < 32,
    hexUnit? 0x30 0x30 (UInt8.ofNat (hexDigit (n / 16)).toNat)
      (UInt8.ofNat (hexDigit (n % 16)).toNat) = some n := by
  decide

theorem hexDigit_ascii : ∀ n < 16, (hexDigit n).toNat < 0x80 := by
  decide

theorem scanText_unit {n : Nat} (small : n < 32) (rest : List UInt8) :
    scanText (Utf8.encode ['\\', 'u', '0', '0', hexDigit (n / 16), hexDigit (n % 16)] ++ rest) =
      Spelling.after (.unit n) (scanText rest) := by
  have bytes : Utf8.encode ['\\', 'u', '0', '0', hexDigit (n / 16), hexDigit (n % 16)] =
      [0x5C, 0x75, 0x30, 0x30, UInt8.ofNat (hexDigit (n / 16)).toNat,
        UInt8.ofNat (hexDigit (n % 16)).toNat] := by
    simp only [Utf8.encode_cons, Utf8.encode_nil,
      Utf8.encodeChar_of_ascii (hexDigit_ascii (n / 16) (by omega)),
      Utf8.encodeChar_of_ascii (hexDigit_ascii (n % 16) (by omega))]
    rfl
  rw [bytes]
  simp only [List.cons_append, List.nil_append]
  rw [scanText, if_neg (by decide), if_pos rfl]
  simp only [if_true, hexUnit?_hexDigit n small]

/-- A letter escape stands for one byte. -/
theorem scanText_letter {letter value : UInt8} (escaped : escapedByte? letter = some value)
    (notUnit : letter ≠ 0x75) (rest : List UInt8) :
    scanText (0x5C :: letter :: rest) = Spelling.after (.byte value) (scanText rest) := by
  rw [scanText.eq_def]
  simp only [if_neg (by decide : ¬ (0x5C : UInt8) = 0x22), if_true, if_neg notUnit, escaped]

/-- A printed character is read into its pieces. -/
theorem scanText_escapeChar (c : Char) (rest : List UInt8) :
    scanText (Utf8.encode (escapeChar c) ++ rest) =
      Spelling.afterAll (piecesOf c) (scanText rest) := by
  unfold escapeChar
  split
  · next isQuote => subst isQuote; exact scanText_letter rfl (by decide) rest
  split
  · next isBackslash => subst isBackslash; exact scanText_letter rfl (by decide) rest
  split
  · next isLetter => subst isLetter; exact scanText_letter rfl (by decide) rest
  split
  · next isLetter => subst isLetter; exact scanText_letter rfl (by decide) rest
  split
  · next isLetter => subst isLetter; exact scanText_letter rfl (by decide) rest
  split
  · next isLetter => subst isLetter; exact scanText_letter rfl (by decide) rest
  split
  · next isLetter => subst isLetter; exact scanText_letter rfl (by decide) rest
  next notQuote notBackslash notLine notReturn notTab notBack notPage =>
  split
  · next isControl =>
    have asUnit : piecesOf c = [.unit c.toNat] := by
      simp [piecesOf, isUnit, isControl, notLine, notReturn, notTab, notBack, notPage]
    rw [asUnit, scanText_unit isControl]
    rfl
  · next isPlain =>
    have asBytes : piecesOf c = (Utf8.encodeChar c).map .byte := by
      simp [piecesOf, isUnit, isPlain]
    rw [asBytes, Utf8.encode_cons, Utf8.encode_nil, List.append_nil]
    refine scanText_plain (fun b member => ?_) rest
    by_cases ascii : c.toNat < 0x80
    · rw [Utf8.encodeChar_of_ascii ascii] at member
      obtain rfl := List.mem_singleton.1 member
      have value : (UInt8.ofNat c.toNat).toNat = c.toNat := by
        rw [UInt8.toNat_ofNat']
        omega
      refine ⟨fun same => notQuote ?_, fun same => notBackslash ?_, fun below => isPlain ?_⟩
      · rw [same] at value
        exact Char.toNat_inj.1 value.symm
      · rw [same] at value
        exact Char.toNat_inj.1 value.symm
      · rw [UInt8.lt_iff_toNat_lt, value] at below
        exact below
    · have above := Utf8.le_of_mem_encodeChar (Nat.not_lt.1 ascii) member
      refine ⟨?_, ?_, ?_⟩
      · rintro rfl
        exact absurd above (by decide)
      · rintro rfl
        exact absurd above (by decide)
      · rw [UInt8.lt_iff_toNat_lt, Nat.not_lt]
        exact Nat.le_trans (by decide) above

/-- A printed text is read to its closing quotation mark. -/
theorem scanText_quoted (text : List Char) (rest : List UInt8) :
    scanText (Utf8.encode (text.flatMap escapeChar ++ ['"']) ++ rest) =
      (Spelling.ofChars text, rest) := by
  induction text with
  | nil =>
    show scanText (0x22 :: rest) = _
    rw [scanText.eq_def]
    rfl
  | cons c more inductionHypothesis =>
    rw [List.flatMap_cons, List.append_assoc, Utf8.encode_append, List.append_assoc,
      scanText_escapeChar, inductionHypothesis, afterAll_eq]
    rfl

/-! ### What the pieces stand for -/

theorem spelledBytes_bytes (bytes : List UInt8) (pieces : List Piece) (fault : Option Fault) :
    spelledBytes (bytes.map .byte ++ pieces) fault =
      (spelledBytes pieces fault).map (bytes ++ ·) := by
  induction bytes with
  | nil => cases h : spelledBytes pieces fault <;> simp [h, Except.map]
  | cons b rest inductionHypothesis =>
    rw [List.map_cons, List.cons_append, spelledBytes, inductionHypothesis]
    cases spelledBytes pieces fault <;> rfl

theorem spelledBytes_piecesOf (c : Char) (pieces : List Piece) (fault : Option Fault) :
    spelledBytes (piecesOf c ++ pieces) fault =
      (spelledBytes pieces fault).map (Utf8.encodeChar c ++ ·) := by
  unfold piecesOf
  split
  · next asUnit =>
    have small : c.toNat < 0x20 := by
      simp only [isUnit, Bool.and_eq_true, decide_eq_true_eq] at asUnit
      exact asUnit.1
    have notTrailing : isTrailing c.toNat = false := by
      simp only [isTrailing, Bool.and_eq_false_iff, decide_eq_false_iff_not]
      omega
    have notLeading : isLeading c.toNat = false := by
      simp only [isLeading, Bool.and_eq_false_iff, decide_eq_false_iff_not]
      omega
    rw [List.singleton_append, spelledBytes.eq_def]
    simp only [notTrailing, notLeading, Bool.false_eq_true, if_false, Char.ofNat_toNat]
  · exact spelledBytes_bytes _ _ _

theorem spelledBytes_ofChars (text : List Char) :
    spelledBytes (Spelling.ofChars text).pieces (Spelling.ofChars text).fault =
      .ok (Utf8.encode text) := by
  induction text with
  | nil => rfl
  | cons c rest inductionHypothesis =>
    simp only [Spelling.ofChars, List.flatMap_cons] at inductionHypothesis ⊢
    rw [spelledBytes_piecesOf, inductionHypothesis]
    rfl

/-- A text is read back as it was written. -/
theorem text_ofChars (text : List Char) :
    (Spelling.ofChars text).text = .ok (String.ofList text) := by
  rw [Spelling.text, spelledBytes_ofChars]
  simp only [Utf8.toString?, Utf8.decode_encode, Option.map_some]

end Json

end SessionForge
