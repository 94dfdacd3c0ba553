/-
This file settles that the scanner and the grammar agree on the tokens of a document: blanks, texts
with their escapes, and numbers. What the rules take is scanned into the same pieces and digits, and
what is scanned whole, the rules take.

A number is the one token that does not show where it ends. The rules do not ask for the longest
number, but what may follow a value can never belong to one (`EndsNumber`).
-/

import SessionForge.Proofs.Json.Grammar
import SessionForge.Proofs.Json.Scanning

namespace SessionForge.Json

open Grammar

/-! ### Blanks -/

theorem skipBlanks_of_blanks {input rest : List UInt8} (blanks : Blanks input rest) :
    skipBlanks input = skipBlanks rest := by
  induction blanks with
  | none => rfl
  | blank isBlank _ inductionHypothesis =>
    rw [skipBlanks, List.dropWhile_cons_of_pos isBlank]
    exact inductionHypothesis

/-- A token is found behind the blanks in front of it. -/
theorem skipBlanks_of_token {input rest : List UInt8} {b : UInt8}
    (blanks : Blanks input (b :: rest)) (nonblank : isBlank b = false) :
    skipBlanks input = b :: rest :=
  (skipBlanks_of_blanks blanks).trans (skipBlanks_of_nonblank nonblank rest)

theorem blanks_skipBlanks (input : List UInt8) : Blanks input (skipBlanks input) := by
  induction input with
  | nil => exact .none []
  | cons b rest inductionHypothesis =>
    cases isBlank : isBlank b with
    | true =>
      rw [skipBlanks, List.dropWhile_cons_of_pos isBlank]
      exact .blank isBlank inductionHypothesis
    | false =>
      rw [skipBlanks_of_nonblank isBlank]
      exact .none _

theorem length_le_of_blanks {input rest : List UInt8} (blanks : Blanks input rest) :
    rest.length ≤ input.length := by
  induction blanks with
  | none => exact Nat.le_refl _
  | blank _ _ inductionHypothesis => exact Nat.le_succ_of_le inductionHypothesis

/-! ### Texts -/

theorem escapedByte?_eq_some_iff {letter b : UInt8} :
    escapedByte? letter = some b ↔ (letter, b) ∈ letterEscapes := by
  constructor
  · intro escaped
    unfold escapedByte? at escaped
    split at escaped
    · next isItself =>
      obtain rfl := Option.some.inj escaped
      rcases isItself with rfl | rfl | rfl <;> decide
    split at escaped
    · next isBack => subst isBack; obtain rfl := Option.some.inj escaped; decide
    split at escaped
    · next isPage => subst isPage; obtain rfl := Option.some.inj escaped; decide
    split at escaped
    · next isLine => subst isLine; obtain rfl := Option.some.inj escaped; decide
    split at escaped
    · next isReturn => subst isReturn; obtain rfl := Option.some.inj escaped; decide
    split at escaped
    · next isTab => subst isTab; obtain rfl := Option.some.inj escaped; decide
    · cases escaped
  · intro escape
    simp only [letterEscapes, List.mem_cons, Prod.mk.injEq, List.not_mem_nil, or_false] at escape
    rcases escape with ⟨rfl, rfl⟩ | ⟨rfl, rfl⟩ | ⟨rfl, rfl⟩ | ⟨rfl, rfl⟩ | ⟨rfl, rfl⟩ |
      ⟨rfl, rfl⟩ | ⟨rfl, rfl⟩ | ⟨rfl, rfl⟩ <;> rfl

theorem scanText_of_text {pieces : List Piece} {input rest : List UInt8}
    (text : Text pieces input rest) : scanText input = (⟨pieces, none⟩, rest) := by
  induction text with
  | close => rw [scanText.eq_def]; rfl
  | plain noControl noQuote noBackslash _ inductionHypothesis =>
    rw [scanText.eq_def]
    simp only [if_neg noQuote, if_neg noBackslash, if_neg (UInt8.not_lt.2 noControl),
      inductionHypothesis]
    rfl
  | @letter letter b _ _ _ escape _ inductionHypothesis =>
    have escaped := escapedByte?_eq_some_iff.2 escape
    have notUnit : letter ≠ 0x75 := by
      rintro rfl
      cases escaped
    rw [scanText_letter escaped notUnit, inductionHypothesis]
    rfl
  | unit digits _ inductionHypothesis =>
    rw [scanText.eq_def]
    simp only [if_neg (by decide : ¬ (0x5C : UInt8) = 0x22), if_true, digits, inductionHypothesis]
    rfl

/-- A text is read to its end behind a piece if it is read to its end with it. -/
theorem after_eq_iff {piece : Piece} {pieces : List Piece} {scanned : Spelling × List UInt8}
    {rest : List UInt8} :
    Spelling.after piece scanned = (⟨pieces, none⟩, rest) ↔
      ∃ more, pieces = piece :: more ∧ scanned = (⟨more, none⟩, rest) := by
  obtain ⟨⟨more, fault⟩, left⟩ := scanned
  simp only [Spelling.after, Prod.mk.injEq, Spelling.mk.injEq]
  constructor
  · rintro ⟨⟨rfl, rfl⟩, rfl⟩
    exact ⟨more, rfl, ⟨rfl, rfl⟩, rfl⟩
  · rintro ⟨_, rfl, ⟨rfl, rfl⟩, rfl⟩
    exact ⟨⟨rfl, rfl⟩, rfl⟩

theorem text_of_scanText {input rest : List UInt8} {pieces : List Piece}
    (scanned : scanText input = (⟨pieces, none⟩, rest)) : Text pieces input rest := by
  fun_induction scanText input generalizing pieces rest with
  | case2 left =>
    obtain ⟨closed, rfl⟩ := Prod.mk.inj scanned
    obtain ⟨rfl, -⟩ := Spelling.mk.inj closed
    exact .close left
  | case4 h₁ h₂ h₃ h₄ left value digits _ inductionHypothesis =>
    obtain ⟨more, rfl, further⟩ := after_eq_iff.1 scanned
    exact .unit digits (inductionHypothesis further)
  | case7 letter left _ value escaped _ inductionHypothesis =>
    obtain ⟨more, rfl, further⟩ := after_eq_iff.1 scanned
    exact .letter (escapedByte?_eq_some_iff.1 escaped) (inductionHypothesis further)
  | case10 b left noQuote noBackslash noControl inductionHypothesis =>
    obtain ⟨more, rfl, further⟩ := after_eq_iff.1 scanned
    exact .plain (UInt8.not_lt.1 noControl) noQuote noBackslash (inductionHypothesis further)
  | case1 | case3 | case5 | case6 | case8 | case9 => cases scanned

theorem length_lt_of_text {pieces : List Piece} {input rest : List UInt8}
    (text : Text pieces input rest) : rest.length < input.length := by
  induction text with
  | close => exact Nat.lt_succ_self _
  | plain | letter | unit =>
    simp only [List.length_cons]
    omega

/-! ### Numbers -/

/-- Digits end here. -/
def EndsDigits (rest : List UInt8) : Prop :=
  ∀ b ∈ rest.head?, digit? b = none

theorem takeDigits_of_digits {digits : List Nat} {input rest : List UInt8}
    (all : Digits digits input rest) (ends : EndsDigits rest) :
    takeDigits input = (digits, rest) := by
  induction all with
  | @last b digit rest isDigit =>
    have none : takeDigits rest = ([], rest) := by
      cases rest with
      | nil => rfl
      | cons next left => rw [takeDigits, ends next rfl]
    rw [takeDigits, isDigit, none]
  | more isDigit _ inductionHypothesis =>
    rw [takeDigits, isDigit, inductionHypothesis ends]

theorem digits_of_takeDigits {digits : List Nat} {input rest : List UInt8}
    (taken : takeDigits input = (digits, rest)) (some : digits ≠ []) :
    Digits digits input rest := by
  induction input generalizing digits with
  | nil =>
    obtain ⟨rfl, -⟩ := Prod.mk.inj taken
    exact absurd rfl some
  | cons b more inductionHypothesis =>
    rw [takeDigits] at taken
    split at taken
    · next digit isDigit =>
      obtain ⟨rfl, rfl⟩ := Prod.mk.inj taken
      cases later : (takeDigits more).1 with
      | nil =>
        have stopped : (takeDigits more).2 = more := by
          cases more with
          | nil => rfl
          | cons next left =>
            rw [takeDigits] at later ⊢
            split at later
            · cases later
            · rfl
        rw [stopped]
        exact .last isDigit
      | cons next digits =>
        refine .more isDigit (inductionHypothesis ?_ (List.cons_ne_nil _ _))
        rw [← later]
    · obtain ⟨rfl, -⟩ := Prod.mk.inj taken
      exact absurd rfl some

theorem exists_cons_of_digits {digits : List Nat} {input rest : List UInt8}
    (all : Digits digits input rest) :
    ∃ b more, input = b :: more ∧ (digit? b).isSome ∧ rest.length ≤ more.length := by
  induction all with
  | @last b digit rest isDigit => exact ⟨b, rest, rfl, by simp [isDigit], Nat.le_refl _⟩
  | @more b digit digits input rest isDigit _ inductionHypothesis =>
    obtain ⟨next, left, rfl, -, shorter⟩ := inductionHypothesis
    exact ⟨b, next :: left, rfl, by simp [isDigit], Nat.le_succ_of_le shorter⟩

theorem ne_nil_of_digits {digits : List Nat} {input rest : List UInt8}
    (all : Digits digits input rest) : digits ≠ [] := by
  cases all <;> exact List.cons_ne_nil _ _

theorem sign_takeSign (input : List UInt8) : Sign (takeSign input).1 input (takeSign input).2 := by
  cases input with
  | nil => exact .none []
  | cons sign rest =>
    rw [takeSign]
    split
    · next isMinus => subst isMinus; exact .minus rest
    · split
      · next isPlus => subst isPlus; exact .plus rest
      · exact .none _

theorem takeSign_of_sign {down : Bool} {digits : List Nat} {input between rest : List UInt8}
    (sign : Sign down input between) (all : Digits digits between rest) :
    takeSign input = (down, between) := by
  cases sign with
  | minus => rfl
  | plus => rfl
  | none =>
    obtain ⟨b, more, rfl, isDigit, -⟩ := exists_cons_of_digits all
    rw [takeSign, if_neg (ne_of_isDigit isDigit rfl), if_neg (ne_of_isDigit isDigit rfl)]

section Number

variable {negative : Bool} {whole : List Nat} {fraction : Option (List Nat)}
  {exponent : Option (Bool × List Nat)} {numeral : Numeral} {input between rest : List UInt8}

theorem scanExponent_of_exponent (power : Exponent exponent input rest) (ends : EndsNumber rest) :
    scanExponent ⟨negative, whole, fraction, none⟩ input =
      (.number ⟨negative, whole, fraction, exponent⟩, rest) := by
  cases power with
  | none =>
    cases input with
    | nil => rfl
    | cons b more =>
      obtain ⟨-, -, notSmall, notLarge⟩ := ends b rfl
      rw [scanExponent, if_neg (by simp [notSmall, notLarge])]
  | digits isLetter sign all =>
    rw [scanExponent, if_pos isLetter]
    simp only [takeSign_of_sign sign all, takeDigits_of_digits all fun b first => (ends b first).1]
    split
    · next same => exact absurd (Prod.mk.inj same).1 (ne_nil_of_digits all)
    · next same =>
      obtain ⟨rfl, rfl⟩ := Prod.mk.inj same
      rfl

theorem exponent_of_scanExponent
    (scanned : scanExponent ⟨negative, whole, fraction, none⟩ input = (.number numeral, rest)) :
    ∃ exponent, numeral = ⟨negative, whole, fraction, exponent⟩ ∧ Exponent exponent input rest := by
  cases input with
  | nil =>
    simp only [scanExponent, Prod.mk.injEq, Outline.number.injEq] at scanned
    obtain ⟨rfl, rfl⟩ := scanned
    exact ⟨none, rfl, .none []⟩
  | cons b more =>
    rw [scanExponent] at scanned
    split at scanned
    · next isLetter =>
      simp only at scanned
      split at scanned
      · exact absurd scanned (missingDigit_ne_number _ _ _)
      · next digits after notNone taken =>
        simp only [Prod.mk.injEq, Outline.number.injEq] at scanned
        obtain ⟨rfl, rfl⟩ := scanned
        refine ⟨_, rfl, .digits isLetter (sign_takeSign more) (digits_of_takeDigits taken ?_)⟩
        rintro rfl
        exact notNone rfl
    · simp only [Prod.mk.injEq, Outline.number.injEq] at scanned
      obtain ⟨rfl, rfl⟩ := scanned
      exact ⟨none, rfl, .none _⟩

/-- Neither a digit nor a point stands where an exponent may. -/
theorem head_of_exponent (power : Exponent exponent input rest) (ends : EndsNumber rest) :
    ∀ b ∈ input.head?, digit? b = none ∧ b ≠ 0x2E := by
  cases power with
  | none => exact fun b first => ⟨(ends b first).1, (ends b first).2.1⟩
  | digits isLetter _ _ =>
    intro b first
    obtain rfl := Option.some.inj first
    rcases isLetter with rfl | rfl <;> decide

/-- The scanner goes on to the exponent behind a fraction. -/
theorem scanFraction_eq_scanExponent (point : Fraction fraction input between)
    (behind : ∀ b ∈ between.head?, digit? b = none ∧ b ≠ 0x2E) :
    scanFraction ⟨negative, whole, none, none⟩ input =
      scanExponent ⟨negative, whole, fraction, none⟩ between := by
  cases point with
  | none =>
    cases input with
    | nil => rfl
    | cons b more => rw [scanFraction, if_neg (behind b rfl).2]
  | digits all =>
    rw [scanFraction, if_pos rfl, takeDigits_of_digits all fun b first => (behind b first).1]
    split
    · next same => exact absurd (Prod.mk.inj same).1 (ne_nil_of_digits all)
    · next same =>
      obtain ⟨rfl, rfl⟩ := Prod.mk.inj same
      rfl

theorem scanFraction_of_fraction (point : Fraction fraction input between)
    (power : Exponent exponent between rest) (ends : EndsNumber rest) :
    scanFraction ⟨negative, whole, none, none⟩ input =
      (.number ⟨negative, whole, fraction, exponent⟩, rest) :=
  (scanFraction_eq_scanExponent point (head_of_exponent power ends)).trans
    (scanExponent_of_exponent power ends)

theorem fraction_of_scanFraction
    (scanned : scanFraction ⟨negative, whole, none, none⟩ input = (.number numeral, rest)) :
    ∃ fraction exponent between, numeral = ⟨negative, whole, fraction, exponent⟩ ∧
      Fraction fraction input between ∧ Exponent exponent between rest := by
  cases input with
  | nil =>
    obtain ⟨exponent, same, power⟩ :=
      exponent_of_scanExponent (show scanExponent _ [] = _ from scanned)
    exact ⟨none, exponent, [], same, .none [], power⟩
  | cons b more =>
    rw [scanFraction] at scanned
    split at scanned
    · next isPoint =>
      subst isPoint
      split at scanned
      · exact absurd scanned (missingDigit_ne_number _ _ _)
      · next digits after notNone taken =>
        obtain ⟨exponent, same, power⟩ := exponent_of_scanExponent scanned
        refine ⟨some digits, exponent, after, same, .digits (digits_of_takeDigits taken ?_), power⟩
        rintro rfl
        exact notNone rfl
    · obtain ⟨exponent, same, power⟩ := exponent_of_scanExponent scanned
      exact ⟨none, exponent, _, same, .none _, power⟩

/-- No digit stands where a fraction may. -/
theorem endsDigits_of_fraction (point : Fraction fraction input between)
    (behind : ∀ b ∈ between.head?, digit? b = none ∧ b ≠ 0x2E) : EndsDigits input := by
  cases point with
  | none => exact fun b first => (behind b first).1
  | digits _ =>
    intro b first
    obtain rfl := Option.some.inj first
    rfl

/-- The scanner goes on to the fraction behind the digits of a number. -/
theorem scanNumber_eq_scanFraction (digits : Digits whole input between)
    (zero : whole.head? = some 0 → whole = [0]) (ends : EndsDigits between) :
    scanNumber negative input = scanFraction ⟨negative, whole, none, none⟩ between := by
  rw [scanNumber, takeDigits_of_digits digits ends]
  split
  · next same => exact absurd (Prod.mk.inj same).1 (ne_nil_of_digits digits)
  · next longer =>
    obtain ⟨rfl, -⟩ := Prod.mk.inj longer
    cases zero rfl
  · next same =>
    obtain ⟨rfl, rfl⟩ := Prod.mk.inj same
    rfl

theorem startsNumber?_of_minus (minus : Minus negative input between)
    (digits : Digits whole between rest) : startsNumber? input = some (negative, between) := by
  cases minus with
  | minus => rfl
  | none =>
    obtain ⟨b, more, rfl, isDigit, -⟩ := exists_cons_of_digits digits
    rw [startsNumber?, if_neg (ne_of_isDigit isDigit rfl), if_pos isDigit]

end Number

/-- A number begins as the scanner expects it, and is scanned to its end. -/
theorem scanNumber_of_number {numeral : Numeral} {input rest : List UInt8}
    (number : Grammar.Number numeral input rest) (ends : EndsNumber rest) :
    ∃ negative unsigned, startsNumber? input = some (negative, unsigned) ∧
      scanNumber negative unsigned = (.number numeral, rest) := by
  obtain ⟨minus, digits, zero, point, power⟩ := number
  refine ⟨_, _, startsNumber?_of_minus minus digits, ?_⟩
  have behind := head_of_exponent power ends
  rw [scanNumber_eq_scanFraction digits zero (endsDigits_of_fraction point behind)]
  exact scanFraction_of_fraction point power ends

theorem number_of_scanNumber {negative : Bool} {numeral : Numeral}
    {input unsigned rest : List UInt8} (starts : startsNumber? input = some (negative, unsigned))
    (scanned : scanNumber negative unsigned = (.number numeral, rest)) :
    Grammar.Number numeral input rest := by
  have minus : Minus negative input unsigned := by
    cases input with
    | nil => cases starts
    | cons b more =>
      rw [startsNumber?] at starts
      split at starts
      · next isMinus =>
        obtain ⟨rfl, rfl⟩ := Prod.mk.inj (Option.some.inj starts)
        exact isMinus ▸ .minus more
      · split at starts
        · obtain ⟨rfl, rfl⟩ := Prod.mk.inj (Option.some.inj starts)
          exact .none _
        · cases starts
  rw [scanNumber] at scanned
  split at scanned
  · exact absurd scanned (missingDigit_ne_number _ _ _)
  · cases scanned
  · next digits after notNone notLonger taken =>
    obtain ⟨fraction, exponent, between, rfl, point, power⟩ := fraction_of_scanFraction scanned
    have some : digits ≠ [] := by
      rintro rfl
      exact notNone rfl
    refine .parts minus (digits_of_takeDigits taken some) (fun zero => ?_) point power
    cases digits with
    | nil => cases zero
    | cons digit more =>
      obtain rfl := Option.some.inj zero
      cases more with
      | nil => rfl
      | cons next more => exact absurd (notLonger next more rfl) id

/-! ### How much a rule takes -/

theorem length_lt_of_token {input rest : List UInt8} {b : UInt8}
    (blanks : Blanks input (b :: rest)) : rest.length < input.length :=
  length_le_of_blanks blanks

theorem length_lt_of_digits {digits : List Nat} {input rest : List UInt8}
    (all : Digits digits input rest) : rest.length < input.length := by
  obtain ⟨b, more, rfl, -, shorter⟩ := exists_cons_of_digits all
  exact Nat.lt_succ_of_le shorter

theorem length_lt_of_number {numeral : Numeral} {input rest : List UInt8}
    (isNumber : Grammar.Number numeral input rest) : rest.length < input.length := by
  obtain ⟨minus, digits, -, point, power⟩ := isNumber
  rename_i negative whole fraction exponent unsigned afterWhole afterFraction
  have sign : unsigned.length ≤ input.length := by
    cases minus with
    | minus => exact Nat.le_succ _
    | none => exact Nat.le_refl _
  have behindPoint : afterFraction.length ≤ afterWhole.length := by
    cases point with
    | none => exact Nat.le_refl _
    | digits all => exact Nat.le_succ_of_le (Nat.le_of_lt (length_lt_of_digits all))
  have behindPower : rest.length ≤ afterFraction.length := by
    cases power with
    | none => exact Nat.le_refl _
    | digits isLetter signed all =>
      have shorter := length_lt_of_digits all
      cases signed with
      | minus | plus | none =>
        simp only [List.length_cons]
        omega
  have behindDigits := length_lt_of_digits digits
  omega

end SessionForge.Json
