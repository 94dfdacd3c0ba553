/-
This file settles when a printed number is read back, and that it is then read back in front of
anything that cannot belong to a number. An integer is read back if it fits in 64 bits
(`isRead_integer`). A floating-point number need not be, since what is written is read with one
rounding too many at times; it is read back in every place if its text alone is
(`isRead_of_readsBack`).
-/

import SessionForge.Proofs.Json.Texts
import SessionForge.Proofs.Results
import SessionForge.Text.Blank

namespace SessionForge

namespace Json

/-! ### Where a number ends -/

/-- No number goes on with these bytes. -/
def EndsNumber (rest : List UInt8) : Prop :=
  ∀ b ∈ rest.head?, digit? b = none ∧ b ≠ 0x2E ∧ b ≠ 0x65 ∧ b ≠ 0x45

theorem endsNumber_nil : EndsNumber [] := by
  simp [EndsNumber]

theorem takeDigits_of_endsNumber {rest : List UInt8} (ends : EndsNumber rest) :
    takeDigits rest = ([], rest) := by
  cases rest with
  | nil => rfl
  | cons b more =>
    rw [takeDigits, (ends b rfl).1]

/-- The digits in front of the end of a number do not depend on what follows it. -/
theorem takeDigits_append (input : List UInt8) {rest : List UInt8} (ends : EndsNumber rest) :
    takeDigits (input ++ rest) = ((takeDigits input).1, (takeDigits input).2 ++ rest) := by
  induction input with
  | nil => exact takeDigits_of_endsNumber ends
  | cons b more inductionHypothesis =>
    rw [List.cons_append, takeDigits, takeDigits, inductionHypothesis]
    cases digit? b <;> rfl

theorem takeDigits_suffix (input : List UInt8) : (takeDigits input).2 <:+ input := by
  induction input with
  | nil => exact List.suffix_refl []
  | cons b more inductionHypothesis =>
    rw [takeDigits]
    split
    · exact inductionHypothesis.trans (List.suffix_cons b more)
    · exact List.suffix_refl _

theorem missingDigit_ne_number (input : List UInt8) (numeral : Numeral) (rest : List UInt8) :
    missingDigit input ≠ (.number numeral, rest) := by
  simp [missingDigit]

theorem takeSign_append (input : List UInt8) {rest : List UInt8} (nonempty : input ≠ []) :
    takeSign (input ++ rest) = ((takeSign input).1, (takeSign input).2 ++ rest) := by
  cases input with
  | nil => exact absurd rfl nonempty
  | cons sign more =>
    rw [List.cons_append, takeSign, takeSign]
    split
    · rfl
    · split <;> rfl

theorem takeSign_suffix (input : List UInt8) : (takeSign input).2 <:+ input := by
  cases input with
  | nil => exact List.suffix_refl []
  | cons sign more =>
    rw [takeSign]
    split
    · exact List.suffix_cons sign more
    · split
      · exact List.suffix_cons sign more
      · exact List.suffix_refl _

section Local

variable {numeral result : Numeral} {negative : Bool} {input left rest : List UInt8}

/-- A number that is read to some end is read to the same end in front of what does not go on with
it. -/
theorem scanExponent_append (ends : EndsNumber rest)
    (scanned : scanExponent numeral input = (.number result, left)) :
    scanExponent numeral (input ++ rest) = (.number result, left ++ rest) ∧ left <:+ input := by
  cases input with
  | nil =>
    simp only [scanExponent, Prod.mk.injEq, Outline.number.injEq] at scanned
    obtain ⟨rfl, rfl⟩ := scanned
    refine ⟨?_, List.suffix_refl []⟩
    cases rest with
    | nil => rfl
    | cons b more =>
      obtain ⟨-, -, notSmall, notLarge⟩ := ends b rfl
      rw [List.nil_append, scanExponent, if_neg (by simp [notSmall, notLarge])]
  | cons b more =>
    rw [List.cons_append, scanExponent]
    rw [scanExponent] at scanned
    split at scanned
    · next isExponent =>
      rw [if_pos isExponent]
      have nonempty : more ≠ [] := by
        rintro rfl
        exact missingDigit_ne_number _ _ _ scanned
      simp only at scanned ⊢
      rw [takeSign_append more nonempty]
      simp only
      rw [takeDigits_append _ ends]
      have within := (takeDigits_suffix (takeSign more).2).trans (takeSign_suffix more)
      split at scanned
      · exact absurd scanned (missingDigit_ne_number _ _ _)
      · next digits after notNone taken =>
        rw [taken] at within ⊢
        simp only [Prod.mk.injEq, Outline.number.injEq] at scanned
        obtain ⟨rfl, rfl⟩ := scanned
        refine ⟨?_, within.trans (List.suffix_cons b more)⟩
        cases digits with
        | nil => exact absurd rfl notNone
        | cons => rfl
    · next notExponent =>
      rw [if_neg notExponent]
      simp only [Prod.mk.injEq, Outline.number.injEq] at scanned ⊢
      obtain ⟨rfl, rfl⟩ := scanned
      exact ⟨⟨rfl, rfl⟩, List.suffix_refl _⟩

theorem scanFraction_append (ends : EndsNumber rest)
    (scanned : scanFraction numeral input = (.number result, left)) :
    scanFraction numeral (input ++ rest) = (.number result, left ++ rest) ∧ left <:+ input := by
  cases input with
  | nil =>
    simp only [scanFraction, Prod.mk.injEq, Outline.number.injEq] at scanned
    obtain ⟨rfl, rfl⟩ := scanned
    refine ⟨?_, List.suffix_refl []⟩
    cases rest with
    | nil => rfl
    | cons b more =>
      have noExponent : scanExponent numeral [] = (.number numeral, []) := rfl
      rw [List.nil_append, scanFraction, if_neg (ends b rfl).2.1]
      exact (scanExponent_append ends noExponent).1
  | cons b more =>
    rw [List.cons_append, scanFraction]
    rw [scanFraction] at scanned
    split at scanned
    · next isPoint =>
      rw [if_pos isPoint, takeDigits_append _ ends]
      have within := takeDigits_suffix more
      split at scanned
      · exact absurd scanned (missingDigit_ne_number _ _ _)
      · next digits after notNone taken =>
        rw [taken] at within ⊢
        obtain ⟨further, suffix⟩ := scanExponent_append ends scanned
        refine ⟨?_, (suffix.trans within).trans (List.suffix_cons b more)⟩
        cases digits with
        | nil => exact absurd rfl notNone
        | cons => exact further
    · next notPoint =>
      rw [if_neg notPoint, ← List.cons_append]
      exact scanExponent_append ends scanned

theorem scanNumber_append (ends : EndsNumber rest)
    (scanned : scanNumber negative input = (.number result, left)) :
    scanNumber negative (input ++ rest) = (.number result, left ++ rest) ∧ left <:+ input := by
  rw [scanNumber, takeDigits_append _ ends]
  rw [scanNumber] at scanned
  have within := takeDigits_suffix input
  split at scanned
  · exact absurd scanned (missingDigit_ne_number _ _ _)
  · cases scanned
  · next digits after notNone notLonger taken =>
    rw [taken] at within ⊢
    obtain ⟨further, suffix⟩ := scanFraction_append ends scanned
    refine ⟨?_, suffix.trans within⟩
    split
    · next none =>
      simp only [Prod.mk.injEq] at none
      exact absurd none.1 notNone
    · next longer =>
      simp only [Prod.mk.injEq] at longer
      exact absurd longer.1 (notLonger _ _)
    · next same =>
      simp only [Prod.mk.injEq] at same
      rw [← same.1, ← same.2]
      exact further

end Local

/-! ### The beginning of a number -/

theorem ne_of_isDigit {b other : UInt8} (isDigit : (digit? b).isSome = true)
    (noDigit : digit? other = none) : b ≠ other := by
  rintro rfl
  rw [noDigit] at isDigit
  cases isDigit

theorem isBlank_of_isDigit {b : UInt8} (isDigit : (digit? b).isSome = true) :
    isBlank b = false := by
  have isNot (other : UInt8) : digit? other = none → b ≠ other := ne_of_isDigit isDigit
  simp [isBlank, isNot 0x20 rfl, isNot 0x0A rfl, isNot 0x0D rfl, isNot 0x09 rfl]

/-- The number that some bytes begin with: whether it has a minus sign, and the rest. -/
def startsNumber? : List UInt8 → Option (Bool × List UInt8)
  | [] => none
  | b :: rest =>
    if b = 0x2D then some (true, rest)
    else if (digit? b).isSome then some (false, b :: rest)
    else none

theorem startsNumber?_append {input more : List UInt8} {negative : Bool}
    (starts : startsNumber? input = some (negative, more)) (rest : List UInt8) :
    startsNumber? (input ++ rest) = some (negative, more ++ rest) := by
  cases input with
  | nil => cases starts
  | cons b tail =>
    rw [startsNumber?] at starts
    rw [List.cons_append, startsNumber?]
    split at starts
    · next isMinus =>
      obtain ⟨rfl, rfl⟩ := Prod.mk.inj (Option.some.inj starts)
      rw [if_pos isMinus]
    · next notMinus =>
      split at starts
      · next isDigit =>
        obtain ⟨rfl, rfl⟩ := Prod.mk.inj (Option.some.inj starts)
        rw [if_neg notMinus, if_pos isDigit]
        rfl
      · cases starts

theorem suffix_of_startsNumber? {input more : List UInt8} {negative : Bool}
    (starts : startsNumber? input = some (negative, more)) : more <:+ input := by
  cases input with
  | nil => cases starts
  | cons b tail =>
    rw [startsNumber?] at starts
    split at starts
    · obtain ⟨-, rfl⟩ := Prod.mk.inj (Option.some.inj starts)
      exact List.suffix_cons b tail
    · split at starts
      · obtain ⟨-, rfl⟩ := Prod.mk.inj (Option.some.inj starts)
        exact List.suffix_refl _
      · cases starts

/-- What begins like a number is scanned as one. -/
theorem scanValue_of_startsNumber? {input more : List UInt8} {negative : Bool}
    (starts : startsNumber? (skipBlanks input) = some (negative, more)) (fuel : Nat) :
    scanValue (fuel + 1) input = scanNumber negative more := by
  rw [scanValue]
  cases trimmed : skipBlanks input with
  | nil =>
    rw [trimmed] at starts
    cases starts
  | cons b rest =>
    rw [trimmed, startsNumber?] at starts
    simp only
    split at starts
    · next isMinus =>
      obtain ⟨rfl, rfl⟩ := Prod.mk.inj (Option.some.inj starts)
      subst isMinus
      rfl
    · next notMinus =>
      split at starts
      · next isDigit =>
        obtain ⟨rfl, rfl⟩ := Prod.mk.inj (Option.some.inj starts)
        have isNot (other : UInt8) : digit? other = none → b ≠ other := ne_of_isDigit isDigit
        rw [if_neg (isNot 0x22 rfl), if_neg (isNot 0x7B rfl), if_neg (isNot 0x5B rfl),
          if_neg notMinus, if_pos isDigit]
      · cases starts

/-- What is scanned as a number begins like one. -/
theorem startsNumber?_of_scanValue {fuel : Nat} {input rest : List UInt8} {numeral : Numeral}
    (scanned : scanValue (fuel + 1) input = (.number numeral, rest)) :
    ∃ negative more, startsNumber? (skipBlanks input) = some (negative, more) ∧
      scanNumber negative more = (.number numeral, rest) := by
  have notLiteral (letters : List UInt8) (value : Outline) (cut : Fault → Outline)
      (input : List UInt8) (noNumber : ∀ numeral, value ≠ .number numeral)
      (noCut : ∀ fault numeral, cut fault ≠ .number numeral) :
      literal letters value cut input ≠ (.number numeral, rest) := by
    unfold literal
    split
    · exact fun same => noNumber _ (Prod.mk.inj same).1
    · exact fun same => noCut _ _ (Prod.mk.inj same).1
  rw [scanValue] at scanned
  cases trimmed : skipBlanks input with
  | nil =>
    rw [trimmed] at scanned
    cases scanned
  | cons b more =>
    rw [trimmed] at scanned
    simp only at scanned
    split at scanned
    · cases scanned
    split at scanned
    · cases scanned
    split at scanned
    · cases scanned
    split at scanned
    · next isMinus => exact ⟨true, more, by rw [startsNumber?, if_pos isMinus], scanned⟩
    next notMinus =>
    split at scanned
    · next isDigit =>
      exact ⟨false, b :: more, by rw [startsNumber?, if_neg notMinus, if_pos isDigit], scanned⟩
    split at scanned
    · exact absurd scanned (notLiteral _ _ _ _ (by simp) (by simp))
    split at scanned
    · exact absurd scanned (notLiteral _ _ _ _ (by simp) (by simp [cutBoolean]))
    split at scanned
    · exact absurd scanned (notLiteral _ _ _ _ (by simp) (by simp [cutBoolean]))
    · cases scanned

/-! ### Numbers that are read back -/

/-- Blanks at the end are passed over with what follows, those before stay. -/
theorem skipBlanks_append {input : List UInt8} (nonblank : skipBlanks input ≠ [])
    (rest : List UInt8) : skipBlanks (input ++ rest) = skipBlanks input ++ rest := by
  simp only [skipBlanks] at nonblank ⊢
  rw [List.dropWhile_append, if_neg (by simpa using nonblank)]

/-- The text of a number alone is read back. -/
def Number.IsRead (value : Number) : Prop :=
  ∃ numeral, scanValue 1 (Utf8.encode value.print) = (.number numeral, []) ∧
    numeral.kept = .ok value

/-- The text of a number alone is scanned into some number, which may be another one. -/
def Number.IsScanned (value : Number) : Prop :=
  ∃ numeral, scanValue 1 (Utf8.encode value.print) = (.number numeral, [])

theorem Number.IsRead.isScanned {value : Number} (isRead : value.IsRead) : value.IsScanned := by
  obtain ⟨numeral, alone, -⟩ := isRead
  exact ⟨numeral, alone⟩

/-- What the text of a number alone is scanned into. -/
def Number.outline (value : Number) : Outline :=
  (scanValue 1 (Utf8.encode value.print)).1

/-- A number is scanned in any place as it is alone. -/
theorem scanValue_number {value : Number} (isScanned : value.IsScanned) (fuel : Nat)
    {rest : List UInt8} (ends : EndsNumber rest) :
    scanValue (fuel + 1) (Utf8.encode value.print ++ rest) = (value.outline, rest) := by
  obtain ⟨numeral, alone⟩ := isScanned
  obtain ⟨negative, more, starts, scanned⟩ := startsNumber?_of_scanValue alone
  have nonblank : skipBlanks (Utf8.encode value.print) ≠ [] := by
    intro none
    rw [none] at starts
    cases starts
  have startsHere := startsNumber?_append starts rest
  rw [← skipBlanks_append nonblank] at startsHere
  rw [scanValue_of_startsNumber? startsHere, (scanNumber_append ends scanned).1, Number.outline,
    alone]
  rfl

/-! ### Integers -/

/-- The digits of a natural number. -/
def digitsOf (n : Nat) : List Nat :=
  (printNatural n).map fun c => c.toNat - 48

theorem digit?_of_isDigit {c : Char} (isDigit : c.isDigit = true) :
    digit? (UInt8.ofNat c.toNat) = some (c.toNat - 48) := by
  obtain ⟨least, greatest⟩ := toNat_of_isDigit isDigit
  have value : (UInt8.ofNat c.toNat).toNat = c.toNat := by
    rw [UInt8.toNat_ofNat']
    omega
  simp only [digit?, value, if_pos (And.intro least greatest)]

theorem encodeChar_of_isDigit {c : Char} (isDigit : c.isDigit = true) :
    Utf8.encodeChar c = [UInt8.ofNat c.toNat] :=
  Utf8.encodeChar_of_ascii (by have bounds := toNat_of_isDigit isDigit; omega)

theorem isDigit_of_mem_printNatural {n : Nat} {c : Char} (member : c ∈ printNatural n) :
    c.isDigit = true :=
  Nat.isDigit_of_mem_toDigits (by decide) (by decide) member

theorem takeDigits_encode {digits : List Char} (all : ∀ c ∈ digits, c.isDigit = true) :
    takeDigits (Utf8.encode digits) = (digits.map fun c => c.toNat - 48, []) := by
  induction digits with
  | nil => rfl
  | cons c rest inductionHypothesis =>
    have isDigit := all c List.mem_cons_self
    rw [Utf8.encode_cons, encodeChar_of_isDigit isDigit, List.singleton_append, takeDigits,
      digit?_of_isDigit isDigit,
      inductionHypothesis fun other member => all other (List.mem_cons_of_mem c member)]
    rfl

theorem ofDigits_digitsOf (n : Nat) : Numeral.ofDigits (digitsOf n) = n := by
  have same := Nat.ofDigitChars_ten_toDigits (n := n)
  rw [Nat.ofDigitChars_eq_foldl] at same
  rw [Numeral.ofDigits, digitsOf, List.foldl_map]
  simp only [Nat.mul_comm _ 10]
  exact same

theorem digitsOf_eq_if (n : Nat) :
    digitsOf n = if n < 10 then [n] else digitsOf (n / 10) ++ [n % 10] := by
  rw [digitsOf, printNatural, Nat.toDigits_eq_if (by decide)]
  split
  · next small => rw [List.map_singleton, Nat.toNat_digitChar_sub_48_of_lt_ten small]
  · rw [List.map_append, List.map_singleton,
      Nat.toNat_digitChar_sub_48_of_lt_ten (Nat.mod_lt n (by decide))]
    rfl

/-- Only zero itself begins with a zero. -/
theorem head_digitsOf_pos {n : Nat} (positive : 0 < n) : ∀ d ∈ (digitsOf n).head?, 0 < d := by
  induction n using Nat.strongRecOn with
  | ind n inductionHypothesis =>
    rw [digitsOf_eq_if]
    split
    · simpa using positive
    · intro d first
      have further := inductionHypothesis (n / 10) (by omega) (by omega)
      cases digits : digitsOf (n / 10) with
      | nil => simp [digitsOf, printNatural] at digits
      | cons head rest =>
        rw [digits] at first further
        exact further d first

theorem scanNumber_natural (negative : Bool) (n : Nat) :
    scanNumber negative (Utf8.encode (printNatural n)) =
      (.number ⟨negative, digitsOf n, none, none⟩, []) := by
  have taken : takeDigits (Utf8.encode (printNatural n)) = (digitsOf n, []) :=
    takeDigits_encode fun _ member => isDigit_of_mem_printNatural member
  rw [scanNumber, taken]
  split
  · next none => simp [digitsOf, printNatural] at none
  · next longer =>
    have digits := (Prod.mk.inj longer).1
    cases n with
    | zero => cases digits
    | succ n =>
      have first := head_digitsOf_pos (Nat.succ_pos n)
      rw [digits] at first
      exact absurd (first 0 rfl) (Nat.lt_irrefl 0)
  · next same =>
    simp only [Prod.mk.injEq] at same
    rw [← same.1, ← same.2]
    rfl

/-- An integer fits in 64 bits, signed or not. -/
def Number.Fits : Number → Prop
  | .integer n => -(Nat.pow 2 63 : Nat) ≤ n ∧ n ≤ (Numeral.greatest : Nat)
  | .float _ => True

instance (number : Number) : Decidable number.Fits :=
  match number with
  | .integer n =>
    inferInstanceAs (Decidable (-(Nat.pow 2 63 : Nat) ≤ n ∧ n ≤ (Numeral.greatest : Nat)))
  | .float _ => inferInstanceAs (Decidable True)

/-- A natural number begins with a digit. -/
theorem startsNumber?_natural (n : Nat) :
    startsNumber? (skipBlanks (Utf8.encode (printNatural n))) =
      some (false, Utf8.encode (printNatural n)) := by
  cases digits : printNatural n with
  | nil => simp [printNatural] at digits
  | cons c rest =>
    have isDigit : c.isDigit = true :=
      isDigit_of_mem_printNatural (digits ▸ List.mem_cons_self)
    have isSome : (digit? (UInt8.ofNat c.toNat)).isSome = true := by
      rw [digit?_of_isDigit isDigit]
      rfl
    have nonblank := isBlank_of_isDigit isSome
    rw [Utf8.encode_cons, encodeChar_of_isDigit isDigit, List.singleton_append, skipBlanks,
      List.dropWhile_cons_of_neg (by rw [nonblank]; decide), startsNumber?,
      if_neg (ne_of_isDigit isSome rfl), if_pos isSome]

/-- An integer that fits is read back. -/
theorem isRead_integer {n : Int} (fits : (Number.integer n).Fits) :
    (Number.integer n).IsRead := by
  obtain ⟨least, greatest⟩ := fits
  cases n with
  | ofNat n =>
    refine ⟨⟨false, digitsOf n, none, none⟩, ?_, ?_⟩
    · show scanValue 1 (Utf8.encode (printNatural n)) = _
      rw [scanValue_of_startsNumber? (startsNumber?_natural n), scanNumber_natural]
    · have small : n ≤ Numeral.greatest := Int.ofNat_le.1 greatest
      simp [Numeral.kept, Numeral.value?, Numeral.isWhole, ofDigits_digitsOf, small]
  | negSucc n =>
    have starts : startsNumber? (skipBlanks (Utf8.encode (Number.integer (.negSucc n)).print)) =
        some (true, Utf8.encode (printNatural (n + 1))) := rfl
    refine ⟨⟨true, digitsOf (n + 1), none, none⟩, ?_, ?_⟩
    · rw [scanValue_of_startsNumber? starts, scanNumber_natural]
    · have small : n + 1 ≤ Nat.pow 2 63 := by omega
      simp [Numeral.kept, Numeral.value?, Numeral.isWhole, ofDigits_digitsOf, small]
      omega

/-! ### Floating-point numbers -/

/-- A floating-point number is itself again when its text is read as a document. -/
def ReadsBack (x : Binary64) : Prop :=
  readString Reader.value (Json.number (.float x)).compact = .ok (.number (.float x))

/-- The characters of floating-point numbers. -/
def isFloatChar (c : Char) : Bool :=
  c.isDigit || c = '-' || c = '+' || c = '.' || c = 'e'

theorem isFloatChar_of_isDigit {c : Char} (isDigit : c.isDigit = true) : isFloatChar c = true := by
  simp [isFloatChar, isDigit]

theorem isFloatChar_of_mem_positional {decimal : Decimal} {c : Char}
    (member : c ∈ positional decimal) : isFloatChar c = true := by
  have natural (isDigit : c ∈ printNatural decimal.digits) : isFloatChar c = true :=
    isFloatChar_of_isDigit (isDigit_of_mem_printNatural isDigit)
  simp only [positional] at member
  split at member
  · simp only [List.mem_append, List.mem_replicate, List.mem_cons, List.not_mem_nil,
      or_false] at member
    rcases member with (digit | ⟨-, rfl⟩) | rfl | rfl
    · exact natural digit
    · rfl
    · rfl
    · rfl
  · split at member
    · rcases List.mem_append.1 member with before | after
      · exact natural (List.mem_of_mem_take before)
      · rcases List.mem_cons.1 after with rfl | after
        · rfl
        · exact natural (List.mem_of_mem_drop after)
    · simp only [List.mem_append, List.mem_replicate, List.mem_cons, List.not_mem_nil,
        or_false] at member
      rcases member with ((rfl | rfl) | ⟨-, rfl⟩) | digit
      · rfl
      · rfl
      · rfl
      · exact natural digit

theorem isFloatChar_of_mem_scientific {decimal : Decimal} {c : Char}
    (member : c ∈ scientific decimal) : isFloatChar c = true := by
  have natural {n : Nat} (isDigit : c ∈ printNatural n) : isFloatChar c = true :=
    isFloatChar_of_isDigit (isDigit_of_mem_printNatural isDigit)
  simp only [scientific] at member
  rcases List.mem_append.1 member with mantissa | exponent
  · split at mantissa
    · next first second rest digits =>
      simp only [List.mem_cons] at mantissa
      rcases mantissa with rfl | rfl | rfl | later
      · exact natural (digits ▸ List.mem_cons_self)
      · rfl
      · exact natural (digits ▸ List.mem_cons_of_mem _ List.mem_cons_self)
      · exact natural (digits ▸ List.mem_cons_of_mem _ (List.mem_cons_of_mem _ later))
    · exact natural mantissa
  · rcases List.mem_cons.1 exponent with rfl | sign
    · rfl
    · rcases List.mem_cons.1 sign with rfl | digit
      · split <;> rfl
      · exact natural digit

theorem isFloatChar_of_mem_printFloat {x : Binary64} {c : Char} (member : c ∈ printFloat x) :
    isFloatChar c = true := by
  have magnitude : ∀ digits : List Char, digits = (if x.isZero then ['0', '.', '0']
      else if -5 < ((printNatural x.shortest.digits).length : Int) + x.shortest.power &&
          ((printNatural x.shortest.digits).length : Int) + x.shortest.power ≤ 16 then
        positional x.shortest
      else scientific x.shortest) → c ∈ digits → isFloatChar c = true := by
    rintro digits rfl isThere
    split at isThere
    · simp only [List.mem_cons, List.not_mem_nil, or_false] at isThere
      rcases isThere with rfl | rfl | rfl <;> rfl
    · split at isThere
      · exact isFloatChar_of_mem_positional isThere
      · exact isFloatChar_of_mem_scientific isThere
  simp only [printFloat] at member
  split at member
  · rcases List.mem_cons.1 member with rfl | rest
    · rfl
    · exact magnitude _ rfl rest
  · exact magnitude _ rfl member

/-- There is no blank in the text of a floating-point number. -/
theorem isBlank_of_mem_printFloat {x : Binary64} {b : UInt8}
    (member : b ∈ Utf8.encode (printFloat x)) : isBlank b = false := by
  obtain ⟨c, isChar, isByte⟩ := List.mem_flatMap.1 member
  have kind := isFloatChar_of_mem_printFloat isChar
  simp only [isFloatChar, Bool.or_eq_true, decide_eq_true_eq] at kind
  rcases kind with (((isDigit | rfl) | rfl) | rfl) | rfl
  · rw [encodeChar_of_isDigit isDigit] at isByte
    obtain rfl := List.mem_singleton.1 isByte
    refine isBlank_of_isDigit ?_
    rw [digit?_of_isDigit isDigit]
    rfl
  · obtain rfl := List.mem_singleton.1 isByte
    rfl
  · obtain rfl := List.mem_singleton.1 isByte
    rfl
  · obtain rfl := List.mem_singleton.1 isByte
    rfl
  · obtain rfl := List.mem_singleton.1 isByte
    rfl

/-- Only the outline of a number is read as a number. -/
theorem number_of_value {levels : Nat} {outline : Outline} {value : Number}
    (isValue : Reader.value levels outline = .ok (.number value)) :
    ∃ numeral, outline = .number numeral ∧ numeral.kept = .ok value := by
  cases outline with
  | number numeral =>
    rw [Reader.value, mapError_eq_ok_iff, map_eq_ok_iff] at isValue
    obtain ⟨number, kept, same⟩ := isValue
    obtain rfl := Json.number.inj same
    exact ⟨numeral, rfl, kept⟩
  | text spelling =>
    rw [Reader.value, mapError_eq_ok_iff, map_eq_ok_iff] at isValue
    obtain ⟨text, -, same⟩ := isValue
    cases same
  | array items =>
    cases levels with
    | zero => rw [Reader.value.eq_def] at isValue; cases isValue
    | succ inside =>
      rw [Reader.value.eq_def] at isValue
      obtain ⟨values, -, same⟩ := map_eq_ok_iff.1 isValue
      cases same
  | object members =>
    cases levels with
    | zero => rw [Reader.value.eq_def] at isValue; cases isValue
    | succ inside =>
      rw [Reader.value.eq_def] at isValue
      obtain ⟨pairs, -, same⟩ := map_eq_ok_iff.1 isValue
      cases same
  | null | boolean | cut | cutNull | fault =>
    rw [Reader.value] at isValue
    cases isValue

/-- What a document is read from. -/
theorem read_eq_ok {α : Type} {reader : Reader α} {bytes : List UInt8} {value : α}
    (isRead : read reader bytes = .ok value) :
    reader greatestDepth (Document.ofBytes bytes).root = .ok value ∧
      (Document.ofBytes bytes).alone = true := by
  obtain ⟨root, isRoot, rest⟩ := bind_eq_ok_iff.1 isRead
  split at rest
  · next alone =>
    obtain rfl := Except.ok.inj rest
    exact ⟨isRoot, alone⟩
  · cases rest

/-- A floating-point number that reads back is read back in any place. -/
theorem isRead_of_readsBack {x : Binary64} (readsBack : ReadsBack x) :
    (Number.float x).IsRead := by
  have bytes : Utf8.ofString (Json.number (.float x)).compact = Utf8.encode (printFloat x) := by
    rw [Utf8.ofString, compact, String.toList_ofList]
    rfl
  obtain ⟨isValue, alone⟩ := read_eq_ok readsBack
  rw [bytes] at isValue alone
  obtain ⟨numeral, isNumber, kept⟩ := number_of_value isValue
  obtain ⟨rest, scanned⟩ : ∃ rest, scanValue (2 * (Utf8.encode (printFloat x)).length + 2)
      (Utf8.encode (printFloat x)) = (.number numeral, rest) :=
    ⟨_, Prod.ext isNumber rfl⟩
  obtain ⟨negative, more, starts, asNumber⟩ := startsNumber?_of_scanValue scanned
  refine ⟨numeral, ?_, kept⟩
  have within : rest <:+ Utf8.encode (printFloat x) := by
    refine (scanNumber_append endsNumber_nil asNumber).2.trans ?_
    exact (suffix_of_startsNumber? starts).trans (List.dropWhile_suffix isBlank)
  have done : rest = [] := by
    have blank : skipBlanks rest = [] := by
      simpa [Document.ofBytes, scanned] using alone
    cases rest with
    | nil => rfl
    | cons b later =>
      have nonblank := isBlank_of_mem_printFloat (within.subset List.mem_cons_self)
      rw [skipBlanks, List.dropWhile_cons_of_neg (by rw [nonblank]; decide)] at blank
      cases blank
  show scanValue 1 (Utf8.encode (printFloat x)) = _
  rw [scanValue_of_startsNumber? starts, asNumber, done]

end Json

end SessionForge
