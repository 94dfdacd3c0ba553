/-
This file settles what is left of a printed number that breaks off. Every number that can be printed
spells a numeral by the rules (`exists_numeral`), also a floating-point number that is read back as
another one. Each beginning of such a text that is a number at all is one that can be kept: an
integer has fewer digits than a whole one, and a floating-point number loses digits of its fraction
or of its exponent, which must not take it beyond the greatest one (`Numeral.Steady`).

Of written numbers in general this is not true. A number with hundreds of digits and an exponent
that makes up for them can be kept, and without the exponent it is too large.
-/

import SessionForge.Proofs.Binary64.Shortest
import SessionForge.Proofs.Json.Tokens

namespace SessionForge.Json

/-! ### Digits -/

namespace Numeral

theorem foldl_digits_eq (start : Nat) (digits : List Nat) :
    digits.foldl (fun n digit => n * 10 + digit) start =
      start * 10 ^ digits.length + ofDigits digits := by
  induction digits generalizing start with
  | nil => simp [ofDigits]
  | cons digit rest inductionHypothesis =>
    have first : ofDigits (digit :: rest) = (0 * 10 + digit) * 10 ^ rest.length + ofDigits rest :=
      inductionHypothesis (0 * 10 + digit)
    rw [List.foldl_cons, inductionHypothesis, first, List.length_cons, Nat.pow_succ]
    ring

theorem ofDigits_append (digits more : List Nat) :
    ofDigits (digits ++ more) = ofDigits digits * 10 ^ more.length + ofDigits more := by
  rw [ofDigits, List.foldl_append, foldl_digits_eq]
  rfl

theorem ofDigits_replicate_zero (count : Nat) : ofDigits (List.replicate count 0) = 0 := by
  induction count with
  | zero => rfl
  | succ count inductionHypothesis =>
    rw [List.replicate_succ', ofDigits_append, inductionHypothesis]
    rfl

/-- Digits that are left out at the end make a number smaller. -/
theorem ofDigits_le_of_beginning {digits all : List Nat} (isBeginning : digits <+: all) :
    ofDigits digits ≤ ofDigits all := by
  obtain ⟨more, rfl⟩ := isBeginning
  rw [ofDigits_append]
  exact Nat.le_add_right_of_le (Nat.le_mul_of_pos_right _ (Nat.pow_pos (by decide)))

/-- Digits that fit in 64 bits are all gathered. -/
theorem gather_of_le {start : Nat} {digits : List Nat}
    (small : start * 10 ^ digits.length + ofDigits digits ≤ greatest) :
    gather start digits = (start * 10 ^ digits.length + ofDigits digits, []) := by
  induction digits generalizing start with
  | nil => simp [gather, ofDigits]
  | cons digit rest inductionHypothesis =>
    rw [← foldl_digits_eq, List.foldl_cons, foldl_digits_eq] at small ⊢
    have first : start * 10 + digit ≤ greatest := by
      refine Nat.le_trans ?_ small
      exact Nat.le_add_right_of_le (Nat.le_mul_of_pos_right _ (Nat.pow_pos (by decide)))
    rw [gather, if_pos first, inductionHypothesis small]

/-- All digits of a number, as if there were no point. -/
def digits (numeral : Numeral) : List Nat :=
  numeral.whole ++ numeral.fraction.getD []

/-- How many digits stand behind the point. -/
def places (numeral : Numeral) : Nat :=
  (numeral.fraction.getD []).length

theorem leading_of_small {numeral : Numeral} (small : ofDigits numeral.digits ≤ greatest) :
    numeral.leading = (ofDigits numeral.digits, -(numeral.places : Int)) := by
  obtain ⟨negative, whole, fraction, exponent⟩ := numeral
  have smallWhole : ofDigits whole ≤ greatest :=
    (ofDigits_le_of_beginning (List.prefix_append _ _)).trans small
  have gatheredWhole : gather 0 whole = (ofDigits whole, []) := by
    rw [gather_of_le (by rwa [Nat.zero_mul, Nat.zero_add]), Nat.zero_mul, Nat.zero_add]
  cases fraction with
  | none => simp [leading, gatheredWhole, digits, places]
  | some fraction =>
    simp only [digits, Option.getD_some, ofDigits_append] at small
    simp [leading, gatheredWhole, gather_of_le small, digits, places, ofDigits_append]

/-! ### Parts of a number -/

/-- The beginnings of a number that are numbers. -/
inductive IsPart : Numeral → Numeral → Prop where
  | whole {negative : Bool} {digits all : List Nat} {fraction : Option (List Nat)}
      {exponent : Option (Bool × List Nat)} (isBeginning : digits <+: all) :
      IsPart ⟨negative, digits, none, none⟩ ⟨negative, all, fraction, exponent⟩
  | fraction {negative : Bool} {whole digits all : List Nat} {exponent : Option (Bool × List Nat)}
      (isBeginning : digits <+: all) :
      IsPart ⟨negative, whole, some digits, none⟩ ⟨negative, whole, some all, exponent⟩
  | exponent {negative down : Bool} {whole digits all : List Nat} {fraction : Option (List Nat)}
      (isBeginning : digits <+: all) :
      IsPart ⟨negative, whole, fraction, some (down, digits)⟩
        ⟨negative, whole, fraction, some (down, all)⟩

/-- A number without a sign, a fraction and an exponent. No digit is missing from what is left of
such a number, if there is anything. -/
def IsPlain (numeral : Numeral) : Prop :=
  numeral.negative = false ∧ numeral.fraction = none ∧ numeral.exponent = none

/-- Every beginning of a number that is a number can be kept. -/
def Steady (numeral : Numeral) : Prop :=
  ∀ part : Numeral, part.IsPart numeral → ∃ value, part.kept = .ok value

/-- A number is a part of itself. -/
theorem isPart_self (numeral : Numeral) : numeral.IsPart numeral := by
  obtain ⟨negative, whole, _ | fraction, _ | ⟨down, exponent⟩⟩ := numeral
  · exact .whole (List.prefix_refl _)
  · exact .exponent (List.prefix_refl _)
  · exact .fraction (List.prefix_refl _)
  · exact .exponent (List.prefix_refl _)

theorem exists_kept_of_magnitude? {numeral : Numeral} (isSome : numeral.magnitude?.isSome) :
    ∃ value, numeral.kept = .ok value := by
  obtain ⟨x, isMagnitude⟩ := Option.isSome_iff_exists.1 isSome
  rw [kept, value?, float?, isMagnitude]
  split_ifs <;> exact ⟨_, rfl⟩

/-- A number of 64 bits without an exponent can be kept, wherever its point is. -/
theorem exists_kept_of_small {numeral : Numeral} (small : ofDigits numeral.digits ≤ greatest)
    (plain : numeral.exponent = none) : ∃ value, numeral.kept = .ok value := by
  refine exists_kept_of_magnitude? ?_
  simp only [magnitude?, leading_of_small small, plain]
  exact Binary64.isSome_scaled?_of_nonpos (small.trans (by decide)) (by omega)

theorem exists_kept_of_down {numeral : Numeral} (small : ofDigits numeral.digits ≤ greatest)
    {exponent : List Nat} (down : numeral.exponent = some (true, exponent)) :
    ∃ value, numeral.kept = .ok value := by
  refine exists_kept_of_magnitude? ?_
  simp only [magnitude?, leading_of_small small, down, Bool.true_eq_false, and_false, if_false,
    if_true]
  split
  · rfl
  · exact Binary64.isSome_scaled?_of_nonpos (small.trans (by decide)) (by omega)

theorem exists_kept_of_up {numeral : Numeral} (few : ofDigits numeral.digits ≤ 10 ^ 17)
    {exponent : List Nat} (up : numeral.exponent = some (false, exponent))
    (short : ofDigits numeral.digits ≠ 0 → ofDigits exponent ≤ greatestExponent)
    (inRange : ofDigits numeral.digits * 10 ^ (ofDigits exponent - numeral.places) ≤
      Binary64.greatestDecimal) : ∃ value, numeral.kept = .ok value := by
  refine exists_kept_of_magnitude? ?_
  simp only [magnitude?, leading_of_small (few.trans (by decide)), up, and_true,
    Bool.false_eq_true, if_false]
  split
  · next long =>
    have nothing : ofDigits numeral.digits = 0 := by
      by_contra nonzero
      exact Nat.not_lt.2 (short nonzero) long
    rw [if_neg fun nonzero => nonzero nothing]
    rfl
  · rcases Nat.lt_or_ge numeral.places (ofDigits exponent) with more | less
    · rw [show -(numeral.places : Int) + ofDigits exponent =
        ((ofDigits exponent - numeral.places : Nat) : Int) by omega]
      exact Binary64.isSome_scaled?_of_small few inRange
    · exact Binary64.isSome_scaled?_of_nonpos (few.trans (by decide)) (by omega)

/-- The digits of a number have 64 bits, and it can be scaled up as far as its exponent says. -/
structure InRange (numeral : Numeral) : Prop where
  small : ofDigits numeral.digits ≤ greatest
  scaled : ∀ exponent, numeral.exponent = some (false, exponent) →
    ofDigits numeral.digits ≤ 10 ^ 17 ∧
      (ofDigits numeral.digits ≠ 0 → ofDigits exponent ≤ greatestExponent) ∧
      ofDigits numeral.digits * 10 ^ (ofDigits exponent - numeral.places) ≤
        Binary64.greatestDecimal

/-- A number in range is steady, as what it loses leaves it in range. -/
theorem InRange.steady {numeral : Numeral} (inRange : numeral.InRange) : numeral.Steady := by
  intro part isPart
  cases isPart with
  | whole isBeginning =>
    refine exists_kept_of_small (Nat.le_trans (ofDigits_le_of_beginning ?_) inRange.small) rfl
    simpa [digits] using isBeginning.trans (List.prefix_append _ _)
  | fraction isBeginning =>
    refine exists_kept_of_small (Nat.le_trans (ofDigits_le_of_beginning ?_) inRange.small) rfl
    simpa [digits] using isBeginning
  | @exponent negative down whole exponent all fraction isBeginning =>
    have notMore := ofDigits_le_of_beginning isBeginning
    cases down with
    | true => exact exists_kept_of_down inRange.small rfl
    | false =>
      obtain ⟨few, short, below⟩ := inRange.scaled all rfl
      refine exists_kept_of_up few rfl (fun nonzero => notMore.trans (short nonzero))
        (Nat.le_trans ?_ below)
      exact Nat.mul_le_mul_left _
        (Nat.pow_le_pow_right (by decide) (Nat.sub_le_sub_right notMore _))

/-- Some characters spell a number, whatever follows them. -/
def IsSpelled (numeral : Numeral) (text : List Char) : Prop :=
  ∀ rest, Grammar.Number numeral (Utf8.encode text ++ rest) rest

/-- The number with a minus sign in front of it. -/
def negated (numeral : Numeral) : Numeral :=
  { numeral with negative := true }

theorem InRange.negated {numeral : Numeral} (inRange : numeral.InRange) :
    numeral.negated.InRange :=
  ⟨inRange.small, inRange.scaled⟩

theorem IsSpelled.negated {numeral : Numeral} {text : List Char}
    (isSpelled : numeral.IsSpelled text) (unsigned : numeral.negative = false) :
    numeral.negated.IsSpelled ('-' :: text) := by
  obtain ⟨negative, whole, fraction, exponent⟩ := numeral
  obtain rfl : negative = false := unsigned
  intro rest
  obtain ⟨minus, digits, zero, point, power⟩ := isSpelled rest
  cases minus with
  | none => exact .parts (.minus _) digits zero point power

end Numeral

/-! ### Printed digits -/

/-- Characters that are digits, at least one. -/
def AreDigits (text : List Char) : Prop :=
  text ≠ [] ∧ ∀ c ∈ text, c.isDigit = true

/-- The values of digits. -/
def digitValues (text : List Char) : List Nat :=
  text.map fun c => c.toNat - 48

theorem digits_encode {text : List Char} (areDigits : AreDigits text) (rest : List UInt8) :
    Grammar.Digits (digitValues text) (Utf8.encode text ++ rest) rest := by
  obtain ⟨some, all⟩ := areDigits
  induction text with
  | nil => exact absurd rfl some
  | cons c more inductionHypothesis =>
    have isDigit := digit?_of_isDigit (all c List.mem_cons_self)
    rw [Utf8.encode_cons, encodeChar_of_isDigit (all c List.mem_cons_self)]
    cases more with
    | nil => exact .last isDigit
    | cons next more =>
      exact .more isDigit (inductionHypothesis (List.cons_ne_nil _ _)
        fun other member => all other (List.mem_cons_of_mem c member))

theorem areDigits_printNatural (n : Nat) : AreDigits (printNatural n) :=
  ⟨Nat.toDigits_ne_nil, fun _ member => isDigit_of_mem_printNatural member⟩

theorem lt_pow_length_printNatural (n : Nat) : n < 10 ^ (printNatural n).length :=
  (Nat.length_toDigits_le_iff (by decide) Nat.length_toDigits_pos).1 (Nat.le_refl _)

/-- The digits of a natural number other than zero do not begin with a zero. -/
theorem head_ne_zero {n : Nat} (positive : 0 < n) {front : List Char} (back : List Char)
    (digits : printNatural n = front ++ back) : (digitValues front).head? ≠ some 0 := by
  have nonzero := head_digitsOf_pos positive
  rw [digitsOf, digits] at nonzero
  cases front with
  | nil => rintro ⟨⟩
  | cons first rest => exact fun zero => Nat.ne_of_gt (nonzero _ rfl) (Option.some.inj zero)

/-- Only zero itself begins with a zero, and has no other digit. -/
theorem eq_zero_of_head_printNatural {n : Nat}
    (zero : (digitValues (printNatural n)).head? = some 0) :
    digitValues (printNatural n) = [0] := by
  rcases Nat.eq_zero_or_pos n with rfl | positive
  · rfl
  · exact absurd zero (head_ne_zero positive [] (List.append_nil _).symm)

/-- The characters of a fraction, if there is one. -/
def fractionText : Option (List Char) → List Char
  | none => []
  | some digits => '.' :: digits

/-- The characters of an exponent, if there is one. -/
def exponentText : Option (Bool × List Char) → List Char
  | none => []
  | some (down, digits) => 'e' :: (if down then '-' else '+') :: digits

/-- The number without a sign that some characters spell. -/
def numeralOf (whole : List Char) (fraction : Option (List Char))
    (exponent : Option (Bool × List Char)) : Numeral :=
  ⟨false, digitValues whole, fraction.map digitValues,
    exponent.map fun part => (part.1, digitValues part.2)⟩

theorem isSpelled_numeralOf {whole : List Char} {fraction : Option (List Char)}
    {exponent : Option (Bool × List Char)} (isWhole : AreDigits whole)
    (zero : (digitValues whole).head? = some 0 → digitValues whole = [0])
    (isFraction : ∀ digits ∈ fraction, AreDigits digits)
    (isExponent : ∀ part ∈ exponent, AreDigits part.2) :
    (numeralOf whole fraction exponent).IsSpelled
      (whole ++ fractionText fraction ++ exponentText exponent) := by
  intro rest
  rw [Utf8.encode_append, Utf8.encode_append, List.append_assoc, List.append_assoc]
  generalize behindPoint : Utf8.encode (exponentText exponent) ++ rest = afterFraction
  have point : Grammar.Fraction (fraction.map digitValues)
      (Utf8.encode (fractionText fraction) ++ afterFraction) afterFraction := by
    cases fraction with
    | none => exact .none _
    | some digits => exact .digits (digits_encode (isFraction digits rfl) _)
  have power : Grammar.Exponent (exponent.map fun part => (part.1, digitValues part.2))
      afterFraction rest := by
    obtain rfl := behindPoint
    cases exponent with
    | none => exact .none _
    | some part =>
      obtain ⟨down, digits⟩ := part
      have all := digits_encode (isExponent _ rfl) rest
      cases down with
      | true => exact .digits (.inl rfl) (.minus _) all
      | false => exact .digits (.inl rfl) (.plus _) all
  exact .parts (.none _) (digits_encode isWhole _) zero point power

/-! ### Printed decimals -/

theorem ofDigits_printNatural (n : Nat) : Numeral.ofDigits (digitValues (printNatural n)) = n :=
  ofDigits_digitsOf n

theorem isDigit_of_mem_zeros (count : Nat) : ∀ c ∈ List.replicate count '0', c.isDigit = true := by
  intro c member
  obtain rfl := (List.mem_replicate.1 member).2
  rfl

/-- A number with a point among its digits, and without an exponent, is in range if its digits have
64 bits. -/
theorem exists_numeral_of_point {whole fraction : List Char} (isWhole : AreDigits whole)
    (zero : (digitValues whole).head? = some 0 → digitValues whole = [0])
    (isFraction : AreDigits fraction)
    (small : Numeral.ofDigits (digitValues (whole ++ fraction)) ≤ Numeral.greatest) :
    ∃ numeral : Numeral, numeral.negative = false ∧ numeral.InRange ∧
      numeral.IsSpelled (whole ++ '.' :: fraction) := by
  refine ⟨numeralOf whole (some fraction) none, rfl, ⟨?_, by rintro _ ⟨⟩⟩, ?_⟩
  · rwa [digitValues, List.map_append] at small
  · have spelled : (numeralOf whole (some fraction) none).IsSpelled _ :=
      isSpelled_numeralOf isWhole zero (fun digits same => Option.some.inj same ▸ isFraction)
        (by rintro _ ⟨⟩)
    rwa [exponentText, List.append_nil] at spelled

/-- A decimal with its point in place spells a number in range. -/
theorem exists_numeral_positional {n : Nat} {power : Int} (nonzero : 0 < n ∨ power = 0)
    (few : n ≤ 10 ^ 17) (place : ((printNatural n).length : Int) + power ≤ 16) :
    ∃ numeral : Numeral, numeral.negative = false ∧ numeral.InRange ∧
      numeral.IsSpelled (positional ⟨n, power⟩) := by
  have areDigits := areDigits_printNatural n
  simp only [positional]
  split_ifs with up front
  · -- Zeros behind the digits, and one more behind the point.
    obtain ⟨zeros, rfl⟩ := Int.eq_ofNat_of_zero_le up
    rw [Int.toNat_natCast]
    refine exists_numeral_of_point ⟨by simp [printNatural],
      List.forall_mem_append.2 ⟨areDigits.2, isDigit_of_mem_zeros zeros⟩⟩ ?zero
      ⟨List.cons_ne_nil _ _, isDigit_of_mem_zeros 1⟩ ?small
    case zero =>
      intro zero
      rcases nonzero with positive | none
      · refine absurd ?_ (head_ne_zero positive [] (List.append_nil _).symm)
        cases digits : printNatural n with
        | nil => exact absurd digits areDigits.1
        | cons first rest => rwa [digits] at zero
      · obtain rfl : zeros = 0 := by omega
        rw [List.replicate_zero, List.append_nil] at zero ⊢
        exact eq_zero_of_head_printNatural zero
    case small =>
      have digits : digitValues (printNatural n ++ List.replicate zeros '0' ++ ['0']) =
          digitValues (printNatural n) ++ List.replicate (zeros + 1) 0 := by
        rw [digitValues, List.append_assoc, ← List.replicate_succ', List.map_append,
          List.map_replicate]
        rfl
      rw [digits, Numeral.ofDigits_append, Numeral.ofDigits_replicate_zero, ofDigits_printNatural,
        List.length_replicate]
      calc n * 10 ^ (zeros + 1) + 0
          ≤ 10 ^ (printNatural n).length * 10 ^ (zeros + 1) :=
            Nat.mul_le_mul_right _ (Nat.le_of_lt (lt_pow_length_printNatural n))
        _ = 10 ^ ((printNatural n).length + zeros + 1) := by rw [← Nat.pow_add]; rfl
        _ ≤ 10 ^ 17 := Nat.pow_le_pow_right (by decide) (by omega)
        _ ≤ Numeral.greatest := by decide
  · -- The point stands among the digits.
    generalize isPlace : (((printNatural n).length : Int) + power).toNat = place
    have positive : 0 < n := nonzero.resolve_right (by omega)
    have split := List.take_append_drop place (printNatural n)
    refine exists_numeral_of_point
      ⟨fun none => ?noWhole, fun c member => areDigits.2 c (List.mem_of_mem_take member)⟩
      (fun zero => absurd zero (head_ne_zero positive _ split.symm))
      ⟨fun none => ?noFraction, fun c member => areDigits.2 c (List.mem_of_mem_drop member)⟩ ?small
    case noWhole =>
      have length := congrArg List.length none
      rw [List.length_take, List.length_nil] at length
      omega
    case noFraction =>
      have length := congrArg List.length none
      rw [List.length_drop, List.length_nil] at length
      omega
    case small =>
      rw [split, ofDigits_printNatural]
      exact few.trans (by decide)
  · -- The point stands in front of the digits, with zeros between.
    generalize (-(((printNatural n).length : Int) + power)).toNat = zeros
    have isFraction : AreDigits (List.replicate zeros '0' ++ printNatural n) :=
      ⟨by simp [printNatural], List.forall_mem_append.2 ⟨isDigit_of_mem_zeros zeros, areDigits.2⟩⟩
    have isWhole : AreDigits ['0'] := ⟨List.cons_ne_nil _ _, isDigit_of_mem_zeros 1⟩
    rw [List.append_assoc]
    show ∃ numeral : Numeral, numeral.negative = false ∧ numeral.InRange ∧
      numeral.IsSpelled (['0'] ++ '.' :: (List.replicate zeros '0' ++ printNatural n))
    refine exists_numeral_of_point isWhole (fun _ => rfl) isFraction ?_
    have digits : digitValues (['0'] ++ (List.replicate zeros '0' ++ printNatural n)) =
        List.replicate (zeros + 1) 0 ++ digitValues (printNatural n) := by
      rw [digitValues, ← List.append_assoc, List.map_append, List.singleton_append,
        ← List.replicate_succ, List.map_replicate]
      rfl
    rw [digits, Numeral.ofDigits_append, Numeral.ofDigits_replicate_zero, ofDigits_printNatural,
      Nat.zero_mul, Nat.zero_add]
    exact few.trans (by decide)

/-- The parts of a decimal with one digit before the point. Without a second digit there is no point
either. -/
theorem exists_scientific_eq (n : Nat) (power : Int) :
    ∃ first rest, printNatural n = first :: rest ∧
      scientific ⟨n, power⟩ = [first] ++ fractionText (if rest = [] then none else some rest) ++
        exponentText (some (decide (((printNatural n).length : Int) + power - 1 < 0),
          printNatural (((printNatural n).length : Int) + power - 1).natAbs)) := by
  cases digits : printNatural n with
  | nil => exact absurd digits (areDigits_printNatural n).1
  | cons first rest =>
    refine ⟨first, rest, rfl, ?_⟩
    simp only [scientific, digits, exponentText, decide_eq_true_eq]
    cases rest <;> rfl

/-- A decimal with one digit before the point spells a number in range, if it is in range itself. -/
theorem exists_numeral_scientific {n : Nat} {power : Int} (few : n ≤ 10 ^ 17)
    (inRange : n * 10 ^ power.toNat ≤ Binary64.greatestDecimal) :
    ∃ numeral : Numeral, numeral.negative = false ∧ numeral.InRange ∧
      numeral.IsSpelled (scientific ⟨n, power⟩) := by
  obtain ⟨first, rest, isDigits, parts⟩ := exists_scientific_eq n power
  have short : (printNatural n).length ≤ 18 :=
    (Nat.length_toDigits_le_iff (by decide) (by decide)).2 (Nat.lt_of_le_of_lt few (by decide))
  have areDigits := areDigits_printNatural n
  have value := ofDigits_printNatural n
  rw [parts]
  generalize isExponent : ((printNatural n).length : Int) + power - 1 = exponent
  rw [isDigits] at areDigits value short isExponent
  generalize isFraction : (if rest = [] then none else some rest) = fraction
  have written : digitValues [first] ++ (fraction.map digitValues).getD [] =
        digitValues (first :: rest) ∧
      ((fraction.map digitValues).getD []).length = rest.length ∧
      ∀ digits ∈ fraction, AreDigits digits := by
    obtain rfl := isFraction
    cases rest with
    | nil => exact ⟨rfl, rfl, by rintro _ ⟨⟩⟩
    | cons second rest =>
      refine ⟨rfl, List.length_map _, fun digits same => ?_⟩
      obtain rfl := Option.some.inj same
      exact ⟨List.cons_ne_nil _ _,
        fun c member => areDigits.2 c (List.mem_cons_of_mem first member)⟩
  obtain ⟨all, places, areFractions⟩ := written
  have isFirst : AreDigits [first] :=
    ⟨List.cons_ne_nil _ _, List.forall_mem_singleton.2 (areDigits.2 first List.mem_cons_self)⟩
  have spelled : (numeralOf [first] fraction
      (some (decide (exponent < 0), printNatural exponent.natAbs))).IsSpelled _ :=
    isSpelled_numeralOf isFirst (fun zero => by simpa [digitValues] using zero) areFractions
      fun part same => Option.some.inj same ▸ areDigits_printNatural exponent.natAbs
  refine ⟨_, rfl, ⟨?small, ?scaled⟩, spelled⟩
  case small =>
    simp only [Numeral.digits, numeralOf, all, value]
    exact few.trans (by decide)
  case scaled =>
    intro digits isUp
    simp only [numeralOf, Option.map_some, Option.some.injEq, Prod.mk.injEq,
      decide_eq_false_iff_not] at isUp
    obtain ⟨up, rfl⟩ := isUp
    simp only [Numeral.digits, Numeral.places, numeralOf, all, value, places, ofDigits_printNatural]
    simp only [List.length_cons] at isExponent short
    refine ⟨few, fun nonzero => ?_, ?_⟩
    · have limit := Binary64.lt_of_le_greatestDecimal nonzero inRange
      exact Nat.le_trans (by omega : exponent.natAbs ≤ 400) (by decide)
    · rwa [show exponent.natAbs - rest.length = power.toNat by omega]

/-! ### Printed numbers -/

/-- A floating-point number spells a number in range, before its sign is added. -/
theorem exists_numeral_magnitude (x : Binary64) :
    ∃ numeral : Numeral, numeral.negative = false ∧ numeral.InRange ∧
      numeral.IsSpelled (if x.isZero then ['0', '.', '0']
        else if -5 < ((printNatural x.shortest.digits).length : Int) + x.shortest.power &&
          ((printNatural x.shortest.digits).length : Int) + x.shortest.power ≤ 16
        then positional x.shortest
        else scientific x.shortest) := by
  have few := x.digits_shortest_le
  have nonzero := x.digits_shortest_pos
  have inRange := x.shortest_le_greatestDecimal
  generalize x.shortest = decimal at few nonzero inRange ⊢
  obtain ⟨n, power⟩ := decimal
  split_ifs with zero inPlace
  · have isZero : AreDigits ['0'] := ⟨List.cons_ne_nil _ _, isDigit_of_mem_zeros 1⟩
    exact exists_numeral_of_point isZero (fun _ => rfl) isZero (by decide)
  · simp only [Bool.and_eq_true, decide_eq_true_eq] at inPlace
    exact exists_numeral_positional (nonzero.imp_right fun same => (Decimal.mk.inj same).2) few
      inPlace.2
  · exact exists_numeral_scientific few inRange

/-- A printed number spells a number, of which every beginning can be kept. A natural number is
spelled without anything but its digits. -/
theorem exists_numeral {value : Number} (fits : value.Fits) :
    ∃ numeral : Numeral, numeral.IsSpelled value.print ∧ numeral.Steady ∧
      ∀ n : Nat, value = .integer n → numeral.IsPlain := by
  have natural {n : Nat} (small : n ≤ Numeral.greatest) :
      (numeralOf (printNatural n) none none).InRange ∧
        (numeralOf (printNatural n) none none).IsSpelled (printNatural n) := by
    refine ⟨⟨?_, by rintro _ ⟨⟩⟩, ?_⟩
    · simpa [Numeral.digits, numeralOf, ofDigits_printNatural] using small
    · have spelled : (numeralOf (printNatural n) none none).IsSpelled _ :=
        isSpelled_numeralOf (areDigits_printNatural n) eq_zero_of_head_printNatural
          (by rintro _ ⟨⟩) (by rintro _ ⟨⟩)
      simpa [fractionText, exponentText] using spelled
  cases value with
  | integer n =>
    obtain ⟨least, greatest⟩ := fits
    cases n with
    | ofNat n =>
      obtain ⟨inRange, spelled⟩ := natural (Int.ofNat_le.1 greatest)
      exact ⟨_, spelled, inRange.steady, fun _ _ => ⟨rfl, rfl, rfl⟩⟩
    | negSucc n =>
      have small : n + 1 ≤ Numeral.greatest :=
        Nat.le_trans (by omega : n + 1 ≤ Nat.pow 2 63) (by decide)
      obtain ⟨inRange, spelled⟩ := natural small
      refine ⟨_, spelled.negated rfl, inRange.negated.steady, fun _ same => ?_⟩
      have negative := Number.integer.inj same
      omega
  | float x =>
    obtain ⟨numeral, unsigned, inRange, spelled⟩ := exists_numeral_magnitude x
    simp only [Number.print, printFloat]
    split
    · exact ⟨numeral.negated, spelled.negated unsigned, inRange.negated.steady, by rintro _ ⟨⟩⟩
    · exact ⟨numeral, spelled, inRange.steady, by rintro _ ⟨⟩⟩

end SessionForge.Json
