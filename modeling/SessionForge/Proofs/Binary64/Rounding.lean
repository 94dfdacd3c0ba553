/-
This file settles that rounding keeps the order of what is rounded, and which decimals are therefore
small enough to be scaled. A ratio that is not greater is not rounded to a greater number
(`magnitudeOfRatio_mono`), and a number with a greater count is not smaller (`unitsOf_mono`). So a
scaling that comes to a number does so for everything smaller (`isSome_scaled?_of_le`), and a
scaling down always does (`isSome_scaled?_of_nonpos`). Scaling up multiplies numbers that have been
rounded already, and might leave the range where the exact product does not; that it never does so
below the greatest number with seventeen digits is a matter of one computation for each power
(`isSome_scaled?_of_small`).
-/

import Mathlib.Order.Monotone.Basic
import Mathlib.Tactic.Linarith
import Mathlib.Tactic.Ring
import SessionForge.Binary64.Basic

namespace SessionForge.Binary64

/-! ### Rounding keeps the order -/

theorem roundQuotient_mono {n d n' d' : Nat} (positive : 0 < d) (positive' : 0 < d')
    (notGreater : n * d' ≤ n' * d) : roundQuotient n d ≤ roundQuotient n' d' := by
  have split := Nat.div_add_mod n d
  have split' := Nat.div_add_mod n' d'
  have remainder := Nat.mod_lt n positive
  have quotients : n / d ≤ n' / d' := by
    rw [Nat.le_div_iff_mul_le positive']
    refine Nat.le_of_mul_le_mul_right ?_ positive
    calc n / d * d' * d = n / d * d * d' := by ring
      _ ≤ n * d' := Nat.mul_le_mul_right d' (Nat.div_mul_le_self n d)
      _ ≤ n' * d := notGreater
  have above : roundQuotient n d ≤ n / d + 1 := by
    simp only [roundQuotient]
    split_ifs <;> omega
  have below : n' / d' ≤ roundQuotient n' d' := by
    simp only [roundQuotient]
    split_ifs <;> omega
  rcases Nat.lt_or_eq_of_le quotients with less | same
  · omega
  -- With the same quotient the remainders are in the order of the ratios.
  have remainders : n % d * d' ≤ n' % d' * d := by
    rw [← split, ← split', ← same] at notGreater
    nlinarith
  simp only [roundQuotient, ← same]
  by_cases less : 2 * (n % d) < d
  · rw [if_pos less]
    split_ifs <;> omega
  · have half : d' ≤ 2 * (n' % d') := by
      by_contra short
      nlinarith
    rw [if_neg less, if_neg (by omega : ¬ 2 * (n' % d') < d')]
    by_cases more : d < 2 * (n % d)
    · have moreToo : d' < 2 * (n' % d') := by
        by_contra short
        nlinarith
      rw [if_pos more, if_pos moreToo]
    · rw [if_neg more]
      split_ifs <;> omega

/-- The shift at which a ratio is rounded. -/
def shiftOfRatio (numerator denominator : Nat) : Nat :=
  let whole := numerator * unitsPerOne / denominator
  if whole < 2 ^ 53 then 0 else Nat.log2 whole - 52

theorem magnitudeOfRatio_eq (numerator denominator : Nat) :
    magnitudeOfRatio numerator denominator =
      shiftOfRatio numerator denominator * 2 ^ 52 +
        roundQuotient (numerator * unitsPerOne)
          (denominator * 2 ^ shiftOfRatio numerator denominator) :=
  rfl

/-- The shift leaves a significand of 53 bits at most, and of 53 bits if there is a shift at all. -/
theorem shiftOfRatio_bounds (numerator denominator : Nat) :
    numerator * unitsPerOne / denominator < 2 ^ (shiftOfRatio numerator denominator + 53) ∧
      (shiftOfRatio numerator denominator = 0 ∨
        2 ^ (shiftOfRatio numerator denominator + 52) ≤
          numerator * unitsPerOne / denominator) := by
  generalize isWhole : numerator * unitsPerOne / denominator = whole
  simp only [shiftOfRatio, isWhole]
  split
  · next small => exact ⟨small, .inl rfl⟩
  · next large =>
    have nonzero : whole ≠ 0 := by
      rintro rfl
      exact large (by decide)
    have bits : 53 ≤ Nat.log2 whole := (Nat.le_log2 nonzero).2 (Nat.not_lt.1 large)
    have above : whole < 2 ^ (Nat.log2 whole + 1) := Nat.lt_log2_self
    have below : 2 ^ Nat.log2 whole ≤ whole := Nat.log2_self_le nonzero
    rw [show Nat.log2 whole - 52 + 53 = Nat.log2 whole + 1 by omega,
      show Nat.log2 whole - 52 + 52 = Nat.log2 whole by omega]
    exact ⟨above, .inr below⟩

theorem unitsPerOne_pos : 0 < unitsPerOne :=
  Nat.two_pow_pos _

section Ratio

variable {n d n' d' : Nat}

/-- A significand has 53 bits, or is the next power of two. -/
theorem roundQuotient_shiftOfRatio_le (n d : Nat) :
    roundQuotient (n * unitsPerOne) (d * 2 ^ shiftOfRatio n d) ≤ 2 ^ 53 := by
  have bounds := (shiftOfRatio_bounds n d).1
  have short : n * unitsPerOne / (d * 2 ^ shiftOfRatio n d) < 2 ^ 53 := by
    rw [← Nat.div_div_eq_div_mul, Nat.div_lt_iff_lt_mul (Nat.two_pow_pos _), ← Nat.pow_add,
      Nat.add_comm 53]
    exact bounds
  simp only [roundQuotient]
  split_ifs <;> omega

theorem le_roundQuotient_shiftOfRatio (shifted : shiftOfRatio n d ≠ 0) :
    2 ^ 52 ≤ roundQuotient (n * unitsPerOne) (d * 2 ^ shiftOfRatio n d) := by
  have bounds := (shiftOfRatio_bounds n d).2.resolve_left shifted
  have long : 2 ^ 52 ≤ n * unitsPerOne / (d * 2 ^ shiftOfRatio n d) := by
    rw [← Nat.div_div_eq_div_mul, Nat.le_div_iff_mul_le (Nat.two_pow_pos _), ← Nat.pow_add,
      Nat.add_comm 52]
    exact bounds
  simp only [roundQuotient]
  split_ifs <;> omega

/-- A ratio that is not greater is not rounded to a greater number. -/
theorem magnitudeOfRatio_mono (positive : 0 < d) (positive' : 0 < d')
    (notGreater : n * d' ≤ n' * d) :
    magnitudeOfRatio n d ≤ magnitudeOfRatio n' d' := by
  have scaled : n * unitsPerOne * d' ≤ n' * unitsPerOne * d := by
    calc n * unitsPerOne * d' = n * d' * unitsPerOne := by ring
      _ ≤ n' * d * unitsPerOne := Nat.mul_le_mul_right _ notGreater
      _ = n' * unitsPerOne * d := by ring
  have wholes : n * unitsPerOne / d ≤ n' * unitsPerOne / d' := by
    rw [Nat.le_div_iff_mul_le positive']
    refine Nat.le_of_mul_le_mul_right ?_ positive
    calc n * unitsPerOne / d * d' * d = n * unitsPerOne / d * d * d' := by ring
      _ ≤ n * unitsPerOne * d' := Nat.mul_le_mul_right d' (Nat.div_mul_le_self _ d)
      _ ≤ n' * unitsPerOne * d := scaled
  have bounds := shiftOfRatio_bounds n d
  have bounds' := shiftOfRatio_bounds n' d'
  have shifts : shiftOfRatio n d ≤ shiftOfRatio n' d' := by
    rcases bounds.2 with none | long
    · omega
    · have powers := Nat.lt_of_le_of_lt (Nat.le_trans long wholes) bounds'.1
      have := (Nat.pow_lt_pow_iff_right (by decide : 1 < 2)).1 powers
      omega
  rw [magnitudeOfRatio_eq, magnitudeOfRatio_eq]
  rcases Nat.lt_or_eq_of_le shifts with less | same
  · -- Where the shift grows, it makes up for all that the significand can lose.
    have above := roundQuotient_shiftOfRatio_le n d
    have below := le_roundQuotient_shiftOfRatio (by omega : shiftOfRatio n' d' ≠ 0)
    have steps := Nat.mul_le_mul_right (2 ^ 52) less
    rw [Nat.succ_mul] at steps
    omega
  · rw [same]
    refine Nat.add_le_add_left (roundQuotient_mono ?_ ?_ ?_) _
    · exact Nat.mul_pos positive (Nat.two_pow_pos _)
    · exact Nat.mul_pos positive' (Nat.two_pow_pos _)
    · rw [← Nat.mul_assoc, ← Nat.mul_assoc]
      exact Nat.mul_le_mul_right _ scaled

end Ratio

theorem unitsOf_le_succ (magnitude : Nat) : unitsOf magnitude ≤ unitsOf (magnitude + 1) := by
  have pow : Nat.pow 2 52 = 4503599627370496 := rfl
  simp only [unitsOf, significandOf, shiftOf, pow]
  generalize isShift : magnitude / 4503599627370496 - 1 = shift
  by_cases carries : magnitude % 4503599627370496 = 4503599627370495
  · -- The fraction is full, and the next number is a power of two.
    by_cases small : magnitude < 4503599627370496
    · rw [show (magnitude + 1) / 4503599627370496 - 1 = shift by omega, if_pos small,
        if_neg (by omega)]
      exact Nat.mul_le_mul_right _ (by omega)
    · rw [show (magnitude + 1) / 4503599627370496 - 1 = shift + 1 by omega, if_neg small,
        if_neg (by omega), show (magnitude + 1) % 4503599627370496 = 0 by omega, carries]
      simp only [Nat.pow_eq, Nat.pow_succ]
      omega
  · rw [show (magnitude + 1) / 4503599627370496 - 1 = shift by omega]
    refine Nat.mul_le_mul_right _ ?_
    split_ifs <;> omega

/-- A number with a greater count is not smaller. -/
theorem unitsOf_mono {magnitude other : Nat} (notGreater : magnitude ≤ other) :
    unitsOf magnitude ≤ unitsOf other :=
  monotone_nat_of_le_succ unitsOf_le_succ notGreater

/-! ### What comes to a number -/

theorem isSome_ofRatio?_iff {negative : Bool} {n d : Nat} :
    (ofRatio? negative n d).isSome ↔ magnitudeOfRatio n d < 2047 * 2 ^ 52 := by
  unfold ofRatio?
  split
  · next finite => exact iff_of_true rfl finite
  · next infinite => exact iff_of_false Bool.false_ne_true infinite

theorem magnitude_of_ofRatio? {negative : Bool} {n d : Nat} {x : Binary64}
    (rounded : ofRatio? negative n d = some x) : x.magnitude = magnitudeOfRatio n d := by
  unfold ofRatio? at rounded
  split at rounded
  · obtain rfl := Option.some.inj rounded
    rfl
  · cases rounded

/-- What is smaller comes to a number too, and to one that is not greater. -/
theorem exists_ofRatio? {negative negative' : Bool} {n d n' d' : Nat} (positive : 0 < d)
    (positive' : 0 < d') (notGreater : n * d' ≤ n' * d) {x : Binary64}
    (rounded : ofRatio? negative n' d' = some x) :
    ∃ y, ofRatio? negative' n d = some y ∧ y.magnitude ≤ x.magnitude := by
  have order := magnitudeOfRatio_mono positive positive' notGreater
  rw [← magnitude_of_ofRatio? rounded] at order
  have isSome : (ofRatio? negative' n d).isSome :=
    isSome_ofRatio?_iff.2 (Nat.lt_of_le_of_lt order x.finite)
  obtain ⟨y, isY⟩ := Option.isSome_iff_exists.1 isSome
  exact ⟨y, isY, magnitude_of_ofRatio? isY ▸ order⟩

theorem exists_ofNat? {n m : Nat} (notGreater : n ≤ m) {x : Binary64}
    (rounded : ofNat? m = some x) : ∃ y, ofNat? n = some y ∧ y.magnitude ≤ x.magnitude :=
  exists_ofRatio? Nat.one_pos Nat.one_pos (Nat.mul_le_mul_right 1 notGreater) rounded

theorem exists_mul? {x y x' y' z : Binary64} (first : x.magnitude ≤ x'.magnitude)
    (second : y.magnitude ≤ y'.magnitude) (isProduct : x'.mul? y' = some z) :
    ∃ product, x.mul? y = some product := by
  have positive : 0 < unitsPerOne * unitsPerOne := Nat.mul_pos unitsPerOne_pos unitsPerOne_pos
  have order : x.units * y.units * (unitsPerOne * unitsPerOne) ≤
      x'.units * y'.units * (unitsPerOne * unitsPerOne) :=
    Nat.mul_le_mul_right _ (Nat.mul_le_mul (unitsOf_mono first) (unitsOf_mono second))
  obtain ⟨product, isRounded, -⟩ := exists_ofRatio? positive positive order isProduct
  exact ⟨product, isRounded⟩

/-! ### Scaling up -/

theorem scaled?_eq_some_iff {n power : Nat} (short : power ≤ 308) {z : Binary64} :
    scaled? n power = some z ↔
      ∃ x y, ofNat? n = some x ∧ ofNat? (Nat.pow 10 power) = some y ∧ x.mul? y = some z := by
  have up : ¬ (power : Int) < 0 := Int.not_lt.2 (Int.natCast_nonneg power)
  simp only [scaled?, if_neg up, if_pos (by omega : (power : Int) ≤ 308), Int.toNat_natCast,
    Option.bind_eq_bind, Option.bind_eq_some_iff]
  constructor
  · rintro ⟨x, isNumber, y, isPower, isProduct⟩
    exact ⟨x, y, isNumber, isPower, isProduct⟩
  · rintro ⟨x, y, isNumber, isPower, isProduct⟩
    exact ⟨x, isNumber, y, isPower, isProduct⟩

/-- What is smaller is scaled up too, and what is scaled up less. -/
theorem isSome_scaled?_of_le {n m power limit : Nat} (notGreater : n ≤ m) (notMore : power ≤ limit)
    (short : limit ≤ 308) (isSome : (scaled? m limit).isSome) : (scaled? n power).isSome := by
  obtain ⟨z, isScaled⟩ := Option.isSome_iff_exists.1 isSome
  obtain ⟨x, y, isNumber, isPower, isProduct⟩ := (scaled?_eq_some_iff short).1 isScaled
  obtain ⟨smaller, isSmaller, order⟩ := exists_ofNat? notGreater isNumber
  obtain ⟨lower, isLower, orderPowers⟩ :=
    exists_ofNat? (Nat.pow_le_pow_right (by decide) notMore) isPower
  obtain ⟨product, isLess⟩ := exists_mul? order orderPowers isProduct
  exact Option.isSome_iff_exists.2 ⟨product, (scaled?_eq_some_iff (notMore.trans short)).2
    ⟨smaller, lower, isSmaller, isLower, isLess⟩⟩

/-- The greatest decimal that a number is written as. -/
def greatestDecimal : Nat :=
  17976931348623157 * Nat.pow 10 292

/-- What does not go beyond the greatest decimal is not scaled up too far. -/
theorem lt_of_le_greatestDecimal {n power : Nat} (nonzero : n ≠ 0)
    (small : n * 10 ^ power ≤ greatestDecimal) : power < 309 := by
  refine (Nat.pow_lt_pow_iff_right (by decide : 1 < 10) (m := 17 + 292)).1 ?_
  calc 10 ^ power ≤ n * 10 ^ power := Nat.le_mul_of_pos_left _ (Nat.pos_of_ne_zero nonzero)
    _ ≤ 17976931348623157 * 10 ^ 292 := small
    _ < 10 ^ 17 * 10 ^ 292 :=
        Nat.mul_lt_mul_of_pos_right (by decide) (Nat.pow_pos (by decide))
    _ = 10 ^ (17 + 292) := (Nat.pow_add 10 17 292).symm

/-- The greatest numbers of seventeen digits that are scaled up as far as the greatest decimal. -/
theorem isSome_scaled?_greatest : ∀ more < 18,
    (scaled? (min (10 ^ 17) (greatestDecimal / Nat.pow 10 (291 + more)))
      (291 + more : Nat)).isSome := by
  decide +kernel

theorem ofNat?_zero : ofNat? 0 = some (zero false) := by
  simp [ofNat?, ofRatio?, magnitudeOfRatio, roundQuotient, zero]

/-- Scaling up at most seventeen digits comes to a number, unless it goes beyond the greatest
decimal that a number is written as. -/
theorem isSome_scaled?_of_small {n power : Nat} (digits : n ≤ 10 ^ 17)
    (small : n * 10 ^ power ≤ greatestDecimal) : (scaled? n power).isSome := by
  rcases Nat.lt_or_ge power 291 with low | high
  · have inside : 10 ^ 17 ≤ greatestDecimal / 10 ^ 291 := by
      refine (Nat.le_div_iff_mul_le (Nat.pow_pos (by decide))).2 ?_
      calc 10 ^ 17 * 10 ^ 291 ≤ 17976931348623157 * 10 * 10 ^ 291 :=
            Nat.mul_le_mul_right _ (by decide)
        _ = greatestDecimal := by rw [Nat.mul_assoc, ← Nat.pow_succ']; rfl
    exact isSome_scaled?_of_le (Nat.le_min.2 ⟨digits, digits.trans inside⟩)
      (Nat.le_of_lt low) (by decide) (isSome_scaled?_greatest 0 (by decide))
  rcases Nat.lt_or_ge power 309 with low | tooHigh
  · obtain ⟨more, rfl⟩ := Nat.exists_eq_add_of_le high
    have inside : n ≤ greatestDecimal / 10 ^ (291 + more) :=
      (Nat.le_div_iff_mul_le (Nat.pow_pos (by decide))).2 small
    exact isSome_scaled?_of_le (Nat.le_min.2 ⟨digits, inside⟩) (Nat.le_refl _)
      (Nat.le_of_lt_succ low) (isSome_scaled?_greatest more (by omega))
  · have nothing : n = 0 := by
      by_contra nonzero
      exact absurd (lt_of_le_greatestDecimal nonzero small) (Nat.not_lt.2 tooHigh)
    have up : ¬ (power : Int) < 0 := Int.not_lt.2 (Int.natCast_nonneg power)
    simp only [nothing, scaled?, ofNat?_zero, Option.bind_eq_bind, Option.bind_some, if_neg up,
      if_neg (by omega : ¬ (power : Int) ≤ 308)]
    rfl

/-! ### Scaling down -/

/-- The number 2^64, which no number of 64 bits exceeds. -/
def twoTo64 : Binary64 :=
  ⟨false, 1087 * 2 ^ 52, by decide⟩

/-- What is computed of 2^64, the greatest number that is scaled down, and of 1, the least power of
ten that it is divided by. -/
theorem twoTo64_computed :
    ofNat? (2 ^ 64) = some twoTo64 ∧ twoTo64.units = 2 ^ 64 * unitsPerOne ∧
      (scaled? (2 ^ 64) (0 : Nat)).isSome ∧ (ofNat? 1).map units = some unitsPerOne := by
  decide +kernel

/-- A power of ten that is divided by is a number, and not smaller than one. -/
theorem exists_ofNat?_power {power : Nat} (short : power ≤ 308) :
    ∃ y, ofNat? (Nat.pow 10 power) = some y ∧ unitsPerOne ≤ y.units := by
  obtain ⟨z, isScaled⟩ := Option.isSome_iff_exists.1 (isSome_scaled?_greatest 17 (by decide))
  obtain ⟨-, x, -, isNumber, -⟩ := (scaled?_eq_some_iff (Nat.le_refl (291 + 17))).1 isScaled
  obtain ⟨y, isPower, -⟩ := exists_ofNat? (Nat.pow_le_pow_right (by decide) short) isNumber
  obtain ⟨one, isOne, notGreater⟩ :=
    exists_ofNat? (Nat.pow_pos (by decide) : 1 ≤ 10 ^ power) isPower
  have unit := twoTo64_computed.2.2.2
  rw [isOne] at unit
  exact ⟨y, isPower, Option.some.inj unit ▸ unitsOf_mono notGreater⟩

/-- A division by a power of ten comes to a number, and to one that is not too great to divide. -/
theorem exists_div?_power {x : Binary64} (low : x.magnitude ≤ twoTo64.magnitude) {power : Nat}
    (short : power ≤ 308) :
    ∃ z, (ofNat? (Nat.pow 10 power)).bind x.div? = some z ∧ z.magnitude ≤ twoTo64.magnitude := by
  obtain ⟨y, isPower, notLess⟩ := exists_ofNat?_power short
  obtain ⟨isGreat, sameUnits, -⟩ := twoTo64_computed
  rw [isPower, Option.bind_some]
  refine exists_ofRatio? (Nat.lt_of_lt_of_le unitsPerOne_pos notLess) Nat.one_pos ?_ isGreat
  calc x.units * 1 = x.units := Nat.mul_one _
    _ ≤ twoTo64.units := unitsOf_mono low
    _ = 2 ^ 64 * unitsPerOne := sameUnits
    _ ≤ 2 ^ 64 * y.units := Nat.mul_le_mul_left _ notLess

/-- Scaling down comes to a number, as every step of it does. -/
theorem isSome_shrink {steps : Nat} {x : Binary64} {power : Nat}
    (low : x.magnitude ≤ twoTo64.magnitude) (enough : power / 308 ≤ steps) :
    (shrink steps x power).isSome := by
  induction steps generalizing x power with
  | zero =>
    obtain ⟨z, isQuotient, -⟩ := exists_div?_power low (by omega : power ≤ 308)
    rw [shrink]
    exact Option.isSome_iff_exists.2 ⟨z, isQuotient⟩
  | succ steps inductionHypothesis =>
    rw [shrink]
    split
    · next short =>
      obtain ⟨z, isQuotient, -⟩ := exists_div?_power low short
      exact Option.isSome_iff_exists.2 ⟨z, isQuotient⟩
    split
    · rfl
    · obtain ⟨tenth, isTenth, lowToo⟩ := exists_div?_power low (Nat.le_refl 308)
      simp only [isTenth, Option.bind_eq_bind, Option.bind_some]
      exact inductionHypothesis lowToo (by omega)

/-- Scaling a number of 64 bits down comes to a number. -/
theorem isSome_scaled?_of_nonpos {n : Nat} (small : n ≤ 2 ^ 64) {power : Int} (down : power ≤ 0) :
    (scaled? n power).isSome := by
  obtain ⟨isGreat, -, isSome, -⟩ := twoTo64_computed
  rcases Int.lt_or_eq_of_le down with negative | rfl
  · obtain ⟨x, isNumber, low⟩ := exists_ofNat? small isGreat
    simp only [scaled?, isNumber, if_pos negative, Option.bind_eq_bind, Option.bind_some]
    exact isSome_shrink low (Nat.le_refl _)
  · exact isSome_scaled?_of_le small (Nat.le_refl 0) (by decide) isSome

end SessionForge.Binary64
