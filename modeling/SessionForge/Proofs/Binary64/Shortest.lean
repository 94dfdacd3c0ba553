/-
This file settles how great the decimal is that a number is written as: it has seventeen digits at
most (`digits_shortest_le`), and nothing that is not scaled down goes beyond the spelling of the
greatest number (`shortest_le_greatestDecimal`).

A decimal that the search finds lies in the cell of the number, next to its value on the grid. The
value is less than the power of ten that its scale names, so a grid of some digits has no more of
them in front of it. The two cases of the search, with units that are finer or with steps that are
greater, are one case here: one of the two factors is always one.
-/

import Mathlib.Tactic.Linarith
import Mathlib.Tactic.Ring
import SessionForge.Binary64.Shortest
import SessionForge.Proofs.Binary64.Rounding

namespace SessionForge.Binary64

namespace Cell

/-! ### One grid -/

theorem bounds_of_holds {cell : Cell} {point : Nat} (holds : cell.holds point = true) :
    cell.lower ≤ point ∧ point ≤ cell.upper := by
  rw [Cell.holds] at holds
  split at holds
  · simpa using holds
  · simp only [Bool.and_eq_true, decide_eq_true_eq] at holds
    exact ⟨Nat.le_of_lt holds.1, Nat.le_of_lt holds.2⟩

/-- A point of the grid that is found lies in the cell, and is a neighbour of its value. -/
theorem of_onGrid? {cell : Cell} {step digits : Nat} (found : cell.onGrid? step = some digits) :
    cell.lower ≤ digits * step ∧ digits * step ≤ cell.upper ∧ digits ≤ cell.value / step + 1 := by
  simp only [Cell.onGrid?] at found
  split_ifs at found <;> simp_all [bounds_of_holds]

/-- What a search looks at for some power: a grid of steps, of which the units may be finer. -/
theorem onGrid?_of_power (cell : Cell) (one : Nat) (power : Int) :
    (if power < 0 then (cell.scale (Nat.pow 10 (-power).toNat)).onGrid? one
      else cell.onGrid? (one * Nat.pow 10 power.toNat)) =
    (cell.scale (10 ^ (-power).toNat)).onGrid? (one * 10 ^ power.toNat) := by
  split
  · next negative =>
    rw [Int.toNat_of_nonpos (Int.le_of_lt negative), Nat.pow_zero, Nat.mul_one]
    rfl
  · next up =>
    rw [Int.toNat_of_nonpos (by omega : -power ≤ 0), Nat.pow_zero]
    simp only [Cell.scale, Nat.mul_one]
    rfl

/-! ### The scale -/

theorem stepsUpTo_spec {goal bound n steps : Nat} (isSteps : stepsUpTo goal bound n = steps + 1) :
    n * 10 ^ steps < goal := by
  induction bound generalizing n steps with
  | zero => cases isSteps
  | succ bound inductionHypothesis =>
    rw [stepsUpTo] at isSteps
    split at isSteps
    · cases isSteps
    · next short =>
      cases steps with
      | zero => omega
      | succ steps =>
        have later := inductionHypothesis (Nat.succ.inj isSteps)
        rwa [Nat.mul_assoc, ← Nat.pow_succ'] at later

/-- The value of a cell is less than the power of ten that its scale names. -/
theorem lt_scaleOf (cell : Cell) {one : Nat} (positive : 0 < one) :
    cell.value * 10 ^ (-cell.scaleOf one).toNat < one * 10 ^ (cell.scaleOf one).toNat := by
  rw [Cell.scaleOf]
  split
  · generalize isLength : (Nat.toDigits 10 (cell.value / one)).length = length
    have longEnough := (Nat.length_toDigits_le_iff (by decide)
      (isLength ▸ Nat.length_toDigits_pos)).1 (Nat.le_of_eq isLength)
    rw [Int.toNat_of_nonpos (by omega : -(length : Int) ≤ 0), Int.toNat_natCast, Nat.pow_zero,
      Nat.mul_one, Nat.mul_comm]
    exact (Nat.div_lt_iff_lt_mul positive).1 longEnough
  · next small =>
    have isSteps : ∃ steps, stepsUpTo one 400 cell.value = steps + 1 :=
      ⟨_, by rw [stepsUpTo, if_neg small]⟩
    obtain ⟨steps, isSteps⟩ := isSteps
    rw [isSteps, show (-(1 - ((steps + 1 : Nat) : Int))).toNat = steps by omega,
      show (1 - ((steps + 1 : Nat) : Int)).toNat = 0 by omega, Nat.pow_zero, Nat.mul_one]
    exact stepsUpTo_spec isSteps

/-! ### The search -/

/-- What a search finds on one grid has no more digits than the grid in front of the cell, and lies
in the cell. A carry to the next power of ten is written as that power. -/
theorem spec_of_grid {cell : Cell} {one : Nat} (positive : 0 < one) {scale power : Int}
    (isScale : cell.value * 10 ^ (-scale).toNat < one * 10 ^ scale.toNat) {count digits : Nat}
    (isPower : scale - (count : Int) = power)
    (found : (cell.scale (10 ^ (-power).toNat)).onGrid? (one * 10 ^ power.toNat) = some digits) :
    (0 < cell.lower → 0 < digits) ∧ digits ≤ 10 ^ count ∧
      (0 ≤ power → digits * 10 ^ power.toNat * one ≤ cell.upper) ∧
      (digits = 10 ^ count → 0 ≤ scale → 10 ^ scale.toNat * one ≤ cell.upper) := by
  obtain ⟨above, inside, neighbour⟩ := of_onGrid? found
  simp only [Cell.scale] at above inside neighbour
  have finer : 0 < 10 ^ (-power).toNat := Nat.pow_pos (by decide)
  have coarser : 0 < 10 ^ power.toNat := Nat.pow_pos (by decide)
  -- The powers of ten on both sides make up for each other.
  have powers : 10 ^ power.toNat * 10 ^ (-scale).toNat * 10 ^ count =
      10 ^ (-power).toNat * 10 ^ scale.toNat := by
    rw [← Nat.pow_add, ← Nat.pow_add, ← Nat.pow_add]
    congr 1
    omega
  refine ⟨fun lower => ?nonzero, ?few, fun up => ?within, fun carries up => ?carried⟩
  case nonzero =>
    refine Nat.pos_of_ne_zero fun isZero => ?_
    rw [isZero, Nat.zero_mul] at above
    exact absurd above (Nat.not_le.2 (Nat.mul_pos lower finer))
  case few =>
    have below : cell.value * 10 ^ (-power).toNat < 10 ^ count * (one * 10 ^ power.toNat) := by
      refine Nat.lt_of_mul_lt_mul_right (a := 10 ^ (-scale).toNat) ?_
      calc cell.value * 10 ^ (-power).toNat * 10 ^ (-scale).toNat
          = cell.value * 10 ^ (-scale).toNat * 10 ^ (-power).toNat := by ring
        _ < one * 10 ^ scale.toNat * 10 ^ (-power).toNat :=
            Nat.mul_lt_mul_of_pos_right isScale finer
        _ = one * (10 ^ (-power).toNat * 10 ^ scale.toNat) := by ring
        _ = one * (10 ^ power.toNat * 10 ^ (-scale).toNat * 10 ^ count) := by rw [powers]
        _ = 10 ^ count * (one * 10 ^ power.toNat) * 10 ^ (-scale).toNat := by ring
    have quotient := (Nat.div_lt_iff_lt_mul (Nat.mul_pos positive coarser)).2 below
    omega
  case within =>
    rw [Int.toNat_of_nonpos (by omega : -power ≤ 0), Nat.pow_zero, Nat.mul_one] at inside
    calc digits * 10 ^ power.toNat * one = digits * (one * 10 ^ power.toNat) := by ring
      _ ≤ cell.upper := inside
  case carried =>
    rw [Int.toNat_of_nonpos (by omega : -scale ≤ 0), Nat.pow_zero, Nat.mul_one] at powers
    refine Nat.le_of_mul_le_mul_right ?_ finer
    calc 10 ^ scale.toNat * one * 10 ^ (-power).toNat
        = 10 ^ (-power).toNat * 10 ^ scale.toNat * one := by ring
      _ = 10 ^ power.toNat * 10 ^ count * one := by rw [powers]
      _ = digits * (one * 10 ^ power.toNat) := by rw [carries]; ring
      _ ≤ cell.upper * 10 ^ (-power).toNat := inside

/-- A decimal that is found has no more digits than a search goes up to, and does not go beyond the
cell. It is not zero, unless nothing is found. -/
theorem search_spec {cell : Cell} {one : Nat} (positive : 0 < one) {scale : Int}
    (isScale : cell.value * 10 ^ (-scale).toNat < one * 10 ^ scale.toNat) (more count : Nat)
    {decimal : Decimal} (isFound : cell.search one scale more count = decimal) :
    decimal.digits ≤ 10 ^ (count + more - 1) ∧
      (0 ≤ decimal.power → decimal.digits * 10 ^ decimal.power.toNat * one ≤ cell.upper) ∧
      (0 < cell.lower → 0 < decimal.digits ∨ decimal = ⟨0, 0⟩) := by
  induction more generalizing count with
  | zero =>
    obtain rfl := isFound
    exact ⟨Nat.zero_le _, fun _ => by simp [Cell.search], fun _ => .inr rfl⟩
  | succ more inductionHypothesis =>
    rw [Cell.search] at isFound
    simp only [onGrid?_of_power] at isFound
    split at isFound
    · next digits found =>
      obtain ⟨nonzero, few, within, carried⟩ := spec_of_grid positive isScale rfl found
      split at isFound
      · next carries =>
        obtain rfl := isFound
        exact ⟨Nat.pow_pos (by decide), fun up => by simpa using carried carries up,
          fun _ => .inl Nat.one_pos⟩
      · obtain rfl := isFound
        exact ⟨few.trans (Nat.pow_le_pow_right (by decide) (Nat.le_add_right count more)), within,
          fun lower => .inl (nonzero lower)⟩
    · rw [Nat.add_comm more, ← Nat.add_assoc]
      exact inductionHypothesis (count + 1) isFound

end Cell

/-! ### The decimal of a number -/

theorem twoUnitsPerOne_pos : 0 < 2 * unitsPerOne :=
  Nat.mul_pos (by decide) unitsPerOne_pos

theorem shortest_of_nonzero {x : Binary64} (nonzero : x.isZero = false) :
    x.shortest = (cellOf x.magnitude).search (2 * unitsPerOne)
      ((cellOf x.magnitude).scaleOf (2 * unitsPerOne)) 17 1 :=
  if_neg (Bool.eq_false_iff.1 nonzero)

theorem shortest_spec {x : Binary64} (nonzero : x.isZero = false) :
    x.shortest.digits ≤ 10 ^ 17 ∧
      (0 ≤ x.shortest.power →
        x.shortest.digits * 10 ^ x.shortest.power.toNat * (2 * unitsPerOne) ≤
          (cellOf x.magnitude).upper) ∧
      (0 < (cellOf x.magnitude).lower → 0 < x.shortest.digits ∨ x.shortest = ⟨0, 0⟩) :=
  Cell.search_spec twoUnitsPerOne_pos (Cell.lt_scaleOf (cellOf x.magnitude) twoUnitsPerOne_pos)
    17 1 (shortest_of_nonzero nonzero).symm

/-- A number is written with seventeen digits at most. -/
theorem digits_shortest_le (x : Binary64) : x.shortest.digits ≤ 10 ^ 17 := by
  cases zero : x.isZero with
  | true =>
    rw [shortest, if_pos zero]
    exact Nat.zero_le _
  | false => exact (shortest_spec zero).1

/-- No decimal but the plain zero is without a digit other than zero. -/
theorem digits_shortest_pos (x : Binary64) : 0 < x.shortest.digits ∨ x.shortest = ⟨0, 0⟩ := by
  cases zero : x.isZero with
  | true => exact .inr (if_pos zero)
  | false =>
    have nonzero : 1 ≤ x.magnitude := Nat.one_le_iff_ne_zero.2 (by simpa [isZero] using zero)
    have unit : unitsOf 1 = 1 := by decide
    have least := unitsOf_mono nonzero
    exact (shortest_spec zero).2.2 (by simp only [cellOf]; omega)

/-- The greatest number is written as the greatest decimal. -/
theorem shortest_of_greatest {x : Binary64} (greatest : x.magnitude = 2047 * 2 ^ 52 - 1) :
    x.shortest = ⟨17976931348623157, 292⟩ := by
  have isDecimal : ∀ negative, shortest ⟨negative, 2047 * 2 ^ 52 - 1, by decide⟩ =
      ⟨17976931348623157, 292⟩ := by
    decide +kernel
  obtain ⟨negative, _, _⟩ := x
  obtain rfl := greatest
  exact isDecimal negative

/-- The digits of a number do not go beyond the greatest decimal, even if they are scaled up. -/
theorem shortest_le_greatestDecimal (x : Binary64) :
    x.shortest.digits * 10 ^ x.shortest.power.toNat ≤ greatestDecimal := by
  rcases Int.le_total x.shortest.power 0 with down | up
  · rw [Int.toNat_of_nonpos down, Nat.pow_zero, Nat.mul_one]
    calc x.shortest.digits ≤ 10 ^ 17 := x.digits_shortest_le
      _ ≤ 10 ^ 292 := Nat.pow_le_pow_right (by decide) (by decide)
      _ ≤ greatestDecimal := Nat.le_mul_of_pos_left _ (by decide)
  by_cases greatest : x.magnitude = 2047 * 2 ^ 52 - 1
  · rw [shortest_of_greatest greatest]
    exact Nat.le_refl _
  cases zero : x.isZero with
  | true =>
    rw [shortest, if_pos zero, Nat.zero_mul]
    exact Nat.zero_le _
  | false =>
    have within := (shortest_spec zero).2.1 up
    have finite := x.finite
    have pow : Nat.pow 2 52 = 2 ^ 52 := rfl
    have least : (cellOf x.magnitude).upper ≤ greatestDecimal * (2 * unitsPerOne) := by
      have below : unitsOf (2047 * 2 ^ 52 - 2) + unitsOf (2047 * 2 ^ 52 - 1) ≤
          greatestDecimal * (2 * unitsPerOne) := by decide +kernel
      refine Nat.le_trans (Nat.add_le_add ?_ ?_) below
      · exact unitsOf_mono (by omega)
      · exact unitsOf_mono (by omega)
    exact Nat.le_of_mul_le_mul_right (within.trans least) twoUnitsPerOne_pos

end SessionForge.Binary64
