/-
Finite binary floating-point numbers of 64 bits. The nonnegative ones are counted in ascending
order, from zero at 0, so the count (`magnitude`) is also the bit pattern: the number with count `m`
has exponent field `m / 2^52` and fraction field `m % 2^52`. Every operation rounds an exact ratio
of natural numbers to the nearest count, a half to the even one, so nothing here rests on the
machine's own arithmetic.
-/

namespace SessionForge

/-- A finite number of 64 bits: a sign, and the place of the absolute value among all of them. -/
structure Binary64 where
  negative : Bool
  magnitude : Nat
  finite : magnitude < 2047 * Nat.pow 2 52
  deriving DecidableEq

namespace Binary64

/-! ### The value of a count -/

/-- The integer that the fraction field stands for, with the hidden bit of normal numbers. -/
def significandOf (magnitude : Nat) : Nat :=
  if magnitude < Nat.pow 2 52 then magnitude else Nat.pow 2 52 + magnitude % Nat.pow 2 52

/-- How many times the significand is doubled, counted from the smallest number's 2^-1074. -/
def shiftOf (magnitude : Nat) : Nat :=
  magnitude / Nat.pow 2 52 - 1

/-- The absolute value of a count, in units of 2^-1074. -/
def unitsOf (magnitude : Nat) : Nat :=
  significandOf magnitude * Nat.pow 2 (shiftOf magnitude)

/-- The unit in which `unitsOf` counts is one over this. -/
def unitsPerOne : Nat :=
  Nat.pow 2 1074

/-- The absolute value, in units of 2^-1074. -/
def units (x : Binary64) : Nat :=
  unitsOf x.magnitude

/-- Whether the number is zero, of either sign. -/
def isZero (x : Binary64) : Bool :=
  x.magnitude == 0

/-- The number with the other sign. -/
def negate (x : Binary64) : Binary64 :=
  { x with negative := !x.negative }

/-! ### Rounding -/

/-- The quotient of two natural numbers, rounded to the nearest, a half to the even one. -/
def roundQuotient (numerator denominator : Nat) : Nat :=
  let quotient := numerator / denominator
  let twice := 2 * (numerator % denominator)
  if twice < denominator then quotient
  else if denominator < twice then quotient + 1
  else if quotient % 2 = 0 then quotient
  else quotient + 1

/-- The count of the number nearest to a ratio, as if there were no largest one. The significand
`s` at shift `k` has count `k * 2^52 + s`, and that stays right when rounding carries `s` to the
next power of two. -/
def magnitudeOfRatio (numerator denominator : Nat) : Nat :=
  let scaled := numerator * unitsPerOne
  let guess := Nat.log2 (scaled / denominator) - 52
  let shift := if scaled / denominator < Nat.pow 2 53 then 0 else guess
  shift * Nat.pow 2 52 + roundQuotient scaled (denominator * Nat.pow 2 shift)

/-- The number nearest to a ratio, unless it is too large for every finite one. -/
def ofRatio? (negative : Bool) (numerator denominator : Nat) : Option Binary64 :=
  if finite : magnitudeOfRatio numerator denominator < 2047 * Nat.pow 2 52 then
    some ⟨negative, magnitudeOfRatio numerator denominator, finite⟩
  else none

/-- Zero. -/
def zero (negative : Bool) : Binary64 :=
  ⟨negative, 0, by decide⟩

/-- The number nearest to a natural number. -/
def ofNat? (n : Nat) : Option Binary64 :=
  ofRatio? false n 1

/-- The product of two numbers. -/
def mul? (x y : Binary64) : Option Binary64 :=
  ofRatio? (x.negative != y.negative) (x.units * y.units) (unitsPerOne * unitsPerOne)

/-- The quotient of two numbers, the second not zero. -/
def div? (x y : Binary64) : Option Binary64 :=
  ofRatio? (x.negative != y.negative) x.units y.units

/-! ### Decimal scaling -/

/-- Divides by a power of ten, in steps of at most 10^308, each rounded; `steps` bounds their
number. -/
def shrink : Nat → Binary64 → Nat → Option Binary64
  | 0, x, power => (ofNat? (Nat.pow 10 power)).bind x.div?
  | steps + 1, x, power =>
    if power ≤ 308 then (ofNat? (Nat.pow 10 power)).bind x.div?
    else if x.isZero then some x
    else do
      let tenth ← (ofNat? (Nat.pow 10 308)).bind x.div?
      shrink steps tenth (power - 308)

/-- A natural number times a power of ten, by one multiplication with the number nearest to the
power, or by divisions: quick, and not always the number nearest to the product. -/
def scaled? (n : Nat) (power : Int) : Option Binary64 := do
  let x ← ofNat? n
  if power < 0 then shrink ((-power).toNat / 308) x (-power).toNat
  else if power ≤ 308 then (ofNat? (Nat.pow 10 power.toNat)).bind x.mul?
  else if x.isZero then some x
  else none

/-- The number nearest to a natural number times a power of ten. -/
def nearest? (negative : Bool) (n : Nat) (power : Int) : Option Binary64 :=
  if power < 0 then ofRatio? negative n (Nat.pow 10 (-power).toNat)
  else ofRatio? negative (n * Nat.pow 10 power.toNat) 1

end Binary64

end SessionForge
