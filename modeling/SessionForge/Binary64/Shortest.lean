/-
The shortest decimal spelling of a floating-point number: of all decimals that round to the number,
those with the fewest digits, and of them the nearest. A number of digits fixes a grid of powers of
ten; if any point of that grid rounds to the number, then one of the number's two neighbours on the
grid does, so only these two are tried, on grids of one digit, two digits, and so on to seventeen.
-/

import SessionForge.Binary64.Basic

namespace SessionForge

/-- A natural number times a power of ten. -/
structure Decimal where
  digits : Nat
  power : Int
  deriving DecidableEq

namespace Binary64

/-- The points that round to a number: scaled by a common factor, the number itself, the midpoints
to its neighbours, and whether the midpoints still round to it. -/
structure Cell where
  value : Nat
  lower : Nat
  upper : Nat
  closed : Bool

/-- The cell of a count other than zero, in units of 2^-1075. -/
def cellOf (magnitude : Nat) : Cell where
  value := 2 * unitsOf magnitude
  lower := unitsOf (magnitude - 1) + unitsOf magnitude
  upper := unitsOf magnitude + unitsOf (magnitude + 1)
  closed := magnitude % 2 == 0

/-- Whether a point lies in a cell. -/
def Cell.holds (cell : Cell) (point : Nat) : Bool :=
  if cell.closed then cell.lower ≤ point && point ≤ cell.upper
  else cell.lower < point && point < cell.upper

/-- The cell in units that are ten to a power finer. -/
def Cell.scale (cell : Cell) (factor : Nat) : Cell :=
  { cell with
    value := cell.value * factor
    lower := cell.lower * factor
    upper := cell.upper * factor }

/-- The best point of a cell on the grid of the multiples of `step`, as a multiple. Of two equally
near points the even multiple is taken. -/
def Cell.onGrid? (cell : Cell) (step : Nat) : Option Nat :=
  let below := cell.value / step
  let lowFits := cell.holds (below * step)
  let highFits := cell.holds ((below + 1) * step)
  let toLow := cell.value - below * step
  let toHigh := (below + 1) * step - cell.value
  if lowFits && highFits then
    if toLow < toHigh then some below
    else if toHigh < toLow then some (below + 1)
    else if below % 2 = 0 then some below
    else some (below + 1)
  else if lowFits then some below
  else if highFits then some (below + 1)
  else none

/-- How many tenfold steps lift a number to at least `goal`; `bound` limits the search. -/
def stepsUpTo (goal : Nat) : Nat → Nat → Nat
  | 0, _ => 0
  | bound + 1, n => if goal ≤ n then 0 else stepsUpTo goal bound (n * 10) + 1

/-- The number of decimal digits before the point, or minus the number of zeros after it. -/
def Cell.scaleOf (cell : Cell) (one : Nat) : Int :=
  if one ≤ cell.value then ((Nat.toDigits 10 (cell.value / one)).length : Int)
  else 1 - (stepsUpTo one 400 cell.value : Int)

/-- The shortest decimal in a cell, tried from `count` digits on, `more` times. A neighbour that
carries to the next power of ten is that power. -/
def Cell.search (cell : Cell) (one : Nat) (scale : Int) : Nat → Nat → Decimal
  | 0, _ => ⟨0, 0⟩
  | more + 1, count =>
    let power := scale - (count : Int)
    let found :=
      if power < 0 then (cell.scale (Nat.pow 10 (-power).toNat)).onGrid? one
      else cell.onGrid? (one * Nat.pow 10 power.toNat)
    match found with
    | some digits => if digits = Nat.pow 10 count then ⟨1, scale⟩ else ⟨digits, power⟩
    | none => Cell.search cell one scale more (count + 1)

/-- The fewest digits that read back as the absolute value of a number other than zero. -/
def shortest (x : Binary64) : Decimal :=
  if x.isZero then ⟨0, 0⟩
  else
    let cell := cellOf x.magnitude
    let one := 2 * unitsPerOne
    cell.search one (cell.scaleOf one) 17 1

end Binary64

end SessionForge
