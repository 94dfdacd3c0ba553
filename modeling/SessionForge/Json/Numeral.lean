/-
The value of a written number. A number without fraction and exponent that fits in 64 bits is an
integer; every other one is a floating-point number, found from at most as many leading digits as
fit in 64 bits and one power of ten. That value is close to the written one without always being the
nearest, and a written zero with a minus sign is a floating-point zero.
-/

import SessionForge.Json.Value

namespace SessionForge.Json

/-- A written number: its digits before the point, after it, and in the exponent. -/
structure Numeral where
  negative : Bool
  whole : List Nat
  fraction : Option (List Nat)
  exponent : Option (Bool × List Nat)
  deriving DecidableEq

namespace Numeral

/-- The greatest value of 64 bits. -/
def greatest : Nat :=
  Nat.pow 2 64 - 1

/-- Appends digits to a number as long as it fits in 64 bits; also the digits left over. -/
def gather (n : Nat) : List Nat → Nat × List Nat
  | [] => (n, [])
  | digit :: rest =>
    if n * 10 + digit ≤ greatest then gather (n * 10 + digit) rest else (n, digit :: rest)

/-- The number that some digits spell. -/
def ofDigits (digits : List Nat) : Nat :=
  digits.foldl (fun n digit => n * 10 + digit) 0

/-- The digits that count, as one number, and the power of ten that the point gives it. -/
def leading (numeral : Numeral) : Nat × Int :=
  let (n, unread) := gather 0 numeral.whole
  match numeral.fraction with
  | none => (n, unread.length)
  | some digits =>
    let (n, dropped) := gather n digits
    (n, (unread.length : Int) - ((digits.length - dropped.length : Nat) : Int))

/-- The largest exponent that is taken at its word. -/
def greatestExponent : Nat :=
  Nat.pow 2 31 - 1

/-- The absolute value as a floating-point number, unless it is too large for one. -/
def magnitude? (numeral : Numeral) : Option Binary64 :=
  let (n, power) := numeral.leading
  match numeral.exponent with
  | none => Binary64.scaled? n power
  | some (down, digits) =>
    let exponent := ofDigits digits
    if greatestExponent < exponent then
      if n ≠ 0 ∧ down = false then none else some (Binary64.zero false)
    else Binary64.scaled? n (if down then power - exponent else power + exponent)

/-- The floating-point number, with its sign. -/
def float? (numeral : Numeral) : Option Number :=
  numeral.magnitude?.map fun x => .float (if numeral.negative then x.negate else x)

/-- Whether the number is written without fraction and exponent. -/
def isWhole (numeral : Numeral) : Bool :=
  numeral.fraction.isNone && numeral.exponent.isNone

/-- The value of a written number, unless it is too large. -/
def value? (numeral : Numeral) : Option Number :=
  let n := ofDigits numeral.whole
  if numeral.isWhole && !numeral.negative && n ≤ greatest then some (.integer n)
  else if numeral.isWhole && numeral.negative && n ≠ 0 && n ≤ Nat.pow 2 63 then some (.integer (-n))
  else numeral.float?

end Numeral

end SessionForge.Json
