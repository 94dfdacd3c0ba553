/-
Printing instants, always in universal time: the fraction of the second has the fewest of none,
three, six or nine digits that keep its value, and years of other than four digits carry a sign.
-/

import SessionForge.Instant.Basic

namespace SessionForge.Instant

/-- A number with at least some digits, with zeros in front. -/
def padded (width n : Nat) : List Char :=
  let digits := Nat.toDigits 10 n
  List.replicate (width - digits.length) '0' ++ digits

/-- A year. -/
def printYear (year : Int) : List Char :=
  if 0 ≤ year ∧ year ≤ 9999 then padded 4 year.toNat
  else (if year < 0 then '-' else '+') :: padded 4 year.natAbs

/-- The fraction of a second. -/
def printFraction (nanosecond : Nat) : List Char :=
  if nanosecond = 0 then []
  else if nanosecond % 1000000 = 0 then '.' :: padded 3 (nanosecond / 1000000)
  else if nanosecond % 1000 = 0 then '.' :: padded 6 (nanosecond / 1000)
  else '.' :: padded 9 nanosecond

/-- The seconds of a time of day, of which a leap second is the sixtieth, and their fraction. -/
def printSeconds (time : TimeOfDay) : List Char :=
  if time.nanosecond < 1000000000 then padded 2 time.second ++ printFraction time.nanosecond
  else padded 2 (time.second + 1) ++ printFraction (time.nanosecond - 1000000000)

/-- The characters of an instant. -/
def print (instant : Instant) : List Char :=
  printYear instant.date.year ++ '-' :: padded 2 instant.date.month
    ++ '-' :: padded 2 instant.date.day ++ 'T' :: padded 2 instant.time.hour
    ++ ':' :: padded 2 instant.time.minute ++ ':' :: printSeconds instant.time ++ ['Z']

/-- The text of an instant. -/
def render (instant : Instant) : String :=
  String.ofList instant.print

end SessionForge.Instant
