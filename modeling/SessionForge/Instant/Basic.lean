/-
Instants: a date of the proleptic Gregorian calendar and a time of day in universal time, to the
nanosecond. Any minute may have a leap second, which is kept as a second 59 with a full second of
nanoseconds more. Dates have years from -262143 to 262142.
-/

namespace SessionForge

/-- Whether a year has a 29th of February. -/
def isLeapYear (year : Int) : Bool :=
  year % 4 == 0 && (year % 100 != 0 || year % 400 == 0)

/-- The number of days of a month. -/
def daysInMonth (year : Int) (month : Nat) : Nat :=
  if month = 2 then if isLeapYear year then 29 else 28
  else if month = 4 ∨ month = 6 ∨ month = 9 ∨ month = 11 then 30
  else 31

/-- A date of the calendar. -/
structure Date where
  year : Int
  month : Nat
  day : Nat
  deriving DecidableEq

namespace Date

/-- Whether a date is in the calendar. -/
def IsValid (date : Date) : Prop :=
  -262143 ≤ date.year ∧ date.year ≤ 262142 ∧ 1 ≤ date.month ∧ date.month ≤ 12 ∧
    1 ≤ date.day ∧ date.day ≤ daysInMonth date.year date.month

instance (date : Date) : Decidable date.IsValid := by
  unfold IsValid
  infer_instance

/-- The day after. -/
def next (date : Date) : Date :=
  if date.day < daysInMonth date.year date.month then { date with day := date.day + 1 }
  else if date.month < 12 then ⟨date.year, date.month + 1, 1⟩
  else ⟨date.year + 1, 1, 1⟩

/-- The day before. -/
def previous (date : Date) : Date :=
  if 1 < date.day then { date with day := date.day - 1 }
  else if 1 < date.month then
    ⟨date.year, date.month - 1, daysInMonth date.year (date.month - 1)⟩
  else ⟨date.year - 1, 12, 31⟩

end Date

/-- A time of day. -/
structure TimeOfDay where
  hour : Nat
  minute : Nat
  second : Nat
  nanosecond : Nat
  deriving DecidableEq

/-- Whether a time of day is on the clock; a leap second is the second half of a second 59. -/
def TimeOfDay.IsValid (time : TimeOfDay) : Prop :=
  time.hour < 24 ∧ time.minute < 60 ∧ time.second < 60 ∧
    (time.nanosecond < 1000000000 ∨ time.second = 59 ∧ time.nanosecond < 2000000000)

instance (time : TimeOfDay) : Decidable time.IsValid := by
  unfold TimeOfDay.IsValid
  infer_instance

/-- A date and a time of day in universal time. -/
structure Instant where
  date : Date
  time : TimeOfDay
  dateValid : date.IsValid
  timeValid : time.IsValid
  deriving DecidableEq

/-- The instant of a date and a time of day, if both are valid. -/
def Instant.of? (date : Date) (time : TimeOfDay) : Option Instant :=
  if valid : date.IsValid ∧ time.IsValid then some ⟨date, time, valid.1, valid.2⟩ else none

/-- The instant at which clocks that are some minutes ahead of universal time show a date and a time
of day. -/
def Instant.ofLocal? (date : Date) (time : TimeOfDay) (ahead : Int) : Option Instant :=
  let minutes := (time.hour * 60 + time.minute : Nat) - ahead
  let shifted := (minutes % 1440).toNat
  let time := { time with hour := shifted / 60, minute := shifted % 60 }
  if minutes < 0 then Instant.of? date.previous time
  else if minutes < 1440 then Instant.of? date time
  else Instant.of? date.next time

end SessionForge
