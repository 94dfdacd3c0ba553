/-
Reading dates with times. The form is `year-month-day`, a `T` or a blank, `hour:minute:second` with
an optional fraction, and a distance from universal time, which may also be `Z` or `UTC`. The reader
is generous: white space may stand around every part, parts may have one digit, years may carry a
sign and then any number of digits, and of a longer fraction the first nine digits count.
-/

import SessionForge.Instant.Basic
import SessionForge.Reading.Mismatch
import SessionForge.Text.Blank

namespace SessionForge.Instant

/-- The text from its first character on that is not white space. -/
def trimStart (input : List Char) : List Char :=
  input.dropWhile isWhiteSpace

/-- The value of a decimal digit. -/
def digit? (c : Char) : Option Nat :=
  if '0' ≤ c ∧ c ≤ '9' then some (c.toNat - 48) else none

/-- At most some digits at the front of a text, appended to a number. -/
def takeDigits : Nat → Nat → List Char → Nat × List Char
  | 0, n, input => (n, input)
  | _ + 1, n, [] => (n, [])
  | limit + 1, n, c :: rest =>
    match digit? c with
    | some value => takeDigits limit (n * 10 + value) rest
    | none => (n, c :: rest)

/-- A number of at least one and at most some digits. -/
def number (limit : Nat) (input : List Char) : Except InstantError (Nat × List Char) :=
  match input with
  | [] => .error .tooShort
  | c :: _ => if (digit? c).isSome then .ok (takeDigits limit 0 input) else .error .invalid

/-- A number of one or two digits in a range, after white space. -/
def field (least greatest : Nat) (input : List Char) : Except InstantError (Nat × List Char) := do
  let (n, rest) ← number 2 (trimStart input)
  if least ≤ n ∧ n ≤ greatest then return (n, rest) else throw .outOfRange

/-- A mark between two parts, after white space. -/
def mark (wanted : Char) (input : List Char) : Except InstantError (List Char) :=
  match trimStart input with
  | [] => .error .tooShort
  | c :: rest => if c = wanted then .ok rest else .error .invalid

/-- A year, of at most four digits unless it has a sign. -/
def readYear (input : List Char) : Except InstantError (Int × List Char) := do
  let input := trimStart input
  let (year, rest) ←
    match input with
    | '-' :: rest => (number rest.length rest).map fun (n, rest) => (-(n : Int), rest)
    | '+' :: rest => (number rest.length rest).map fun (n, rest) => ((n : Int), rest)
    | _ => (number 4 input).map fun (n, rest) => ((n : Int), rest)
  if -2147483648 ≤ year ∧ year ≤ 2147483647 then return (year, rest) else throw .outOfRange

/-- A date. -/
def readDate (input : List Char) : Except InstantError (Date × List Char) := do
  let (year, rest) ← readYear input
  let (month, rest) ← field 1 12 (← mark '-' rest)
  let (day, rest) ← field 1 31 (← mark '-' rest)
  return (⟨year, month, day⟩, rest)

/-- What stands between the date and the time. -/
def separator (input : List Char) : Except InstantError (List Char) :=
  match input with
  | [] => .error .tooShort
  | c :: rest => if c = 't' ∨ c = 'T' ∨ c = ' ' then .ok rest else .error .invalid

/-- The fraction of a second in nanoseconds; digits after the ninth are passed over. -/
def readFraction (input : List Char) : Except InstantError (Nat × List Char) :=
  match input with
  | '.' :: rest => do
    let (n, after) ← number 9 rest
    let read := rest.length - after.length
    return (n * Nat.pow 10 (9 - read), after.dropWhile fun c => (digit? c).isSome)
  | _ => .ok (0, input)

/-- A time of day; a second 60 is a leap second. -/
def readTime (input : List Char) : Except InstantError (TimeOfDay × List Char) := do
  let (hour, rest) ← field 0 23 input
  let (minute, rest) ← field 0 59 (← mark ':' rest)
  let (second, rest) ← field 0 60 (← mark ':' rest)
  let (nanosecond, rest) ← readFraction rest
  if second = 60 then return (⟨hour, minute, 59, nanosecond + 1000000000⟩, rest)
  else return (⟨hour, minute, second, nanosecond⟩, rest)

/-- Two digits. A single character is too short only if it takes one byte. -/
def twoDigits (input : List Char) : Except InstantError ((Nat × Nat) × List Char) :=
  match input with
  | [] => .error .tooShort
  | [c] => if c.toNat < 0x80 then .error .tooShort else .error .invalid
  | a :: b :: rest =>
    match digit? a, digit? b with
    | some a, some b => .ok ((a, b), rest)
    | _, _ => .error .invalid

/-- The distance from universal time in minutes, after its sign. -/
def readMinutesAhead (input : List Char) : Except InstantError (Nat × List Char) := do
  let ((h₁, h₂), rest) ← twoDigits input
  let rest := rest.dropWhile fun c => c = ':' || isWhiteSpace c
  let ((m₁, m₂), rest) ← twoDigits rest
  if m₁ ≤ 5 then return ((h₁ * 10 + h₂) * 60 + m₁ * 10 + m₂, rest) else throw .outOfRange

/-- The distance from universal time in minutes. -/
def readOffset (input : List Char) : Except InstantError (Int × List Char) :=
  match trimStart input with
  | [] => .error .tooShort
  | c :: rest =>
    if c = 'Z' ∨ c = 'z' then .ok (0, rest)
    else if String.ofList ((c :: rest.take 2).map Char.toUpper) = "UTC" then .ok (0, rest.drop 2)
    else if c = '+' then (readMinutesAhead rest).map fun (n, rest) => ((n : Int), rest)
    else if c = '-' ∨ c = '−' then (readMinutesAhead rest).map fun (n, rest) => (-(n : Int), rest)
    else .error .invalid

/-- Reads the text of a date with its time. -/
def parse (text : String) : Except InstantError Instant := do
  let (date, rest) ← readDate text.toList
  let (time, rest) ← readTime (← separator rest)
  let (ahead, rest) ← readOffset rest
  if !(trimStart rest).isEmpty then throw .trailing
  if ¬ date.IsValid then throw .outOfRange
  if 1440 ≤ ahead.natAbs then throw .outOfRange
  match Instant.ofLocal? date time ahead with
  | some instant => return instant
  | none => throw .impossible

end SessionForge.Instant
