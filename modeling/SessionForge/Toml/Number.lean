/-
Numbers, dates and times of settings documents. Integers have 64 bits and may be written in four
bases; floating-point numbers are the nearest to what is written; single underscores may stand
between digits. A date is `year-month-day`, a time `hour:minute:second` with an optional fraction,
and a date with a time may have a distance from universal time.
-/

import SessionForge.Instant.Basic
import SessionForge.Toml.Text
import SessionForge.Toml.Value

namespace SessionForge.Toml

/-- The value of a digit of some base. -/
def digit? (base : Nat) (c : Char) : Option Nat :=
  (hexValue? c).filter fun value => value < base

/-- Reads more digits of a number; an underscore must have a digit after it. -/
def moreDigits? (base : Nat) : List Char → Option (List Nat × List Char)
  | [] => some ([], [])
  | ['_'] => none
  | '_' :: c :: rest =>
    match digit? base c with
    | some value => (moreDigits? base rest).map fun (digits, rest) => (value :: digits, rest)
    | none => none
  | c :: rest =>
    match digit? base c with
    | some value => (moreDigits? base rest).map fun (digits, rest) => (value :: digits, rest)
    | none => some ([], c :: rest)

/-- Reads digits of a base, of which there must be one. -/
def digits? (base : Nat) : List Char → Option (List Nat × List Char)
  | c :: rest => do
    let value ← digit? base c
    let (digits, rest) ← moreDigits? base rest
    return (value :: digits, rest)
  | [] => none

/-- Reads decimal digits that begin with a zero only if it is the only one. -/
def wholeDigits? : List Char → Option (List Nat × List Char)
  | '0' :: rest => some ([0], rest)
  | input => digits? 10 input

/-- Takes a sign, if there is one; whether it is a minus. -/
def takeSign : List Char → Bool × List Char
  | '+' :: rest => (false, rest)
  | '-' :: rest => (true, rest)
  | input => (false, input)

/-- The number that digits of a base spell. -/
def ofDigits (base : Nat) (digits : List Nat) : Nat :=
  digits.foldl (fun n digit => n * base + digit) 0

/-! ### Integers and floating-point numbers -/

/-- The integer of a sign and an absolute value, if it fits in 64 bits. -/
def integer? (negative : Bool) (n : Nat) : Option Toml :=
  let value : Int := if negative then -n else n
  if -9223372036854775808 ≤ value ∧ value < 9223372036854775808 then some (.integer value) else none

/-- The floating-point number nearest to some digits times a power of ten. Too large a number is
refused, unless it is negative. -/
def float? (negative : Bool) (digits : List Nat) (power : Int) : Option Toml :=
  let n := ofDigits 10 digits
  let place := (Nat.toDigits 10 n).length + power
  let nearest :=
    if n = 0 ∨ place < -400 then some (Binary64.zero negative)
    else if 400 < place then none
    else Binary64.nearest? negative n power
  match nearest with
  | some x => some (.float (.finite x))
  | none => if negative then some (.float (.infinite true)) else none

/-- Reads the exponent of a number, if there is one. -/
def exponent? : List Char → Option (Int × List Char)
  | c :: rest =>
    if c = 'e' ∨ c = 'E' then do
      let (down, rest) := takeSign rest
      let (digits, rest) ← digits? 10 rest
      let n := ofDigits 10 digits
      return (if down then -n else n, rest)
    else some (0, c :: rest)
  | [] => some (0, [])

/-- Reads a decimal number. -/
def decimal? (input : List Char) : Option (Toml × List Char) := do
  let (negative, rest) := takeSign input
  let (whole, rest) ← wholeDigits? rest
  match rest with
  | '.' :: rest =>
    let (fraction, rest) ← digits? 10 rest
    let (exponent, rest) ← exponent? rest
    return (← float? negative (whole ++ fraction) (exponent - fraction.length), rest)
  | c :: _ =>
    if c = 'e' ∨ c = 'E' then
      let (exponent, rest) ← exponent? rest
      return (← float? negative whole exponent, rest)
    else return (← integer? negative (ofDigits 10 whole), rest)
  | [] => return (← integer? negative (ofDigits 10 whole), [])

/-- Reads a number that has no digits. -/
def special? (input : List Char) : Option (Toml × List Char) :=
  let (negative, rest) := takeSign input
  match rest with
  | 'i' :: 'n' :: 'f' :: rest => some (.float (.infinite negative), rest)
  | 'n' :: 'a' :: 'n' :: rest => some (.float .notANumber, rest)
  | _ => none

/-- Reads an integer of a base after its mark. -/
def based? (base : Nat) (input : List Char) : Option (Toml × List Char) := do
  let (digits, rest) ← digits? base input
  return (← integer? false (ofDigits base digits), rest)

/-- Reads a number. -/
def number? : List Char → Option (Toml × List Char)
  | '0' :: 'x' :: rest => based? 16 rest
  | '0' :: 'o' :: rest => based? 8 rest
  | '0' :: 'b' :: rest => based? 2 rest
  | input => (special? input).or (decimal? input)

/-! ### Dates and times -/

/-- Takes a number with a fixed number of digits. -/
def fixed? (width : Nat) (input : List Char) : Option (Nat × List Char) :=
  let digits := (input.take width).filterMap (digit? 10)
  if digits.length = width then some (ofDigits 10 digits, input.drop width) else none

/-- Takes a number with two digits in a range. -/
def pair? (least greatest : Nat) (input : List Char) : Option (List Char) := do
  let (n, rest) ← fixed? 2 input
  if least ≤ n ∧ n ≤ greatest then return rest else none

/-- Takes a mark. -/
def mark? (wanted : Char) : List Char → Option (List Char)
  | c :: rest => if c = wanted then some rest else none
  | [] => none

/-- Takes a date that is in the calendar. -/
def date? (input : List Char) : Option (List Char) := do
  let (year, rest) ← fixed? 4 input
  let (month, rest) ← fixed? 2 (← mark? '-' rest)
  let (day, rest) ← fixed? 2 (← mark? '-' rest)
  if 1 ≤ month ∧ month ≤ 12 ∧ 1 ≤ day ∧ day ≤ daysInMonth year month then return rest else none

/-- Takes the fraction of a second, if there is one. -/
def fraction? : List Char → Option (List Char)
  | '.' :: c :: rest =>
    if (digit? 10 c).isSome then some (rest.dropWhile fun c => (digit? 10 c).isSome) else none
  | ['.'] => none
  | input => some input

/-- Takes a time of day. -/
def time? (input : List Char) : Option (List Char) := do
  let rest ← pair? 0 23 input
  let rest ← pair? 0 59 (← mark? ':' rest)
  let rest ← pair? 0 60 (← mark? ':' rest)
  fraction? rest

/-- Takes a distance from universal time, if there is one. -/
def offset? : List Char → Option (List Char)
  | c :: rest =>
    if c = 'Z' ∨ c = 'z' then some rest
    else if c = '+' ∨ c = '-' then do
      let rest ← pair? 0 23 rest
      pair? 0 59 (← mark? ':' rest)
    else some (c :: rest)
  | [] => some []

/-- Whether what follows a date is a time: there is a mark for it, and after a blank there are also
an hour and a colon. -/
def announcesTime : List Char → Bool
  | c :: rest => (c == 'T' || c == 't' || c == ' ') && ((pair? 0 23 rest).bind (mark? ':')).isSome
  | [] => false

/-- Takes a date, a time, or both. -/
def datetime? (input : List Char) : Option (List Char) :=
  match date? input with
  | some rest => if announcesTime rest then (time? (rest.drop 1)).bind offset? else some rest
  | none => time? input

end SessionForge.Toml
