/-
The forms of minted tokens. A sortable token is a number of 128 bits, the time in its upper 48,
written with 26 digits of base 32; the digits leave out the letters that are easily misread. A
random token is a number of 128 bits, six of them fixed, written with hexadecimal digits in five
groups.
-/

import SessionForge.Identity
import SessionForge.Json.Printer
import SessionForge.Json.Reader

namespace SessionForge

/-- A number with a fixed number of digits of a base, the lowest digits last. -/
def fixedDigits (base : Nat) (digit : Nat → Char) : Nat → Nat → List Char
  | 0, _ => []
  | width + 1, n => fixedDigits base digit width (n / base) ++ [digit (n % base)]

/-! ### Sortable tokens -/

namespace Ulid

/-- The digits of base 32. -/
def alphabet : List Char :=
  ['0', '1', '2', '3', '4', '5', '6', '7', '8', '9', 'A', 'B', 'C', 'D', 'E', 'F', 'G', 'H', 'J',
    'K', 'M', 'N', 'P', 'Q', 'R', 'S', 'T', 'V', 'W', 'X', 'Y', 'Z']

/-- The token of a time in milliseconds and eighty random bits. -/
def render (milliseconds random : Nat) : String :=
  String.ofList (fixedDigits 32 (fun n => alphabet.getD n '0') 26
    (milliseconds % Nat.pow 2 48 * Nat.pow 2 80 + random % Nat.pow 2 80))

/-- Whether a text has the form of a sortable token. -/
def isShaped (token : String) : Bool :=
  token.length = 26 && token.toList.all fun c => alphabet.contains c

end Ulid

/-! ### Random tokens -/

namespace Uuid

/-- Cuts a text into groups of given lengths, with hyphens between them. -/
def grouped : List Nat → List Char → List Char
  | [], digits => digits
  | [length], digits => digits.take length
  | length :: more, digits => digits.take length ++ '-' :: grouped more (digits.drop length)

/-- The token of random bits; the version and the variant of the token are put into their places. -/
def render (random : Nat) : String :=
  let upper := random / Nat.pow 2 80 % Nat.pow 2 48
  let middle := random / Nat.pow 2 64 % Nat.pow 2 12
  let lower := random % Nat.pow 2 62
  let bits :=
    upper * Nat.pow 2 80 + (4 * Nat.pow 2 12 + middle) * Nat.pow 2 64 + (2 * Nat.pow 2 62 + lower)
  String.ofList (grouped [8, 4, 4, 4, 12] (fixedDigits 16 Json.hexDigit 32 bits))

/-- Whether a text has the form of a random token. -/
def isShaped (token : String) : Bool :=
  token.length = 36 &&
    (token.toList.zipIdx.all fun (c, place) =>
      if place = 8 ∨ place = 13 ∨ place = 18 ∨ place = 23 then c = '-'
      else if place = 14 then c = '4'
      else if place = 19 then c = '8' || c = '9' || c = 'a' || c = 'b'
      else c.isDigit || ('a' ≤ c && c ≤ 'f'))

end Uuid

/-! ### The choice between them -/

/-- The form of minted tokens. -/
inductive IdFormat where
  | ulid
  | uuid
  deriving DecidableEq, Inhabited

namespace IdFormat

/-- The name of a form. -/
def name : IdFormat → String
  | .ulid => "ulid"
  | .uuid => "uuid"

/-- The forms by name. -/
def choices : List (String × IdFormat) :=
  [(name .ulid, .ulid), (name .uuid, .uuid)]

/-- Reads a form. -/
def reader : Json.Reader IdFormat :=
  Json.Reader.choice choices

/-- A form as a value of a document. -/
def toJson (format : IdFormat) : Json :=
  .text format.name

/-- The supply of tokens of a form. The number of a token is added to the random bits it is made
of, so that the tokens of one supply differ for as long as the random bits last. -/
def supply (format : IdFormat) (milliseconds random : Nat) : TokenSupply :=
  match format with
  | .ulid => ⟨fun number => Ulid.render milliseconds (random + number), 0⟩
  | .uuid => ⟨fun number => Uuid.render (random + number), 0⟩

end IdFormat

end SessionForge
