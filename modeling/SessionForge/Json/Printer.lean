/-
Printing values. The compact form has no blanks at all; the indented form puts every item and member
on a line of its own. Both write texts and numbers the same way: a text escapes the quotation mark,
the backslash and the characters below U+0020 and nothing else, and a floating-point number is
written with the fewest digits that read back the same.
-/

import SessionForge.Json.Value
import SessionForge.Binary64.Shortest

namespace SessionForge.Json

/-! ### Texts -/

/-- The lower-case hexadecimal digit of a value below sixteen. -/
def hexDigit (n : Nat) : Char :=
  if n < 10 then Char.ofNat (48 + n) else Char.ofNat (87 + n)

/-- A character inside a quoted text. -/
def escapeChar (c : Char) : List Char :=
  if c = '"' then ['\\', '"']
  else if c = '\\' then ['\\', '\\']
  else if c = '\n' then ['\\', 'n']
  else if c = '\r' then ['\\', 'r']
  else if c = '\t' then ['\\', 't']
  else if c = '\x08' then ['\\', 'b']
  else if c = '\x0c' then ['\\', 'f']
  else if c.toNat < 0x20 then
    ['\\', 'u', '0', '0', hexDigit (c.toNat / 16), hexDigit (c.toNat % 16)]
  else [c]

/-- A text between quotation marks. -/
def quoted (value : String) : List Char :=
  '"' :: value.toList.flatMap escapeChar ++ ['"']

/-! ### Numbers -/

/-- A natural number in decimal digits. -/
def printNatural (n : Nat) : List Char :=
  Nat.toDigits 10 n

/-- An integer, with a sign only if it is negative. -/
def printInteger : Int → List Char
  | .ofNat n => printNatural n
  | .negSucc n => '-' :: printNatural (n + 1)

/-- A decimal with a point among its digits, before them or after them, and never without a digit
on either side of it. -/
def positional (decimal : Decimal) : List Char :=
  let digits := printNatural decimal.digits
  let place := (digits.length : Int) + decimal.power
  if 0 ≤ decimal.power then digits ++ List.replicate decimal.power.toNat '0' ++ ['.', '0']
  else if 0 < place then digits.take place.toNat ++ '.' :: digits.drop place.toNat
  else ['0', '.'] ++ List.replicate (-place).toNat '0' ++ digits

/-- A decimal with one digit before the point and a signed power of ten. -/
def scientific (decimal : Decimal) : List Char :=
  let digits := printNatural decimal.digits
  let exponent := (digits.length : Int) + decimal.power - 1
  let mantissa :=
    match digits with
    | first :: second :: rest => first :: '.' :: second :: rest
    | short => short
  mantissa ++ 'e' :: (if exponent < 0 then '-' else '+') :: printNatural exponent.natAbs

/-- Numbers from 10^-5 up to 10^16 are written with their point in place, all others with a power
of ten. Zero keeps its sign. -/
def printFloat (x : Binary64) : List Char :=
  let decimal := x.shortest
  let place := ((printNatural decimal.digits).length : Int) + decimal.power
  let magnitude :=
    if x.isZero then ['0', '.', '0']
    else if -5 < place && place ≤ 16 then positional decimal
    else scientific decimal
  if x.negative then '-' :: magnitude else magnitude

/-- A number. -/
def Number.print : Number → List Char
  | .integer n => printInteger n
  | .float x => printFloat x

/-! ### The compact form -/

/-- The characters of `true` and `false`. -/
def boolText : Bool → List Char
  | true => ['t', 'r', 'u', 'e']
  | false => ['f', 'a', 'l', 's', 'e']

mutual

/-- A value without blanks. -/
def print : Json → List Char
  | .null => ['n', 'u', 'l', 'l']
  | .boolean value => boolText value
  | .number value => value.print
  | .text value => quoted value
  | .array items => '[' :: printItems items ++ [']']
  | .object members => '{' :: printMembers members ++ ['}']

/-- Items with commas between them. -/
def printItems : List Json → List Char
  | [] => []
  | item :: rest => print item ++ printMoreItems rest

/-- Items with a comma before each. -/
def printMoreItems : List Json → List Char
  | [] => []
  | item :: rest => ',' :: print item ++ printMoreItems rest

/-- Members with commas between them. -/
def printMembers : List (String × Json) → List Char
  | [] => []
  | (name, value) :: rest => quoted name ++ ':' :: print value ++ printMoreMembers rest

/-- Members with a comma before each. -/
def printMoreMembers : List (String × Json) → List Char
  | [] => []
  | (name, value) :: rest => ',' :: quoted name ++ ':' :: print value ++ printMoreMembers rest

end

/-- The compact text of a value. -/
def compact (value : Json) : String :=
  String.ofList (print value)

/-! ### The indented form -/

/-- A new line, indented by two blanks per level. -/
def newLine (level : Nat) : List Char :=
  '\n' :: List.replicate (2 * level) ' '

mutual

/-- A value whose items and members stand one level deeper than `level`, each on its own line. -/
def printIndented (level : Nat) : Json → List Char
  | .null => ['n', 'u', 'l', 'l']
  | .boolean value => boolText value
  | .number value => value.print
  | .text value => quoted value
  | .array [] => ['[', ']']
  | .array (item :: rest) =>
    '[' :: newLine (level + 1) ++ printIndented (level + 1) item
      ++ indentedItems (level + 1) rest ++ newLine level ++ [']']
  | .object [] => ['{', '}']
  | .object ((name, value) :: rest) =>
    '{' :: newLine (level + 1) ++ quoted name ++ ':' :: ' ' :: printIndented (level + 1) value
      ++ indentedMembers (level + 1) rest ++ newLine level ++ ['}']

/-- Items with a comma and a new line before each. -/
def indentedItems (level : Nat) : List Json → List Char
  | [] => []
  | item :: rest =>
    ',' :: newLine level ++ printIndented level item ++ indentedItems level rest

/-- Members with a comma and a new line before each. -/
def indentedMembers (level : Nat) : List (String × Json) → List Char
  | [] => []
  | (name, value) :: rest =>
    ',' :: newLine level ++ quoted name ++ ':' :: ' ' :: printIndented level value
      ++ indentedMembers level rest

end

/-- The indented text of a value. -/
def pretty (value : Json) : String :=
  String.ofList (printIndented 0 value)

end SessionForge.Json
