/-
Patterns describe the values that a field may have in a filter of the log. A pattern is only checked
here: whether it is well formed, and whether it asks for the boundaries of words, which no matcher
of patterns can find.

This file holds what patterns are made of below the level of brackets: blanks, which may be passed
over, and escapes. In a pattern of a filter no opening brace is ever closed, since a closing brace
ends the field. So everything that needs a pair of braces is malformed: counted repetitions,
characters by number in braces, and named classes.
-/

import SessionForge.Text.Blank

namespace SessionForge.Pattern

/-- The switches of a pattern that decide whether it is well formed. -/
structure Switches where
  /-- Blanks and comments are passed over. -/
  spaced : Bool
  /-- Classes, boundaries and the point know all characters, and not those of ASCII only. -/
  unicode : Bool
  deriving DecidableEq

instance : Inhabited Switches :=
  ⟨⟨false, true⟩⟩

/-! ### Blanks -/

/-- The text from its first character on that is neither blank nor part of a comment. A comment
reaches from a number sign to the end of the line. -/
def skipSpaces : (inComment : Bool) → List Char → List Char
  | _, [] => []
  | true, c :: rest => skipSpaces (c != '\n') rest
  | false, c :: rest =>
    if isWhiteSpace c then skipSpaces false rest
    else if c = '#' then skipSpaces true rest
    else c :: rest

/-- The text without what is passed over in front of it. -/
def skipBlanks (switches : Switches) (input : List Char) : List Char :=
  if switches.spaced then skipSpaces false input else input

/-- The next character that counts. Of a comment only the sign that opens it is passed over. -/
def peek? (switches : Switches) (input : List Char) : Option Char :=
  if switches.spaced then
    match input.dropWhile isWhiteSpace with
    | '#' :: rest => (rest.dropWhile isWhiteSpace).head?
    | rest => rest.head?
  else input.head?

/-! ### Escapes -/

/-- What a single character or an escape stands for. -/
inductive Atom where
  | character (c : Char)
  | charClass
  /-- A boundary of words made of the letters of all scripts. -/
  | boundary
  /-- Any other place in a text. -/
  | anchor
  deriving DecidableEq

/-- The value of a hexadecimal digit. -/
def hexDigit? (c : Char) : Option Nat :=
  if '0' ≤ c ∧ c ≤ '9' then some (c.toNat - 48)
  else if 'A' ≤ c ∧ c ≤ 'F' then some (c.toNat - 55)
  else if 'a' ≤ c ∧ c ≤ 'f' then some (c.toNat - 87)
  else none

/-- Reads a number of so many hexadecimal digits, of which the higher ones have been read. -/
def readHex (switches : Switches) : (digits value : Nat) → List Char → Option (Nat × List Char)
  | 0, value, input => some (value, input)
  | digits + 1, value, input =>
    match skipBlanks switches input with
    | [] => none
    | c :: rest => do readHex switches digits (value * 16 + (← hexDigit? c)) rest

/-- The character of a scalar value. -/
def charOf? (n : Nat) : Option Char :=
  if n < 0xD800 ∨ (0xDFFF < n ∧ n < 0x110000) then some (Char.ofNat n) else none

/-- Reads the number of a character after the letter that says how many digits it has. Two digits
stand for a byte where not all characters are known, and no byte but those of ASCII is a text. -/
def readNumbered (switches : Switches) (letter : Char) (input : List Char) :
    Option (Atom × List Char) := do
  let digits := if letter = 'x' then 2 else if letter = 'u' then 4 else 8
  let (value, rest) ← readHex switches digits 0 input
  if letter = 'x' ∧ 0x7F < value ∧ switches.unicode = false then none
  else return (.character (← charOf? value), rest)

/-- The letters of the classes that are named by one letter, in lower case: others, letters, marks,
numbers, punctuation, symbols and separators. -/
def classLetters : List Char :=
  ['c', 'l', 'm', 'n', 'p', 's', 'z']

/-- Reads the letter of a class. -/
def readClassLetter (switches : Switches) (input : List Char) : Option (Atom × List Char) :=
  match skipBlanks switches input with
  | [] => none
  | c :: rest =>
    if switches.unicode && classLetters.contains c.toLower then some (.charClass, rest) else none

/-- The control characters that are written as a letter. -/
def controlLetters : List (Char × Char) :=
  [('a', '\x07'), ('f', '\x0c'), ('t', '\t'), ('n', '\n'), ('r', '\r'), ('v', '\x0b')]

/-- Reads an escape whose backslash has been taken. Letters and digits that mean nothing are
malformed, as are all characters beyond ASCII; where only ASCII is known, the negated classes are
malformed, since they hold bytes that are no text. -/
def readEscape (switches : Switches) : List Char → Option (Atom × List Char)
  | [] => none
  | c :: rest =>
    if c = 'x' ∨ c = 'u' ∨ c = 'U' then readNumbered switches c rest
    else if c = 'p' ∨ c = 'P' then readClassLetter switches rest
    else if c = 'd' ∨ c = 's' ∨ c = 'w' then some (.charClass, rest)
    else if c = 'D' ∨ c = 'S' ∨ c = 'W' then
      if switches.unicode then some (.charClass, rest) else none
    else if c = 'b' ∨ c = 'B' ∨ c = '<' ∨ c = '>' then
      some (if switches.unicode then .boundary else .anchor, rest)
    else if c = 'A' ∨ c = 'z' then some (.anchor, rest)
    else
      match controlLetters.lookup c with
      | some control => some (.character control, rest)
      | none =>
        if c.toNat < 0x80 ∧ c.isAlphanum = false then some (.character c, rest) else none

end SessionForge.Pattern
