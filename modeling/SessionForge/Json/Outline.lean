/-
What a document says, as far as it can be read. Typed readers take a document in from left to right
and stop at the first thing that is wrong, be it a broken token or a value of the wrong kind. To let
both be told apart afterwards, the outline of a document keeps every value that could be read
together with the place where reading broke off, and it keeps texts and numbers as they are written:
what is wrong with a text that is kept (a lone surrogate, bytes that are no text) is no fault in one
that is passed over.

Nothing that follows a fault is part of an outline, and no reader gets past a fault, so what an
outline holds after one is never looked at.
-/

import SessionForge.Json.Numeral

namespace SessionForge.Json

/-- Why a document cannot be read on: it is over too soon, or it goes on with something that no
document could hold there. -/
inductive Fault where
  | ended
  | malformed
  deriving DecidableEq

/-- How a list of items or members stops: with its bracket, with something else where a comma or
the bracket should be, or with something else after a comma. -/
inductive Ending where
  | closed
  | broken (fault : Fault)
  | dangling (fault : Fault)
  deriving DecidableEq

/-- A piece of a quoted text: a byte, written as it is or with a one-letter escape, or a unit of
sixteen bits in hexadecimal. -/
inductive Piece where
  | byte (value : UInt8)
  | unit (value : Nat)
  deriving DecidableEq

/-- A quoted text as it is written, and the fault that stops it, if one does. -/
structure Spelling where
  pieces : List Piece
  fault : Option Fault
  deriving DecidableEq

mutual

/-- A value as it is written. -/
inductive Outline where
  | null
  | boolean (value : Bool)
  | number (value : Numeral)
  | text (value : Spelling)
  | array (items : Items)
  | object (members : Members)
  /-- A number or a literal that breaks off: the fault for a reader that wants its value, and the
  fault for one that passes over it. -/
  | cut (kept passed : Fault)
  /-- A `null` that breaks off. A reader that takes `null` for an absent value has begun to read it
  before it breaks off; to one that does not know `null` it is no value. -/
  | cutNull (fault : Fault)
  /-- No value at all. -/
  | fault (fault : Fault)

/-- The items of an array. -/
inductive Items where
  | done (ending : Ending)
  | item (value : Outline) (rest : Items)

/-- The members of an object. Where something else than a text stands in the place of a name, the
members are broken. -/
inductive Members where
  | done (ending : Ending)
  | member (name : Spelling) (value : Outline) (rest : Members)

end

/-! ### Blanks and literals -/

/-- Blanks between tokens: the space, the tab and the two line ends. -/
def isBlank (b : UInt8) : Bool :=
  b == 0x20 || b == 0x0A || b == 0x0D || b == 0x09

/-- The input from its first byte on that is no blank. -/
def skipBlanks (input : List UInt8) : List UInt8 :=
  input.dropWhile isBlank

/-- Takes the bytes of a literal, or finds the fault at the first that differs. -/
def expect : List UInt8 → List UInt8 → Except Fault (List UInt8)
  | [], input => .ok input
  | _ :: _, [] => .error .ended
  | wanted :: more, b :: rest => if b = wanted then expect more rest else .error .malformed

/-- A literal whose first letter has been taken: its value, or what it is when it breaks off. -/
def literal (letters : List UInt8) (value : Outline) (cut : Fault → Outline)
    (input : List UInt8) : Outline × List UInt8 :=
  match expect letters input with
  | .ok rest => (value, rest)
  | .error fault => (cut fault, [])

/-- A truth value that breaks off. -/
def cutBoolean (fault : Fault) : Outline :=
  .cut fault fault

/-! ### Texts -/

/-- The value of a hexadecimal digit of either case. -/
def hexValue? (b : UInt8) : Option Nat :=
  let n := b.toNat
  if 48 ≤ n ∧ n ≤ 57 then some (n - 48)
  else if 65 ≤ n ∧ n ≤ 70 then some (n - 55)
  else if 97 ≤ n ∧ n ≤ 102 then some (n - 87)
  else none

/-- The value of four hexadecimal digits. -/
def hexUnit? (a b c d : UInt8) : Option Nat := do
  return (((← hexValue? a) * 16 + (← hexValue? b)) * 16 + (← hexValue? c)) * 16 + (← hexValue? d)

/-- The byte that a one-letter escape stands for. -/
def escapedByte? (letter : UInt8) : Option UInt8 :=
  if letter = 0x22 ∨ letter = 0x5C ∨ letter = 0x2F then some letter
  else if letter = 0x62 then some 0x08
  else if letter = 0x66 then some 0x0C
  else if letter = 0x6E then some 0x0A
  else if letter = 0x72 then some 0x0D
  else if letter = 0x74 then some 0x09
  else none

/-- Adds a piece in front of what follows it. -/
def Spelling.after (piece : Piece) (scanned : Spelling × List UInt8) : Spelling × List UInt8 :=
  (⟨piece :: scanned.1.pieces, scanned.1.fault⟩, scanned.2)

/-- A text that stops here with a fault. -/
def Spelling.stop (fault : Fault) : Spelling × List UInt8 :=
  (⟨[], some fault⟩, [])

/-- Reads a text whose opening quotation mark has been taken. A hexadecimal escape needs four more
bytes of the document, whatever they are, before it can be wrong. -/
def scanText : List UInt8 → Spelling × List UInt8
  | [] => Spelling.stop .ended
  | b :: rest =>
    if b = 0x22 then (⟨[], none⟩, rest)
    else if b = 0x5C then
      match rest with
      | [] => Spelling.stop .ended
      | letter :: rest =>
        if letter = 0x75 then
          match rest with
          | h₁ :: h₂ :: h₃ :: h₄ :: rest =>
            match hexUnit? h₁ h₂ h₃ h₄ with
            | some value => Spelling.after (.unit value) (scanText rest)
            | none => Spelling.stop .malformed
          | _ => Spelling.stop .ended
        else
          match escapedByte? letter with
          | some value => Spelling.after (.byte value) (scanText rest)
          | none => Spelling.stop .malformed
    else if b < 0x20 then Spelling.stop .malformed
    else Spelling.after (.byte b) (scanText rest)

/-! ### Numbers -/

/-- The value of a decimal digit. -/
def digit? (b : UInt8) : Option Nat :=
  if 48 ≤ b.toNat ∧ b.toNat ≤ 57 then some (b.toNat - 48) else none

/-- The decimal digits at the front of the input, and the rest of it. -/
def takeDigits : List UInt8 → List Nat × List UInt8
  | [] => ([], [])
  | b :: rest =>
    match digit? b with
    | some value =>
      let (digits, rest) := takeDigits rest
      (value :: digits, rest)
    | none => ([], b :: rest)

/-- The fault of a number that lacks a digit in front of the input. -/
def missingDigit (input : List UInt8) : Outline × List UInt8 :=
  (.cut (if input.isEmpty then .ended else .malformed) .malformed, [])

/-- Takes the sign of an exponent, if there is one: whether it is a minus, and the rest. -/
def takeSign (input : List UInt8) : Bool × List UInt8 :=
  match input with
  | sign :: rest =>
    if sign = 0x2D then (true, rest) else if sign = 0x2B then (false, rest) else (false, input)
  | [] => (false, [])

/-- Reads an exponent, if there is one, and completes the number. -/
def scanExponent (numeral : Numeral) (input : List UInt8) : Outline × List UInt8 :=
  match input with
  | b :: rest =>
    if b = 0x65 ∨ b = 0x45 then
      let (down, rest) := takeSign rest
      match takeDigits rest with
      | ([], rest) => missingDigit rest
      | (digits, rest) => (.number { numeral with exponent := some (down, digits) }, rest)
    else (.number numeral, input)
  | [] => (.number numeral, [])

/-- Reads what follows the digits before the point. -/
def scanFraction (numeral : Numeral) (input : List UInt8) : Outline × List UInt8 :=
  match input with
  | b :: rest =>
    if b = 0x2E then
      match takeDigits rest with
      | ([], rest) => missingDigit rest
      | (digits, rest) => scanExponent { numeral with fraction := some digits } rest
    else scanExponent numeral input
  | [] => (.number numeral, [])

/-- Reads a number whose minus sign, if it has one, has been taken. A leading zero stands alone. -/
def scanNumber (negative : Bool) (input : List UInt8) : Outline × List UInt8 :=
  match takeDigits input with
  | ([], rest) => missingDigit rest
  | (0 :: _ :: _, _) => (.cut .malformed .malformed, [])
  | (digits, rest) => scanFraction ⟨negative, digits, none, none⟩ rest

/-! ### Values -/

mutual

/-- Reads one value; `fuel` bounds the number of nested calls. -/
def scanValue : Nat → List UInt8 → Outline × List UInt8
  | 0, _ => (.fault .malformed, [])
  | fuel + 1, input =>
    match skipBlanks input with
    | [] => (.fault .ended, [])
    | b :: rest =>
      if b = 0x22 then
        let (spelling, rest) := scanText rest
        (.text spelling, rest)
      else if b = 0x7B then
        let (members, rest) := scanMembers fuel rest
        (.object members, rest)
      else if b = 0x5B then
        let (items, rest) := scanItems fuel rest
        (.array items, rest)
      else if b = 0x2D then scanNumber true rest
      else if (digit? b).isSome then scanNumber false (b :: rest)
      else if b = 0x6E then literal [0x75, 0x6C, 0x6C] .null .cutNull rest
      else if b = 0x74 then literal [0x72, 0x75, 0x65] (.boolean true) cutBoolean rest
      else if b = 0x66 then literal [0x61, 0x6C, 0x73, 0x65] (.boolean false) cutBoolean rest
      else (.fault .malformed, [])

/-- Reads the items of an array whose bracket has been taken. -/
def scanItems : Nat → List UInt8 → Items × List UInt8
  | 0, _ => (.done (.broken .malformed), [])
  | fuel + 1, input =>
    match skipBlanks input with
    | [] => (.done (.broken .ended), [])
    | b :: rest =>
      if b = 0x5D then (.done .closed, rest)
      else
        let (value, rest) := scanValue fuel (b :: rest)
        let (more, rest) := scanMoreItems fuel rest
        (.item value more, rest)

/-- Reads what follows an item. -/
def scanMoreItems : Nat → List UInt8 → Items × List UInt8
  | 0, _ => (.done (.broken .malformed), [])
  | fuel + 1, input =>
    match skipBlanks input with
    | [] => (.done (.broken .ended), [])
    | b :: rest =>
      if b = 0x5D then (.done .closed, rest)
      else if b = 0x2C then
        match skipBlanks rest with
        | [] => (.done (.dangling .ended), [])
        | b :: rest =>
          if b = 0x5D then (.done (.dangling .malformed), [])
          else
            let (value, rest) := scanValue fuel (b :: rest)
            let (more, rest) := scanMoreItems fuel rest
            (.item value more, rest)
      else (.done (.broken .malformed), [])

/-- Reads the members of an object whose brace has been taken. -/
def scanMembers : Nat → List UInt8 → Members × List UInt8
  | 0, _ => (.done (.broken .malformed), [])
  | fuel + 1, input =>
    match skipBlanks input with
    | [] => (.done (.broken .ended), [])
    | b :: rest =>
      if b = 0x7D then (.done .closed, rest)
      else if b = 0x22 then
        let (name, rest) := scanText rest
        scanMember fuel name rest
      else (.done (.broken .malformed), [])

/-- Reads the colon and the value of a member whose name has been read, and the members after it. -/
def scanMember : Nat → Spelling → List UInt8 → Members × List UInt8
  | 0, name, _ => (.member name (.fault .malformed) (.done (.broken .malformed)), [])
  | fuel + 1, name, input =>
    match skipBlanks input with
    | [] => (.member name (.fault .ended) (.done (.broken .ended)), [])
    | b :: rest =>
      if b = 0x3A then
        let (value, rest) := scanValue fuel rest
        let (more, rest) := scanMoreMembers fuel rest
        (.member name value more, rest)
      else (.member name (.fault .malformed) (.done (.broken .malformed)), [])

/-- Reads what follows a member. -/
def scanMoreMembers : Nat → List UInt8 → Members × List UInt8
  | 0, _ => (.done (.broken .malformed), [])
  | fuel + 1, input =>
    match skipBlanks input with
    | [] => (.done (.broken .ended), [])
    | b :: rest =>
      if b = 0x7D then (.done .closed, rest)
      else if b = 0x2C then
        match skipBlanks rest with
        | [] => (.done (.dangling .ended), [])
        | b :: rest =>
          if b = 0x22 then
            let (name, rest) := scanText rest
            scanMember fuel name rest
          else (.done (.dangling .malformed), [])
      else (.done (.broken .malformed), [])

end

/-- A whole document: its value, and whether only blanks follow it. -/
structure Document where
  root : Outline
  alone : Bool

/-- The outline of a document. Of any two nested calls at least one takes a byte, which bounds the
fuel. -/
def Document.ofBytes (bytes : List UInt8) : Document :=
  let (root, rest) := scanValue (2 * bytes.length + 2) bytes
  ⟨root, (skipBlanks rest).isEmpty⟩

end SessionForge.Json
