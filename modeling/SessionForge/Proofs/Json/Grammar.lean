/-
What a document is, said without a reader. A tree is a document as it is written: texts and numbers
stand in it with their pieces and digits, and the members of an object in their order, names that
occur twice included. The rules of `Grammar` relate a tree to the bytes that spell it and to what
follows them; blanks may stand in front of every token.

A tree has an outline, which breaks off nowhere; where the rules find the tree, the scanner is meant
to find its outline.
-/

import SessionForge.Json.Outline

namespace SessionForge.Json

/-! ### Trees -/

/-- A document as it is written. -/
inductive Tree where
  | null
  | boolean (value : Bool)
  | number (value : Numeral)
  | text (pieces : List Piece)
  | array (items : List Tree)
  | object (members : List (List Piece × Tree))

mutual

/-- The outline of a tree, which breaks off nowhere. -/
def Tree.outline : Tree → Outline
  | .null => .null
  | .boolean value => .boolean value
  | .number value => .number value
  | .text pieces => .text ⟨pieces, none⟩
  | .array items => .array (Tree.outlineItems items)
  | .object members => .object (Tree.outlineMembers members)

/-- The outline of items. -/
def Tree.outlineItems : List Tree → Items
  | [] => .done .closed
  | item :: rest => .item item.outline (Tree.outlineItems rest)

/-- The outline of members. -/
def Tree.outlineMembers : List (List Piece × Tree) → Members
  | [] => .done .closed
  | (name, value) :: rest => .member ⟨name, none⟩ value.outline (Tree.outlineMembers rest)

end

/-! ### The rules -/

namespace Grammar

/-- Blanks, and what follows them. -/
inductive Blanks : List UInt8 → List UInt8 → Prop where
  | none (rest : List UInt8) : Blanks rest rest
  | blank {b : UInt8} {input rest : List UInt8} (isBlank : isBlank b = true)
      (more : Blanks input rest) : Blanks (b :: input) rest

/-- The letters of the short escapes, with the bytes that they stand for. -/
def letterEscapes : List (UInt8 × UInt8) :=
  [(0x22, 0x22), (0x5C, 0x5C), (0x2F, 0x2F), (0x62, 0x08), (0x66, 0x0C), (0x6E, 0x0A),
    (0x72, 0x0D), (0x74, 0x09)]

/-- A text behind its opening quotation mark, up to the closing one. -/
inductive Text : List Piece → List UInt8 → List UInt8 → Prop where
  | close (rest : List UInt8) : Text [] (0x22 :: rest) rest
  | plain {b : UInt8} {pieces : List Piece} {input rest : List UInt8} (noControl : 0x20 ≤ b)
      (noQuote : b ≠ 0x22) (noBackslash : b ≠ 0x5C) (more : Text pieces input rest) :
      Text (.byte b :: pieces) (b :: input) rest
  | letter {letter b : UInt8} {pieces : List Piece} {input rest : List UInt8}
      (escape : (letter, b) ∈ letterEscapes) (more : Text pieces input rest) :
      Text (.byte b :: pieces) (0x5C :: letter :: input) rest
  | unit {h₁ h₂ h₃ h₄ : UInt8} {value : Nat} {pieces : List Piece} {input rest : List UInt8}
      (digits : hexUnit? h₁ h₂ h₃ h₄ = some value) (more : Text pieces input rest) :
      Text (.unit value :: pieces) (0x5C :: 0x75 :: h₁ :: h₂ :: h₃ :: h₄ :: input) rest

/-- Decimal digits, at least one. -/
inductive Digits : List Nat → List UInt8 → List UInt8 → Prop where
  | last {b : UInt8} {digit : Nat} {rest : List UInt8} (isDigit : digit? b = some digit) :
      Digits [digit] (b :: rest) rest
  | more {b : UInt8} {digit : Nat} {digits : List Nat} {input rest : List UInt8}
      (isDigit : digit? b = some digit) (later : Digits digits input rest) :
      Digits (digit :: digits) (b :: input) rest

/-- A fraction, or none. -/
inductive Fraction : Option (List Nat) → List UInt8 → List UInt8 → Prop where
  | none (rest : List UInt8) : Fraction none rest rest
  | digits {digits : List Nat} {input rest : List UInt8} (all : Digits digits input rest) :
      Fraction (some digits) (0x2E :: input) rest

/-- The sign of an exponent: a minus, a plus or none. -/
inductive Sign : Bool → List UInt8 → List UInt8 → Prop where
  | minus (rest : List UInt8) : Sign true (0x2D :: rest) rest
  | plus (rest : List UInt8) : Sign false (0x2B :: rest) rest
  | none (rest : List UInt8) : Sign false rest rest

/-- An exponent, or none. -/
inductive Exponent : Option (Bool × List Nat) → List UInt8 → List UInt8 → Prop where
  | none (rest : List UInt8) : Exponent none rest rest
  | digits {letter : UInt8} {down : Bool} {digits : List Nat} {input between rest : List UInt8}
      (isLetter : letter = 0x65 ∨ letter = 0x45) (sign : Sign down input between)
      (all : Digits digits between rest) : Exponent (some (down, digits)) (letter :: input) rest

/-- The sign of a number. -/
inductive Minus : Bool → List UInt8 → List UInt8 → Prop where
  | minus (rest : List UInt8) : Minus true (0x2D :: rest) rest
  | none (rest : List UInt8) : Minus false rest rest

/-- A number. A leading zero stands alone. -/
inductive Number : Numeral → List UInt8 → List UInt8 → Prop where
  | parts {negative : Bool} {whole : List Nat} {fraction : Option (List Nat)}
      {exponent : Option (Bool × List Nat)} {input unsigned afterWhole afterFraction : List UInt8}
      {rest : List UInt8} (minus : Minus negative input unsigned)
      (digits : Digits whole unsigned afterWhole)
      (zero : whole.head? = some 0 → whole = [0])
      (point : Fraction fraction afterWhole afterFraction)
      (power : Exponent exponent afterFraction rest) :
      Number ⟨negative, whole, fraction, exponent⟩ input rest

mutual

/-- A value, blanks in front of it included. -/
inductive Value : Tree → List UInt8 → List UInt8 → Prop where
  | null {input rest : List UInt8} (blanks : Blanks input (0x6E :: 0x75 :: 0x6C :: 0x6C :: rest)) :
      Value .null input rest
  | true {input rest : List UInt8} (blanks : Blanks input (0x74 :: 0x72 :: 0x75 :: 0x65 :: rest)) :
      Value (.boolean true) input rest
  | false {input rest : List UInt8}
      (blanks : Blanks input (0x66 :: 0x61 :: 0x6C :: 0x73 :: 0x65 :: rest)) :
      Value (.boolean false) input rest
  | number {numeral : Numeral} {input start rest : List UInt8} (blanks : Blanks input start)
      (number : Number numeral start rest) : Value (.number numeral) input rest
  | text {pieces : List Piece} {input start rest : List UInt8}
      (blanks : Blanks input (0x22 :: start)) (text : Text pieces start rest) :
      Value (.text pieces) input rest
  | array {items : List Tree} {input start rest : List UInt8}
      (blanks : Blanks input (0x5B :: start)) (inside : Items items start rest) :
      Value (.array items) input rest
  | object {members : List (List Piece × Tree)} {input start rest : List UInt8}
      (blanks : Blanks input (0x7B :: start)) (inside : Members members start rest) :
      Value (.object members) input rest

/-- The items of an array behind its opening bracket, up to the closing one. -/
inductive Items : List Tree → List UInt8 → List UInt8 → Prop where
  | close {input rest : List UInt8} (blanks : Blanks input (0x5D :: rest)) : Items [] input rest
  | first {item : Tree} {items : List Tree} {input between rest : List UInt8}
      (value : Value item input between) (more : MoreItems items between rest) :
      Items (item :: items) input rest

/-- What follows an item. -/
inductive MoreItems : List Tree → List UInt8 → List UInt8 → Prop where
  | close {input rest : List UInt8} (blanks : Blanks input (0x5D :: rest)) :
      MoreItems [] input rest
  | next {item : Tree} {items : List Tree} {input start between rest : List UInt8}
      (blanks : Blanks input (0x2C :: start)) (value : Value item start between)
      (more : MoreItems items between rest) : MoreItems (item :: items) input rest

/-- The members of an object behind its opening brace, up to the closing one. -/
inductive Members : List (List Piece × Tree) → List UInt8 → List UInt8 → Prop where
  | close {input rest : List UInt8} (blanks : Blanks input (0x7D :: rest)) : Members [] input rest
  | first {member : List Piece × Tree} {members : List (List Piece × Tree)}
      {input between rest : List UInt8} (isMember : Member member input between)
      (more : MoreMembers members between rest) : Members (member :: members) input rest

/-- A member: its name, a colon and its value. -/
inductive Member : List Piece × Tree → List UInt8 → List UInt8 → Prop where
  | named {name : List Piece} {value : Tree} {input start afterName valueStart rest : List UInt8}
      (blanks : Blanks input (0x22 :: start)) (isName : Text name start afterName)
      (colon : Blanks afterName (0x3A :: valueStart)) (isValue : Value value valueStart rest) :
      Member (name, value) input rest

/-- What follows a member. -/
inductive MoreMembers : List (List Piece × Tree) → List UInt8 → List UInt8 → Prop where
  | close {input rest : List UInt8} (blanks : Blanks input (0x7D :: rest)) :
      MoreMembers [] input rest
  | next {member : List Piece × Tree} {members : List (List Piece × Tree)}
      {input start between rest : List UInt8} (blanks : Blanks input (0x2C :: start))
      (isMember : Member member start between) (more : MoreMembers members between rest) :
      MoreMembers (member :: members) input rest

end

end Grammar

/-- Some bytes spell a document. Blanks may stand behind it. -/
def Tree.Spells (tree : Tree) (bytes : List UInt8) : Prop :=
  ∃ rest, Grammar.Value tree bytes rest ∧ Grammar.Blanks rest []

end SessionForge.Json
