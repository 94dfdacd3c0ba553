/-
How the lines of a settings document are written. The rules of `Grammar` relate what is meant to the
characters that spell it and to what follows them, as far as the reader of settings needs them:
texts on one line with all their escapes, whole numbers, truth values, keys, headers, blanks and
comments. A value of any other form is taken as the reader takes it.

The rules find a line for every statement of a document. Whether the statements go together is
another question.
-/

import SessionForge.Toml.Statement

namespace SessionForge.Toml.Grammar

/-! ### Blanks and the ends of lines -/

/-- Blanks within a line. -/
inductive Spaces : List Char → List Char → Prop where
  | none (rest : List Char) : Spaces rest rest
  | space {c : Char} {input rest : List Char} (isSpace : isSpace c = true)
      (more : Spaces input rest) : Spaces (c :: input) rest

/-- A comment behind its mark. -/
inductive Comment : List Char → List Char → Prop where
  | done (rest : List Char) : Comment rest rest
  | char {c : Char} {input rest : List Char} (isChar : isCommentChar c = true)
      (more : Comment input rest) : Comment (c :: input) rest

/-- The end of a line, or of the whole document. -/
inductive Newline : List Char → List Char → Prop where
  | feed (rest : List Char) : Newline ('\n' :: rest) rest
  | carriage (rest : List Char) : Newline ('\r' :: '\n' :: rest) rest
  | document : Newline [] []

/-- What may stand behind a statement: blanks, and a comment. -/
inductive LineEnd : List Char → List Char → Prop where
  | plain {input stop rest : List Char} (spaces : Spaces input stop) (newline : Newline stop rest) :
      LineEnd input rest
  | comment {input start stop rest : List Char} (spaces : Spaces input ('#' :: start))
      (comment : Comment start stop) (newline : Newline stop rest) : LineEnd input rest

/-! ### Texts and keys -/

/-- A text behind its opening quotation mark, up to the closing one. -/
inductive Quoted : List Char → List Char → List Char → Prop where
  | close (rest : List Char) : Quoted [] ('"' :: rest) rest
  | plain {c : Char} {meant input rest : List Char} (isPlain : isPlainChar c = true)
      (more : Quoted meant input rest) : Quoted (c :: meant) (c :: input) rest
  | letter {letter c : Char} {meant input rest : List Char} (escape : escaped? letter = some c)
      (more : Quoted meant input rest) : Quoted (c :: meant) ('\\' :: letter :: input) rest
  | short {h₁ h₂ h₃ h₄ c : Char} {meant input rest : List Char}
      (digits : (hexNumber? [h₁, h₂, h₃, h₄]).bind charOf? = some c)
      (more : Quoted meant input rest) :
      Quoted (c :: meant) ('\\' :: 'u' :: h₁ :: h₂ :: h₃ :: h₄ :: input) rest
  | long {h₁ h₂ h₃ h₄ h₅ h₆ h₇ h₈ c : Char} {meant input rest : List Char}
      (digits : (hexNumber? [h₁, h₂, h₃, h₄, h₅, h₆, h₇, h₈]).bind charOf? = some c)
      (more : Quoted meant input rest) :
      Quoted (c :: meant)
        ('\\' :: 'U' :: h₁ :: h₂ :: h₃ :: h₄ :: h₅ :: h₆ :: h₇ :: h₈ :: input) rest

/-- A text behind its opening apostrophe, up to the closing one. -/
inductive Literal : List Char → List Char → List Char → Prop where
  | close (rest : List Char) : Literal [] ('\'' :: rest) rest
  | char {c : Char} {meant input rest : List Char} (isLiteral : isLiteralChar c = true)
      (more : Literal meant input rest) : Literal (c :: meant) (c :: input) rest

/-- A text on one line. -/
inductive Text : List Char → List Char → List Char → Prop where
  | quoted {meant input rest : List Char} (quoted : Quoted meant input rest) :
      Text meant ('"' :: input) rest
  | literal {meant input rest : List Char} (literal : Literal meant input rest) :
      Text meant ('\'' :: input) rest

/-- Characters of a name without quotation marks, at least one. -/
inductive Bare : List Char → List Char → List Char → Prop where
  | last {c : Char} {rest : List Char} (isChar : isNameChar c = true) : Bare [c] (c :: rest) rest
  | more {c : Char} {name input rest : List Char} (isChar : isNameChar c = true)
      (later : Bare name input rest) : Bare (c :: name) (c :: input) rest

theorem bare_of_all {c : Char} {name rest : List Char}
    (areChars : (c :: name).all isNameChar = true) :
    Bare (c :: name) (c :: name ++ rest) rest := by
  induction name generalizing c with
  | nil => exact .last (Bool.and_eq_true_iff.1 areChars).1
  | cons next name inductionHypothesis =>
    obtain ⟨isChar, areChars⟩ := Bool.and_eq_true_iff.1 areChars
    exact .more isChar (inductionHypothesis areChars)

/-- A name. -/
inductive Name : List Char → List Char → List Char → Prop where
  | bare {name input rest : List Char} (bare : Bare name input rest) : Name name input rest
  | text {name input rest : List Char} (text : Text name input rest) : Name name input rest

/-- The names of a key with points between them, and the blanks behind it. -/
inductive Key : List String → List Char → List Char → Prop where
  | last {name input stop rest : List Char} (isName : Name name input stop)
      (spaces : Spaces stop rest) : Key [String.ofList name] input rest
  | more {name input stop next start rest : List Char} {names : List String}
      (isName : Name name input stop) (before : Spaces stop ('.' :: next))
      (after : Spaces next start) (later : Key names start rest) :
      Key (String.ofList name :: names) input rest

/-! ### Values -/

/-- Decimal digits, at least one. Single underscores may stand between them. -/
inductive Digits : List Nat → List Char → List Char → Prop where
  | last {c : Char} {digit : Nat} {rest : List Char} (isDigit : digit? 10 c = some digit) :
      Digits [digit] (c :: rest) rest
  | more {c : Char} {digit : Nat} {digits : List Nat} {input rest : List Char}
      (isDigit : digit? 10 c = some digit) (later : Digits digits input rest) :
      Digits (digit :: digits) (c :: input) rest
  | apart {c : Char} {digit : Nat} {digits : List Nat} {input rest : List Char}
      (isDigit : digit? 10 c = some digit) (later : Digits digits input rest) :
      Digits (digit :: digits) (c :: '_' :: input) rest

/-- A value. A leading zero stands alone, and numbers have 64 bits. -/
inductive Value : Toml → List Char → List Char → Prop where
  | text {meant input rest : List Char} (text : Text meant input rest) :
      Value (.text (String.ofList meant)) input rest
  | yes (rest : List Char) : Value (.boolean true) ('t' :: 'r' :: 'u' :: 'e' :: rest) rest
  | no (rest : List Char) : Value (.boolean false) ('f' :: 'a' :: 'l' :: 's' :: 'e' :: rest) rest
  | whole {digits : List Nat} {input rest : List Char} (all : Digits digits input rest)
      (zero : digits.head? = some 0 → digits = [0])
      (fits : ofDigits 10 digits < 9223372036854775808) :
      Value (.integer (ofDigits 10 digits)) input rest
  | other {value : Toml} {c : Char} {written rest : List Char} (visible : isSpace c = false)
      (isRead : value? greatestNesting (c :: written ++ rest) = some (value, rest)) :
      Value value (c :: written ++ rest) rest

/-! ### Statements and documents -/

/-- A statement. There is a bound on the number of names in a key. -/
inductive Line : Statement → List Char → List Char → Prop where
  | table {path : List String} {input start rest : List Char} (spaces : Spaces input start)
      (key : Key path start (']' :: rest)) (short : path.length ≤ greatestNesting) :
      Line (.table path) ('[' :: input) rest
  | element {path : List String} {input start rest : List Char} (spaces : Spaces input start)
      (key : Key path start (']' :: ']' :: rest)) (short : path.length ≤ greatestNesting) :
      Line (.element path) ('[' :: '[' :: input) rest
  | pair {path : List String} {value : Toml} {input next start rest : List Char}
      (key : Key path input ('=' :: next)) (short : path.length ≤ greatestNesting)
      (spaces : Spaces next start) (isValue : Value value start rest) :
      Line (.pair path value) input rest

/-- The statements of a document, each on a line of its own. -/
inductive Document : List Statement → List Char → Prop where
  | done : Document [] []
  | blank {statements : List Statement} {input rest : List Char} (lineEnd : LineEnd input rest)
      (more : Document statements rest) : Document statements input
  | line {statement : Statement} {statements : List Statement} {input start stop rest : List Char}
      (spaces : Spaces input start) (line : Line statement start stop) (lineEnd : LineEnd stop rest)
      (more : Document statements rest) : Document (statement :: statements) input

/-! ### What the rules take -/

section Length

variable {input rest : List Char}

theorem Spaces.length_le (spaces : Spaces input rest) : rest.length ≤ input.length := by
  induction spaces with
  | none => exact Nat.le_refl _
  | space _ _ inductionHypothesis => exact Nat.le_succ_of_le inductionHypothesis

theorem Comment.length_le (comment : Comment input rest) :
    rest.length ≤ input.length := by
  induction comment with
  | done => exact Nat.le_refl _
  | char _ _ inductionHypothesis => exact Nat.le_succ_of_le inductionHypothesis

/-- The end of a line takes something, or it is the end of the document. -/
theorem Newline.length_lt (newline : Newline input rest) :
    rest.length < input.length ∨ input = [] ∧ rest = [] := by
  cases newline with
  | feed | carriage => exact .inl (by simp only [List.length_cons]; omega)
  | document => exact .inr ⟨rfl, rfl⟩

theorem LineEnd.length_lt (lineEnd : LineEnd input rest) :
    rest.length < input.length ∨ rest = [] := by
  cases lineEnd with
  | plain spaces newline =>
    have shorter := spaces.length_le
    exact newline.length_lt.imp (by omega) And.right
  | comment spaces comment newline =>
    have shorter := spaces.length_le
    have stillShorter := comment.length_le
    simp only [List.length_cons] at shorter
    exact newline.length_lt.imp (by omega) And.right

theorem Quoted.length_lt {meant : List Char} (quoted : Quoted meant input rest) :
    rest.length < input.length := by
  induction quoted <;> simp only [List.length_cons] <;> omega

theorem Literal.length_lt {meant : List Char} (literal : Literal meant input rest) :
    rest.length < input.length := by
  induction literal <;> simp only [List.length_cons] <;> omega

theorem Bare.length_lt {name : List Char} (bare : Bare name input rest) :
    rest.length < input.length := by
  induction bare <;> simp only [List.length_cons] <;> omega

theorem Digits.length_lt {digits : List Nat} (isWhole : Digits digits input rest) :
    rest.length < input.length := by
  induction isWhole <;> simp only [List.length_cons] <;> omega

theorem Text.length_lt {meant : List Char} (text : Text meant input rest) :
    rest.length < input.length := by
  cases text with
  | quoted quoted => exact Nat.lt_succ_of_lt quoted.length_lt
  | literal literal => exact Nat.lt_succ_of_lt literal.length_lt

theorem Name.length_lt {name : List Char} (isName : Name name input rest) :
    rest.length < input.length := by
  cases isName with
  | bare bare => exact bare.length_lt
  | text text => exact text.length_lt

theorem Key.length_lt {names : List String} (key : Key names input rest) :
    rest.length < input.length := by
  induction key with
  | last isName spaces => exact Nat.lt_of_le_of_lt spaces.length_le isName.length_lt
  | more isName before after _ inductionHypothesis =>
    have first := isName.length_lt
    have shorter := before.length_le
    have stillShorter := after.length_le
    simp only [List.length_cons] at shorter
    omega

theorem Value.length_lt {value : Toml} (isValue : Value value input rest) :
    rest.length < input.length := by
  cases isValue with
  | text text => exact text.length_lt
  | yes | no => simp only [List.length_cons]; omega
  | whole isWhole => exact isWhole.length_lt
  | other => simp only [List.cons_append, List.length_cons, List.length_append]; omega

theorem Line.length_lt {statement : Statement} (line : Line statement input rest) :
    rest.length < input.length := by
  cases line with
  | table spaces key | element spaces key =>
    have shorter := spaces.length_le
    have stillShorter := key.length_lt
    simp only [List.length_cons] at stillShorter ⊢
    omega
  | pair key _ spaces isValue =>
    have first := key.length_lt
    have shorter := spaces.length_le
    have stillShorter := isValue.length_lt
    simp only [List.length_cons] at first
    omega

end Length

end SessionForge.Toml.Grammar
