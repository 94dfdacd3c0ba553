/-
Blanks, comments and quoted texts of settings documents. A quoted text stands between quotation
marks, where a backslash escapes, or between apostrophes, where nothing does. Three marks open a
text of several lines.

Readers take a text from its front and give what they read with the rest, or nothing if the text
breaks their rules.
-/

import SessionForge.Json.Outline

namespace SessionForge.Toml

/-! ### Blanks and comments -/

/-- Blanks within a line. -/
def isSpace (c : Char) : Bool :=
  c == ' ' || c == '\t'

/-- A text from its first character on that is no blank. -/
def skipSpaces (input : List Char) : List Char :=
  input.dropWhile isSpace

/-- Characters that may stand in comments: all but the control characters other than the tab. -/
def isCommentChar (c : Char) : Bool :=
  c == '\t' || (0x20 ≤ c.toNat && c.toNat != 0x7F)

/-- Takes a line end. -/
def newline? : List Char → Option (List Char)
  | '\n' :: rest => some rest
  | '\r' :: '\n' :: rest => some rest
  | _ => none

/-- Takes what may end a line: blanks, a comment, and the line end or the end of the document. -/
def lineEnd? (input : List Char) : Option (List Char) :=
  let rest :=
    match skipSpaces input with
    | '#' :: comment => comment.dropWhile isCommentChar
    | rest => rest
  if rest.isEmpty then some [] else newline? rest

/-- A text from its first character on that is neither blank nor line end nor comment. A comment
that breaks off is not passed over, and neither is a lone carriage return. -/
def skipTrivia (inComment : Bool) : List Char → List Char
  | [] => []
  | '\n' :: rest => skipTrivia false rest
  | '\r' :: '\n' :: rest => skipTrivia false rest
  | c :: rest =>
    if inComment then if isCommentChar c then skipTrivia true rest else c :: rest
    else if isSpace c then skipTrivia false rest
    else if c = '#' then skipTrivia true rest
    else c :: rest

/-! ### Escapes -/

/-- The value of a hexadecimal digit. -/
def hexValue? (c : Char) : Option Nat :=
  if c.toNat < 0x80 then Json.hexValue? (UInt8.ofNat c.toNat) else none

/-- The number that hexadecimal digits spell. -/
def hexNumber? (digits : List Char) : Option Nat :=
  digits.foldlM (fun n c => (hexValue? c).map fun value => n * 16 + value) 0

/-- The character of a scalar value. -/
def charOf? (n : Nat) : Option Char :=
  if n.isValidChar then some (Char.ofNat n) else none

/-- The character that a letter stands for after a backslash. -/
def escaped? (letter : Char) : Option Char :=
  match letter with
  | '"' => some '"'
  | '\\' => some '\\'
  | 'b' => some '\x08'
  | 'f' => some '\x0c'
  | 'n' => some '\n'
  | 'r' => some '\r'
  | 't' => some '\t'
  | _ => none

/-- Characters that stand for themselves in a text between quotation marks. -/
def isPlainChar (c : Char) : Bool :=
  isCommentChar c && c != '"' && c != '\\'

/-- Characters that stand for themselves in a text between apostrophes. -/
def isLiteralChar (c : Char) : Bool :=
  isCommentChar c && c != '\''

/-! ### Texts on one line -/

/-- Reads the rest of a text between quotation marks. -/
def plainText? : List Char → Option (List Char × List Char)
  | [] => none
  | '"' :: rest => some ([], rest)
  | '\\' :: 'u' :: a :: b :: c :: d :: rest => do
    let char ← charOf? (← hexNumber? [a, b, c, d])
    let (text, rest) ← plainText? rest
    return (char :: text, rest)
  | '\\' :: 'U' :: a :: b :: c :: d :: e :: f :: g :: h :: rest => do
    let char ← charOf? (← hexNumber? [a, b, c, d, e, f, g, h])
    let (text, rest) ← plainText? rest
    return (char :: text, rest)
  | '\\' :: letter :: rest => do
    let char ← escaped? letter
    let (text, rest) ← plainText? rest
    return (char :: text, rest)
  | c :: rest =>
    if isPlainChar c then (plainText? rest).map fun (text, rest) => (c :: text, rest) else none

/-- Reads the rest of a text between apostrophes. -/
def literalText? (input : List Char) : Option (List Char × List Char) :=
  match input.dropWhile isLiteralChar with
  | '\'' :: rest => some (input.takeWhile isLiteralChar, rest)
  | _ => none

/-! ### Texts on several lines -/

/-- Whether a text is over after so many marks in a row: three end it, and one or two more in front
of them belong to it. -/
def closes (marks : Nat) : Bool :=
  3 ≤ marks

/-- A text from its first character on that is neither blank nor line end. -/
def skipBlankLines : List Char → List Char
  | '\r' :: '\n' :: rest => skipBlankLines rest
  | c :: rest => if isSpace c || c == '\n' then skipBlankLines rest else c :: rest
  | [] => []

/-- Takes the line end after a backslash, and all blanks and line ends after it. -/
def joinedLine? (input : List Char) : Option (List Char) :=
  (newline? (skipSpaces input)).map skipBlankLines

/-- Reads the rest of a text of several lines between quotation marks, after some marks in a row.
`fuel` bounds the number of steps. -/
def plainLines? : (fuel : Nat) → (marks : Nat) → List Char → Option (List Char × List Char)
  | 0, _, _ => none
  | fuel + 1, marks, input =>
    let go (char : Char) (rest : List Char) : Option (List Char × List Char) :=
      (plainLines? fuel 0 rest).map fun (text, rest) =>
        (List.replicate marks '"' ++ char :: text, rest)
    match input with
    | '"' :: rest =>
      if marks = 4 then some (['"', '"'], rest) else plainLines? fuel (marks + 1) rest
    | input =>
      if closes marks then some (List.replicate (marks - 3) '"', input)
      else
        match input with
        | '\\' :: rest =>
          match joinedLine? rest with
          | some rest =>
            (plainLines? fuel 0 rest).map fun (text, rest) =>
              (List.replicate marks '"' ++ text, rest)
          | none =>
            match rest with
            | 'u' :: a :: b :: c :: d :: rest => do
              go (← charOf? (← hexNumber? [a, b, c, d])) rest
            | 'U' :: a :: b :: c :: d :: e :: f :: g :: h :: rest => do
              go (← charOf? (← hexNumber? [a, b, c, d, e, f, g, h])) rest
            | letter :: rest => do go (← escaped? letter) rest
            | [] => none
        | '\r' :: '\n' :: rest => go '\n' rest
        | '\n' :: rest => go '\n' rest
        | c :: rest => if isPlainChar c then go c rest else none
        | [] => none

/-- Reads the rest of a text of several lines between apostrophes, after some of them in a row. -/
def literalLines? : (marks : Nat) → List Char → Option (List Char × List Char)
  | marks, '\'' :: rest =>
    if marks = 4 then some (['\'', '\''], rest) else literalLines? (marks + 1) rest
  | marks, [] => if closes marks then some (List.replicate (marks - 3) '\'', []) else none
  | marks, '\r' :: '\n' :: rest =>
    if closes marks then some (List.replicate (marks - 3) '\'', '\r' :: '\n' :: rest)
    else (literalLines? 0 rest).map fun (text, rest) =>
      (List.replicate marks '\'' ++ '\n' :: text, rest)
  | marks, c :: rest =>
    if closes marks then some (List.replicate (marks - 3) '\'', c :: rest)
    else if c = '\n' || isLiteralChar c then
      (literalLines? 0 rest).map fun (text, rest) => (List.replicate marks '\'' ++ c :: text, rest)
    else none

/-- A text of several lines does not begin with the line end after its first marks. -/
def skipFirstNewline (input : List Char) : List Char :=
  (newline? input).getD input

/-! ### All texts -/

/-- Reads a text on one line. -/
def lineText? : List Char → Option (List Char × List Char)
  | '"' :: rest => plainText? rest
  | '\'' :: rest => literalText? rest
  | _ => none

/-- Reads a text. -/
def text? : List Char → Option (List Char × List Char)
  | '"' :: '"' :: '"' :: rest => plainLines? (rest.length + 1) 0 (skipFirstNewline rest)
  | '\'' :: '\'' :: '\'' :: rest => literalLines? 0 (skipFirstNewline rest)
  | input => lineText? input

end SessionForge.Toml
