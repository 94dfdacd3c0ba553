/-
The statements of a settings document, line by line: the header of a table, the header of one more
table of an array of tables, or a pair of a key and a value. Keys are paths of names.
-/

import SessionForge.Toml.Number
import SessionForge.Toml.Table

namespace SessionForge.Toml

/-! ### Keys -/

/-- Nesting of values and parts of keys are bounded by this number. -/
def greatestNesting : Nat :=
  79

/-- Characters of names that are written without quotation marks. -/
def isNameChar (c : Char) : Bool :=
  c.isAlphanum || c == '-' || c == '_'

/-- Reads a name. -/
def name? (input : List Char) : Option (String × List Char) :=
  match lineText? input with
  | some (chars, rest) => some (String.ofList chars, rest)
  | none =>
    let name := input.takeWhile isNameChar
    if name.isEmpty then none else some (String.ofList name, input.dropWhile isNameChar)

/-- Reads the names of a path, of which there must be one, with points between them. -/
def names? : (bound : Nat) → List Char → Option (List String × List Char)
  | 0, _ => none
  | bound + 1, input => do
    let (name, rest) ← name? (skipSpaces input)
    match skipSpaces rest with
    | '.' :: rest =>
      let (names, rest) ← names? bound rest
      return (name :: names, rest)
    | rest => return ([name], rest)

/-- Reads a key. -/
def key? (input : List Char) : Option (List String × List Char) :=
  names? greatestNesting input

/-! ### Values -/

/-- Reads a value. -/
abbrev ValueReader := List Char → Option (Toml × List Char)

/-- Reads the items of an array and its bracket; `fuel` bounds their number. -/
def items? (value : ValueReader) : (fuel : Nat) → List Char → Option (List Toml × List Char)
  | 0, _ => none
  | fuel + 1, input =>
    match skipTrivia false input with
    | ']' :: rest => some ([], rest)
    | input => do
      let (item, rest) ← value input
      match skipTrivia false rest with
      | ',' :: rest =>
        let (items, rest) ← items? value fuel rest
        return (item :: items, rest)
      | ']' :: rest => return ([item], rest)
      | _ => none

/-- Reads a pair: a key, the equals sign and a value. -/
def pair (value : ValueReader) (input : List Char) : Option ((List String × Toml) × List Char) := do
  let (key, rest) ← key? input
  match rest with
  | '=' :: rest =>
    let (value, rest) ← value (skipSpaces rest)
    return ((key, value), rest)
  | _ => none

/-- Reads the pairs of a table on one line and its brace, when at least one more pair must come. -/
def pairs? (value : ValueReader) :
    (fuel : Nat) → List Char → Option (List (List String × Toml) × List Char)
  | 0, _ => none
  | fuel + 1, input => do
    let (first, rest) ← pair value input
    match skipSpaces rest with
    | ',' :: rest =>
      let (pairs, rest) ← pairs? value fuel rest
      return (first :: pairs, rest)
    | '}' :: rest => return ([first], rest)
    | _ => none

/-- Reads a value without items and members. -/
def plainValue? (input : List Char) : Option (Toml × List Char) :=
  match input with
  | 't' :: 'r' :: 'u' :: 'e' :: rest => some (.boolean true, rest)
  | 'f' :: 'a' :: 'l' :: 's' :: 'e' :: rest => some (.boolean false, rest)
  | _ =>
    match text? input with
    | some (chars, rest) => some (.text (String.ofList chars), rest)
    | none =>
      match datetime? input with
      | some rest => some (.datetime, rest)
      | none => number? input

/-- Reads a value with at most some levels of nesting. -/
def value? : (levels : Nat) → ValueReader
  | 0, input => plainValue? input
  | levels + 1, input =>
    match input with
    | '[' :: rest =>
      (items? (value? levels) rest.length rest).map fun (items, rest) => (.array items, rest)
    | '{' :: rest =>
      match skipSpaces rest with
      | '}' :: rest => some (.table [], rest)
      | rest => do
        let (pairs, rest) ← pairs? (value? levels) rest.length rest
        let table ← Table.ofPairs? pairs
        return (.table table.members, rest)
    | input => plainValue? input

/-! ### Statements -/

/-- A statement of a document. -/
inductive Statement where
  | table (path : List String)
  | element (path : List String)
  | pair (path : List String) (value : Toml)

/-- Reads a statement and the end of its line. -/
def statement? : List Char → Option (Statement × List Char)
  | '[' :: '[' :: rest => do
    match ← key? rest with
    | (path, ']' :: ']' :: rest) => return (.element path, ← lineEnd? rest)
    | _ => none
  | '[' :: rest => do
    match ← key? rest with
    | (path, ']' :: rest) => return (.table path, ← lineEnd? rest)
    | _ => none
  | input => do
    let ((path, value), rest) ← pair (value? greatestNesting) input
    return (.pair path value, ← lineEnd? rest)

/-- Reads all statements of a document; `fuel` bounds the number of its lines. -/
def statements? : (fuel : Nat) → List Char → Option (List Statement)
  | 0, _ => none
  | fuel + 1, input =>
    match lineEnd? input with
    | some [] => some []
    | some rest => statements? fuel rest
    | none => do
      let (statement, rest) ← statement? (skipSpaces input)
      let more ← statements? fuel rest
      return statement :: more

/-- The statements of a document. A mark of the byte order at its front is passed over. -/
def documentStatements? (text : String) : Option (List Statement) :=
  let input :=
    match text.toList with
    | '\uFEFF' :: rest => rest
    | input => input
  statements? (input.length + 1) input

/-! ### Documents -/

/-- The table of a document with a statement more, under the header that was given last. -/
def Table.addStatement? (state : List String × Table) :
    Statement → Option (List String × Table)
  | .table path => (state.2.open? path).map fun table => (path, table)
  | .element path => (state.2.openElement? path).map fun table => (path, table)
  | .pair path value =>
    (state.2.descend? false (fun table => table.put? path value) state.1).map fun table =>
      (state.1, table)

/-- Reads a document; the result is a table. -/
def parse? (text : String) : Option Toml := do
  let statements ← documentStatements? text
  let (_, whole) ← statements.foldlM Table.addStatement? ([], Table.empty)
  return .table whole.members

end SessionForge.Toml
