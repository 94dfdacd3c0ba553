/-
Classes of characters in brackets. A class lists characters, ranges of characters and other classes,
and may combine such lists by intersection, difference and symmetric difference. It may be negated.
-/

import SessionForge.Pattern.Escape

namespace SessionForge.Pattern

/-! ### Heights -/

/-- Some parts that stand side by side: how many they are, and the height of the highest. -/
structure Tally where
  count : Nat
  height : Nat
  deriving DecidableEq

namespace Tally

/-- No parts. -/
def empty : Tally :=
  ⟨0, 0⟩

/-- One more part. -/
def add (tally : Tally) (height : Nat) : Tally :=
  ⟨tally.count + 1, max tally.height height⟩

/-- The height of all parts together. A single part stands for itself. -/
def total (tally : Tally) : Nat :=
  if tally.count ≤ 1 then tally.height else tally.height + 1

end Tally

/-! ### Classes by name -/

/-- The names of the classes of ASCII. -/
def classNames : List String :=
  ["alnum", "alpha", "ascii", "blank", "cntrl", "digit", "graph", "lower", "print", "punct",
    "space", "upper", "word", "xdigit"]

/-- Reads a class by its name, between a bracket with a colon and a colon with a bracket; the first
bracket has been taken. Also whether it is negated. -/
def readNamedClass? : List Char → Option (Bool × List Char)
  | ':' :: rest =>
    let (negated, rest) :=
      match rest with
      | '^' :: more => (true, more)
      | more => (false, more)
    match rest.dropWhile (· != ':') with
    | ':' :: ']' :: after =>
      if classNames.contains (String.ofList (rest.takeWhile (· != ':'))) then some (negated, after)
      else none
    | _ => none
  | _ => none

/-! ### Items -/

/-- Reads a character or an escape of a class. -/
def readClassAtom (switches : Switches) : List Char → Option (Atom × List Char)
  | [] => none
  | '\\' :: rest => readEscape switches rest
  | c :: rest => some (.character c, rest)

/-- Whether something may stand in a class. Beyond ASCII there are only classes of all
characters. -/
def Atom.fitsClass (switches : Switches) : Atom → Bool
  | .character c => switches.unicode || c.toNat < 0x80
  | .charClass => true
  | .boundary | .anchor => false

/-- Whether something may stand in a class as the range from it to something else. -/
def Atom.fitsRange (switches : Switches) : Atom → Atom → Bool
  | .character first, .character last =>
    (Atom.character first).fitsClass switches && (Atom.character last).fitsClass switches
      && first ≤ last
  | _, _ => false

/-- Reads a character, a range or a class by its letter. A hyphen before the closing bracket or
before another hyphen makes no range. -/
def readClassItem (switches : Switches) (input : List Char) : Option (List Char) := do
  let (first, rest) ← readClassAtom switches input
  match skipBlanks switches rest with
  | [] => none
  | '-' :: after =>
    let next := peek? switches after
    if next = some ']' ∨ next = some '-' then
      if first.fitsClass switches then some ('-' :: after) else none
    else
      let (last, rest) ← readClassAtom switches (skipBlanks switches after)
      if first.fitsRange switches last then some rest else none
  | rest => if first.fitsClass switches then some rest else none

/-! ### Whole classes -/

/-- A class that is being read: its parts since the last operator, the height of what stands before
that operator, and whether nothing but hyphens has been read. -/
structure OpenClass where
  parts : Tally
  before : Option Nat
  opening : Bool

namespace OpenClass

/-- A class of which nothing has been read. -/
def start : OpenClass :=
  ⟨.empty, none, true⟩

/-- One more part. -/
def add (cls : OpenClass) (height : Nat) : OpenClass :=
  { cls with parts := cls.parts.add height, opening := false }

/-- The height of what has been read. -/
def height (cls : OpenClass) : Nat :=
  match cls.before with
  | none => cls.parts.total
  | some before => max before cls.parts.total + 1

/-- The class after an operator. -/
def combine (cls : OpenClass) : OpenClass :=
  ⟨.empty, some cls.height, false⟩

end OpenClass

/-- Whether two characters are an operator. -/
def isOperator (first second : Char) : Bool :=
  first = second && (first = '&' || first = '-' || first = '~')

/-- Reads the bracket and the sign of a class whose bracket has been taken. Where only ASCII is
known, a negated class is malformed, since it holds bytes that are no text. -/
def readClassStart (switches : Switches) (input : List Char) : Option (List Char) :=
  match skipBlanks switches input with
  | '^' :: rest => if switches.unicode then some rest else none
  | rest => some rest

/-- Reads the rest of a class, and gives its height. At its beginning, hyphens and after them no
bracket stand for themselves, and so does a bracket without hyphens before it. Every call takes a
character, which bounds the fuel. -/
def readClass (switches : Switches) : (fuel : Nat) → OpenClass → List Char →
    Option (Nat × List Char)
  | 0, _, _ => none
  | fuel + 1, cls, input =>
    match skipBlanks switches input with
    | [] => none
    | c :: rest =>
      if c = '-' && cls.opening then
        readClass switches fuel { cls.add 0 with opening := true } rest
      else if c = ']' then
        if cls.opening && cls.parts.count = 0 then readClass switches fuel (cls.add 0) rest
        else some (cls.height, rest)
      else if c = '[' then
        match readNamedClass? rest with
        | some (negated, rest) =>
          if negated && !switches.unicode then none
          else readClass switches fuel (cls.add 0) rest
        | none => do
          let (height, rest) ← readClass switches fuel .start (← readClassStart switches rest)
          readClass switches fuel (cls.add (height + 1)) rest
      else
        match rest with
        | next :: more =>
          if isOperator c next then readClass switches fuel cls.combine more
          else do readClass switches fuel (cls.add 0) (← readClassItem switches (c :: rest))
        | [] => none

end SessionForge.Pattern
