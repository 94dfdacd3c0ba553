/-
Whole patterns: alternatives of pieces that follow each other. A piece is a character, a class, an
escape or a group, with signs of repetition after it. A group may have a name, or switches of its
own; switches without a group hold until the group around them ends.
-/

import SessionForge.Pattern.CharClass
import SessionForge.Text.Alphanumeric

namespace SessionForge.Pattern

/-- Why a pattern was refused. -/
inductive PatternError where
  | malformed
  | wordBoundary
  deriving DecidableEq

/-- The message of a refused pattern. -/
def PatternError.message : PatternError → String
  | .malformed => "error building NFA"
  | .wordBoundary =>
    "unsupported regex feature for DFAs: cannot build DFAs for regexes with Unicode word "
      ++ "boundaries; switch to ASCII word boundaries, or heuristically enable Unicode word "
      ++ "boundaries or use a different regex engine"

/-! ### Openings of groups -/

/-- The text after a beginning that it may have. -/
def after? : (beginning text : List Char) → Option (List Char)
  | [], text => some text
  | _ :: _, [] => none
  | wanted :: more, c :: rest => if c = wanted then after? more rest else none

/-- Whether a group would look around itself, which no pattern may do. -/
def looksAround (input : List Char) : Bool :=
  [['?', '='], ['?', '!'], ['?', '<', '='], ['?', '<', '!']].any fun sign =>
    (after? sign input).isSome

/-- Whether a name of a group may go on with a character; it begins with a letter or a low line. -/
def isNameChar (atStart : Bool) (c : Char) : Bool :=
  if atStart then c = '_' || isAlphabetic c
  else c = '_' || c = '.' || c = '[' || c = ']' || isAlphanumeric c

/-- Reads the name of a group up to its bracket, after the part of it that has been read. -/
def readName : (read : List Char) → List Char → Option (List Char × List Char)
  | _, [] => none
  | read, c :: rest =>
    if c = '>' then if read.isEmpty then none else some (read.reverse, rest)
    else if isNameChar read.isEmpty c then readName (c :: read) rest
    else none

/-- The letters of the switches. -/
def switchLetters : List Char :=
  ['i', 'm', 's', 'U', 'u', 'R', 'x']

/-- Reads letters of switches and the hyphen that turns the later ones off, up to a colon or a
parenthesis, which is given too. Nothing may be written twice, and the hyphen not at the end. -/
def readSwitches : (read : List Char) → List Char → Option (List Char × Char × List Char)
  | _, [] => none
  | read, c :: rest =>
    if c = ':' ∨ c = ')' then
      if read.head? = some '-' then none else some (read.reverse, c, rest)
    else if read.contains c then none
    else if c = '-' || switchLetters.contains c then readSwitches (c :: read) rest
    else none

/-- What is said about a switch, if anything: it is off if its letter comes after the hyphen. -/
def said? (letter : Char) (letters : List Char) : Option Bool :=
  if letters.contains letter then some (!(letters.takeWhile (· != letter)).contains '-') else none

/-- The switches after some letters. -/
def Switches.change (switches : Switches) (letters : List Char) : Switches where
  spaced := (said? 'x' letters).getD switches.spaced
  unicode := (said? 'u' letters).getD switches.unicode

/-- What a parenthesis opens. -/
inductive Opening where
  | switches (letters : List Char)
  | group (letters : List Char) (name : Option (List Char))

/-- Reads what follows a parenthesis. -/
def readOpening (input : List Char) : Option (Opening × List Char) :=
  if looksAround input then none
  else
    match (after? ['?', 'P', '<'] input).or (after? ['?', '<'] input) with
    | some rest => do
      let (name, rest) ← readName [] rest
      return (.group [] (some name), rest)
    | none =>
      match input with
      | '?' :: rest => do
        let (letters, ending, rest) ← readSwitches [] rest
        if ending = ':' then return (.group letters none, rest)
        else if letters.isEmpty then none
        else return (.switches letters, rest)
      | rest => some (.group [] none, rest)

/-! ### Alternatives -/

/-- What is known of the whole pattern so far: the names of its groups, and whether it asks for the
boundaries of words. -/
structure Seen where
  names : List (List Char)
  boundary : Bool

/-- Alternatives that are being read. -/
structure OpenGroup where
  switches : Switches
  /-- The alternatives before the one that is being read. -/
  earlier : Tally
  /-- The pieces of the alternative that is being read. -/
  pieces : Tally
  /-- The height of the last piece, if it may be repeated. -/
  last : Option Nat

namespace OpenGroup

/-- A group of which nothing has been read. -/
def start (switches : Switches) : OpenGroup :=
  ⟨switches, .empty, .empty, none⟩

/-- One more piece. -/
def add (group : OpenGroup) (height : Nat) : OpenGroup :=
  { group with pieces := group.pieces.add height, last := some height }

/-- A piece that only sets switches, and may not be repeated. -/
def setSwitches (group : OpenGroup) (letters : List Char) : OpenGroup :=
  { group with
    switches := group.switches.change letters
    pieces := group.pieces.add 0
    last := none }

/-- The last piece repeated, if it may be. -/
def repeat? (group : OpenGroup) : Option OpenGroup :=
  group.last.map fun height =>
    { group with
      pieces := { group.pieces with height := max group.pieces.height (height + 1) }
      last := some (height + 1) }

/-- The group after the end of an alternative. -/
def alternate (group : OpenGroup) : OpenGroup :=
  { group with earlier := group.earlier.add group.pieces.total, pieces := .empty, last := none }

/-- The height of what has been read. -/
def height (group : OpenGroup) : Nat :=
  (group.earlier.add group.pieces.total).total

end OpenGroup

/-- Reads what an atom means in a pattern. -/
def Seen.note (seen : Seen) : Atom → Seen
  | .boundary => { seen with boundary := true }
  | .character _ | .charClass | .anchor => seen

/-- The text after the sign that makes a repetition reluctant, if there is one. -/
def skipReluctant : List Char → List Char
  | '?' :: rest => rest
  | rest => rest

/-- Reads the rest of a group, or of the whole pattern, and gives its height. Every call takes a
character, which bounds the fuel. -/
def readGroup : (fuel : Nat) → (inside : Bool) → OpenGroup → Seen → List Char →
    Option (Nat × Seen × List Char)
  | 0, _, _, _, _ => none
  | fuel + 1, inside, group, seen, input =>
    match skipBlanks group.switches input with
    | [] => if inside then none else some (group.height, seen, [])
    | c :: rest =>
      if c = '(' then do
        match ← readOpening (skipBlanks group.switches rest) with
        | (.switches letters, rest) =>
          readGroup fuel inside (group.setSwitches letters) seen rest
        | (.group letters name, rest) =>
          if seen.names.any fun known => name = some known then none
          else
            let seen := { seen with names := name.toList ++ seen.names }
            let inner := OpenGroup.start (group.switches.change letters)
            let (height, seen, rest) ← readGroup fuel true inner seen rest
            readGroup fuel inside (group.add (height + 1)) seen rest
      else if c = ')' then if inside then some (group.height, seen, rest) else none
      else if c = '|' then readGroup fuel inside group.alternate seen rest
      else if c = '[' then do
        let (height, rest) ←
          readClass group.switches fuel .start (← readClassStart group.switches rest)
        readGroup fuel inside (group.add (height + 1)) seen rest
      else if c = '*' ∨ c = '+' ∨ c = '?' then do
        readGroup fuel inside (← group.repeat?) seen (skipReluctant rest)
      else if c = '{' then none
      else if c = '\\' then do
        let (atom, rest) ← readEscape group.switches rest
        readGroup fuel inside (group.add 0) (seen.note atom) rest
      else if c = '.' && !group.switches.unicode then none
      else readGroup fuel inside (group.add 0) seen rest

/-! ### Whole patterns -/

/-- The height that no pattern may exceed. -/
def greatestHeight : Nat :=
  250

/-- Checks a pattern. -/
def check (pattern : List Char) : Except PatternError Unit :=
  match readGroup (pattern.length + 1) false (.start default) ⟨[], false⟩ pattern with
  | none => .error .malformed
  | some (height, seen, _) =>
    if greatestHeight < height then .error .malformed
    else if seen.boundary then .error .wordBoundary
    else .ok ()

end SessionForge.Pattern
