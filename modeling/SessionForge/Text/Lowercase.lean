/-
The lower-case form of a text. Each character is put into lower case by itself, with two exceptions:
the capital I with a dot becomes two characters, an i and a combining dot, and the capital sigma
takes its final form at the end of a word, which depends on the characters around it.
-/

import SessionForge.Text.LetterCase

namespace SessionForge

/-- The lower-case form of a character by itself. -/
def lowercaseChar (c : Char) : List Char :=
  if c.toNat < 0x80 then [c.toLower]
  else if c.toNat = 0x130 then ['i', '\u0307']
  else [Char.ofNat (lowercaseIn lowercaseRuns c.toNat)]

/-- Whether the first character that is not passed over is cased. -/
def startsCased : List Char → Bool
  | [] => false
  | c :: rest => if isCaseIgnorable c then startsCased rest else isCased c

/-- The lower-case form of a text whose characters so far are given in reverse. -/
def lowercaseFrom (before : List Char) : List Char → List Char
  | [] => []
  | c :: rest =>
    let form :=
      if c = 'Σ' then
        if startsCased before && !startsCased rest then ['ς'] else ['σ']
      else lowercaseChar c
    form ++ lowercaseFrom (c :: before) rest

/-- The lower-case form of a text. -/
def lowercase (text : String) : List Char :=
  lowercaseFrom [] text.toList

end SessionForge
