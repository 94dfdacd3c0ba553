/-
Sets of search terms. The terms of a text are its runs of lower-case letters and digits after the
text has been put into lower case, without the words that say nothing about what is wanted.
-/

import SessionForge.Dictionary
import SessionForge.Text.Lowercase
import SessionForge.Text.Runs

namespace SessionForge

/-- A set of terms. -/
abbrev Terms := Dictionary Unit

namespace Terms

/-- The set of some words. -/
def ofWords (words : List String) : Terms :=
  .ofList (words.map fun word => (word, ()))

/-- Whether a term is in a set. -/
def contains (terms : Terms) (term : String) : Bool :=
  (terms.find? term).isSome

/-- Words that say nothing about what is wanted. -/
def stopWords : List String :=
  ["a", "an", "and", "app", "application", "build", "create", "for", "i", "in", "make", "me",
    "my", "of", "on", "please", "the", "to", "want", "with"]

/-- Whether a character is part of terms. -/
def isTermChar (c : Char) : Bool :=
  ('a' ≤ c && c ≤ 'z') || ('0' ≤ c && c ≤ '9')

/-- The terms in a text, in their order and as often as they occur. -/
def wordsOf (text : String) : List String :=
  ((runs isTermChar (lowercase text)).map String.ofList).filter fun word =>
    !stopWords.contains word

/-- The terms in some texts. -/
def ofTexts (texts : List String) : Terms :=
  ofWords (texts.flatMap wordsOf)

/-- The terms in a text. -/
def ofText (text : String) : Terms :=
  ofWords (wordsOf text)

end Terms

end SessionForge
