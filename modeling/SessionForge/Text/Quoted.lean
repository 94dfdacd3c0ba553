/-
Quoting a text inside a message. The quotation mark and the backslash are escaped, as are the
usual control characters by letter and every other character without a shape of its own by its
scalar value in braces, so that the message shows exactly which text is meant.
-/

import SessionForge.Text.Printable

namespace SessionForge

/-- A natural number in lower-case hexadecimal digits. -/
def hexadecimal (n : Nat) : List Char :=
  Nat.toDigits 16 n

/-- A character inside a quoted text. -/
def showChar (c : Char) : List Char :=
  if c = '"' then ['\\', '"']
  else if c = '\\' then ['\\', '\\']
  else if c = '\n' then ['\\', 'n']
  else if c = '\r' then ['\\', 'r']
  else if c = '\t' then ['\\', 't']
  else if c = '\x00' then ['\\', '0']
  else if isPrintable c then [c]
  else ['\\', 'u', '{'] ++ hexadecimal c.toNat ++ ['}']

/-- A text between quotation marks, as messages show it. -/
def showText (text : String) : String :=
  String.ofList ('"' :: text.toList.flatMap showChar ++ ['"'])

end SessionForge
