/-
This file writes a text between double quotes, with an escape for every character that would not
show as itself.
-/

import BeanContainer.Text.EscapeTable

namespace BeanContainer.Text

def isEscaped (character : Char) : Bool :=
  escapedRanges.any fun range => range.1 ≤ character.toNat && character.toNat ≤ range.2

/-- A character without a short escape is written as its code point in hexadecimal. -/
def codePointEscape (character : Char) : List Char :=
  ['\\', 'u', Char.ofNat 0x7B] ++ Nat.toDigits 16 character.toNat ++ [Char.ofNat 0x7D]

/-- The apostrophe stands for itself. -/
def quotedCharacter (character : Char) : List Char :=
  if character = '"' then ['\\', '"']
  else if character = '\\' then ['\\', '\\']
  else if character = '\n' then ['\\', 'n']
  else if character = '\r' then ['\\', 'r']
  else if character = '\t' then ['\\', 't']
  else if character.toNat = 0 then ['\\', '0']
  else if isEscaped character then codePointEscape character
  else [character]

def quoted (text : String) : String :=
  String.ofList (['"'] ++ text.toList.flatMap quotedCharacter ++ ['"'])

/-- A list of texts stands in square brackets, with a comma and a space between two texts. -/
def quotedList (texts : List String) : String :=
  "[" ++ ", ".intercalate (texts.map quoted) ++ "]"

end BeanContainer.Text
