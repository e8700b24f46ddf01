/-
This file sorts and changes characters: what counts as white space, the case test and the lowering
of single characters, and the case changes that touch ASCII letters only.
-/

import BeanContainer.Text.CaseTable

namespace BeanContainer.Text

/-- These are the code points with the White_Space property. -/
def isBlankCharacter (character : Char) : Bool :=
  let code := character.toNat
  (0x9 ≤ code && code ≤ 0xD) || code == 0x20 || code == 0x85 || code == 0xA0 || code == 0x1680 ||
    (0x2000 ≤ code && code ≤ 0x200A) || code == 0x2028 || code == 0x2029 || code == 0x202F ||
    code == 0x205F || code == 0x3000

/-- A text is blank when nothing but white space is in it. -/
def isBlank (text : String) : Bool := text.toList.all isBlankCharacter

def isUppercase (character : Char) : Bool :=
  uppercaseRuns.any fun run => run.contains character.toNat

/-- The dotted capital I is the one character whose lower-case form has two characters. -/
def lowercase (character : Char) : List Char :=
  if character.toNat == 0x130 then ['i', Char.ofNat 0x307]
  else
    match lowercaseRuns.find? fun run => run.1.contains character.toNat with
    | none => [character]
    | some (_, distance) => [Char.ofNat (character.toNat + distance).toNat]

def asciiUppercase (text : String) : String := text.map Char.toUpper

def asciiLowercase (text : String) : String := text.map Char.toLower

end BeanContainer.Text
