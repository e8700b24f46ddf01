/-
This file writes JSON values without blanks.
-/

import BeanContainer.Json.Value

namespace BeanContainer.Json

def writtenCharacter (character : Char) : List Char :=
  if character = '"' then ['\\', '"']
  else if character = '\\' then ['\\', '\\']
  else if character.toNat < 0x20 then
    let digits := Nat.toDigits 16 character.toNat
    ['\\', 'u'] ++ List.replicate (4 - digits.length) '0' ++ digits
  else [character]

def writtenText (text : String) : String :=
  String.ofList (['"'] ++ text.toList.flatMap writtenCharacter ++ ['"'])

mutual

/-- An ill-formed value has no text of its own and is written as null. -/
def write : Json → String
  | .null => "null"
  | .bool value => if value then "true" else "false"
  | .integer value => toString value
  | .decimal spelling => spelling
  | .string text => writtenText text
  | .array items => "[" ++ ",".intercalate (writeItems items) ++ "]"
  | .object members => "\x7b" ++ ",".intercalate (writeMembers members) ++ "\x7d"
  | .illFormed => "null"

def writeItems : List Json → List String
  | [] => []
  | item :: rest => write item :: writeItems rest

def writeMembers : List (String × Json) → List String
  | [] => []
  | (key, value) :: rest => (writtenText key ++ ":" ++ write value) :: writeMembers rest

end

end BeanContainer.Json
