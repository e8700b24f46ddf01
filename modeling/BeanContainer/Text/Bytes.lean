/-
This file shows bytes as text where some of them are no text. A byte that opens no character shows
as a replacement character, and so does each run of bytes that breaks off inside a character.
-/

namespace BeanContainer.Text

/-- The replacement character. -/
def replacement : Char := Char.ofNat 0xFFFD

/-- The least and the greatest value of each byte that follows the leading byte of a character. No
character has a longer form than it needs, and none is half of a pair. -/
def followers? (lead : UInt8) : Option (List (UInt8 × UInt8)) :=
  let follower := (0x80, 0xBF)
  if lead < 0x80 then some []
  else if lead < 0xC2 then none
  else if lead < 0xE0 then some [follower]
  else if lead = 0xE0 then some [(0xA0, 0xBF), follower]
  else if lead = 0xED then some [(0x80, 0x9F), follower]
  else if lead < 0xF0 then some [follower, follower]
  else if lead = 0xF0 then some [(0x90, 0xBF), follower, follower]
  else if lead < 0xF4 then some [follower, follower, follower]
  else if lead = 0xF4 then some [(0x80, 0x8F), follower, follower]
  else none

/-- The bytes at the front, as long as each of them lies in its range. -/
def takeWithin : List (UInt8 × UInt8) → List UInt8 → List UInt8
  | range :: ranges, byte :: bytes =>
      if range.1 ≤ byte ∧ byte ≤ range.2 then byte :: takeWithin ranges bytes else []
  | _, _ => []

/-- The bits that a leading byte gives to its character. -/
def leadingBits (lead : UInt8) : List UInt8 → Nat
  | [] => lead.toNat
  | [_] => lead.toNat % 32
  | [_, _] => lead.toNat % 16
  | _ => lead.toNat % 8

/-- Every following byte gives six bits. -/
def characterOfBytes (lead : UInt8) (following : List UInt8) : Char :=
  Char.ofNat (following.foldl (fun code byte => code * 64 + byte.toNat % 64)
    (leadingBits lead following))

def charactersShown : List UInt8 → List Char
  | [] => []
  | lead :: rest =>
      match followers? lead with
      | none => replacement :: charactersShown rest
      | some ranges =>
          let following := takeWithin ranges rest
          let character :=
            if following.length = ranges.length then characterOfBytes lead following
            else replacement
          character :: charactersShown (rest.drop following.length)
termination_by bytes => bytes.length

def shown (bytes : ByteArray) : String := String.ofList (charactersShown bytes.toList)

end BeanContainer.Text
