/-
This file cuts a JSON text into tokens.
-/

import BeanContainer.Json.Value

namespace BeanContainer.Json

inductive Token where
  | openArray
  | closeArray
  | openObject
  | closeObject
  | comma
  | colon
  /-- A text between quotes, or nothing if its escapes leave half of a character alone. -/
  | text (content : Option String)
  /-- A number, a truth value or null. -/
  | scalar (value : Json)

def isSpace (character : Char) : Bool :=
  character == ' ' || character == '\t' || character == '\n' || character == '\r'

def hexDigit? (character : Char) : Option Nat :=
  if '0' ≤ character ∧ character ≤ '9' then some (character.toNat - 48)
  else if 'a' ≤ character ∧ character ≤ 'f' then some (character.toNat - 87)
  else if 'A' ≤ character ∧ character ≤ 'F' then some (character.toNat - 55)
  else none

def simpleEscape? : Char → Option Char
  | '"' => some '"'
  | '\\' => some '\\'
  | '/' => some '/'
  | 'b' => some (Char.ofNat 8)
  | 'f' => some (Char.ofNat 12)
  | 'n' => some '\n'
  | 'r' => some '\r'
  | 't' => some '\t'
  | _ => none

/-- Reads up to the closing quote. The units come out in reverse order; an escape by number gives
one unit and any other character gives its code point. -/
def stringUnits : List Char → List Nat → Option (List Nat × List Char)
  | [], _ => none
  | '"' :: rest, units => some (units, rest)
  | '\\' :: 'u' :: first :: second :: third :: fourth :: rest, units =>
      match hexDigit? first, hexDigit? second, hexDigit? third, hexDigit? fourth with
      | some a, some b, some c, some d =>
          stringUnits rest ((((a * 16 + b) * 16 + c) * 16 + d) :: units)
      | _, _, _, _ => none
  | '\\' :: escape :: rest, units =>
      match simpleEscape? escape with
      | some character => stringUnits rest (character.toNat :: units)
      | none => none
  | character :: rest, units =>
      if character == '\\' || character.toNat < 0x20 then none
      else stringUnits rest (character.toNat :: units)

/-- Joins the two halves of a split character. The units come in reverse order. -/
def joinUnits : List Nat → List Char → Option (List Char)
  | [], characters => some characters
  | [unit], characters =>
      if 0xD800 ≤ unit ∧ unit ≤ 0xDFFF then none else some (Char.ofNat unit :: characters)
  | unit :: earlier :: rest, characters =>
      if 0xDC00 ≤ unit ∧ unit ≤ 0xDFFF then
        if 0xD800 ≤ earlier ∧ earlier ≤ 0xDBFF then
          joinUnits rest
            (Char.ofNat (0x10000 + (earlier - 0xD800) * 0x400 + (unit - 0xDC00)) :: characters)
        else none
      else if 0xD800 ≤ unit ∧ unit ≤ 0xDBFF then none
      else joinUnits (earlier :: rest) (Char.ofNat unit :: characters)

def digits (characters : List Char) : List Char × List Char := characters.span Char.isDigit

/-- The whole part has no leading zero. -/
def wholePart (characters : List Char) : Option (List Char × List Char) :=
  match characters with
  | '0' :: rest => some (['0'], rest)
  | _ =>
      match digits characters with
      | ([], _) => none
      | found => some found

/-- A point must be followed by a digit. -/
def fractionPart (characters : List Char) : Option (List Char × List Char) :=
  match characters with
  | '.' :: rest =>
      match digits rest with
      | ([], _) => none
      | (found, after) => some ('.' :: found, after)
  | _ => some ([], characters)

/-- An exponent must have a digit. -/
def exponentPart (characters : List Char) : Option (List Char × List Char) :=
  match characters with
  | mark :: rest =>
      if mark == 'e' || mark == 'E' then
        let (sign, unsigned) :=
          match rest with
          | '+' :: after => (['+'], after)
          | '-' :: after => (['-'], after)
          | _ => ([], rest)
        match digits unsigned with
        | ([], _) => none
        | (found, after) => some (mark :: sign ++ found, after)
      else some ([], characters)
  | [] => some ([], [])

def naturalOf (decimals : List Char) : Nat :=
  decimals.foldl (fun total digit => total * 10 + (digit.toNat - 48)) 0

def number (characters : List Char) : Option (Json × List Char) := do
  let (negative, unsigned) :=
    match characters with
    | '-' :: rest => (true, rest)
    | _ => (false, characters)
  let (whole, afterWhole) ← wholePart unsigned
  let (fraction, afterFraction) ← fractionPart afterWhole
  let (exponent, rest) ← exponentPart afterFraction
  let spelling := (if negative then ['-'] else []) ++ whole ++ fraction ++ exponent
  if fraction.isEmpty && exponent.isEmpty && !(negative && naturalOf whole == 0) then
    let magnitude : Int := naturalOf whole
    return (.integer (if negative then -magnitude else magnitude), rest)
  else return (.decimal (String.ofList spelling), rest)

/-- The next token and what follows it. -/
def nextToken : List Char → Option (Token × List Char)
  | '[' :: rest => some (.openArray, rest)
  | ']' :: rest => some (.closeArray, rest)
  | '\x7b' :: rest => some (.openObject, rest)
  | '\x7d' :: rest => some (.closeObject, rest)
  | ',' :: rest => some (.comma, rest)
  | ':' :: rest => some (.colon, rest)
  | '"' :: rest => do
      let (units, after) ← stringUnits rest []
      return (.text ((joinUnits units []).map String.ofList), after)
  | 't' :: 'r' :: 'u' :: 'e' :: rest => some (.scalar (.bool true), rest)
  | 'f' :: 'a' :: 'l' :: 's' :: 'e' :: rest => some (.scalar (.bool false), rest)
  | 'n' :: 'u' :: 'l' :: 'l' :: rest => some (.scalar .null, rest)
  | characters => do
      let (value, rest) ← number characters
      return (.scalar value, rest)

/-- Each token takes at least one character, so a fuel of the text's length suffices. -/
def tokensWithin : Nat → List Char → List Token → Option (List Token)
  | _, [], found => some found.reverse
  | 0, _ :: _, _ => none
  | fuel + 1, character :: rest, found =>
      if isSpace character then tokensWithin fuel rest found
      else
        match nextToken (character :: rest) with
        | some (token, after) => tokensWithin fuel after (token :: found)
        | none => none

def tokens (text : String) : Option (List Token) :=
  let characters := text.toList
  tokensWithin characters.length characters []

end BeanContainer.Json
