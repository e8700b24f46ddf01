/-
This file reads numbers, dates and times.
-/

import BeanContainer.Number.Bits64
import BeanContainer.Toml.Scanner
import BeanContainer.Toml.Value

namespace BeanContainer.Toml

open Scanner

def digit : Scanner Char := satisfying Char.isDigit

/-- A single underscore may stand between two digits. -/
def digitsOf (test : Char → Bool) : Scanner (List Char) := do
  let first ← satisfying test
  let rest ← many (satisfying test <|> (exactly '_' *> satisfying test))
  return first :: rest

/-- A decimal number of two or more digits does not start with a zero. -/
def decimalDigits : Scanner (List Char) := do
  let first ← digit
  if first = '0' then return [first]
  let rest ← many (digit <|> (exactly '_' *> digit))
  return first :: rest

/-- Whether there is a minus sign. -/
def sign : Scanner Bool :=
  (exactly '-' *> pure true) <|> (exactly '+' *> pure false) <|> pure false

def valueOfDigits (base : Nat) (digits : List Char) : Nat :=
  digits.foldl (fun total digit => total * base + (hexValue? digit).getD 0) 0

/-- An integer outside 64 bits is refused. -/
def integerOf (value : Int) : Scanner Value :=
  match signed64? value with
  | .some word => return .integer word
  | none => failure

def radixInteger (mark : String) (base : Nat) (test : Char → Bool) : Scanner Value := do
  Scanner.literal mark
  let digits ← digitsOf test
  integerOf (valueOfDigits base digits)

def integer : Scanner Value :=
  radixInteger "0x" 16 (fun character => (hexValue? character).isSome) <|>
    radixInteger "0o" 8 (fun character => '0' ≤ character && character ≤ '7') <|>
    radixInteger "0b" 2 (fun character => character == '0' || character == '1') <|>
    do
      let negative ← sign
      let magnitude : Int := valueOfDigits 10 (← decimalDigits)
      integerOf (if negative then -magnitude else magnitude)

def exponent : Scanner Int := do
  discard (satisfying fun character => character == 'e' || character == 'E')
  let negative ← sign
  let magnitude : Int := valueOfDigits 10 (← digitsOf Char.isDigit)
  return if negative then -magnitude else magnitude

def fraction : Scanner (List Char) := exactly '.' *> digitsOf Char.isDigit

/-- A number above the greatest float is refused. -/
def decimalFloat : Scanner Value := do
  let negative ← sign
  let whole ← decimalDigits
  let parts ← Scanner.optional fraction
  let power ← Scanner.optional exponent
  if parts.isNone && power.isNone then failure
  let digits := parts.getD []
  let value := Binary64.ofDecimal negative (valueOfDigits 10 (whole ++ digits))
    (power.getD 0 - digits.length)
  if value = .infinite false then failure
  return .float value

def specialFloat : Scanner Value := do
  let negative ← sign
  (Scanner.literal "inf" *> pure (.float (.infinite negative))) <|>
    (Scanner.literal "nan" *> pure (.float .nan))

def number (count : Nat) : Scanner Nat := do
  let digits ← (List.replicate count ()).mapM fun _ => digit
  return valueOfDigits 10 digits

def numberBetween (low high : Nat) : Scanner Nat := do
  let value ← number 2
  if low ≤ value ∧ value ≤ high then return value else failure

def date : Scanner Date := do
  let year ← number 4
  exactly '-'
  let month ← numberBetween 1 12
  exactly '-'
  let day ← numberBetween 1 (daysInMonth year month)
  return ⟨year, month, day⟩

/-- Digits after the ninth are dropped. -/
def nanoseconds : Scanner Nat := do
  exactly '.'
  let digits ← Scanner.some digit
  let kept := digits.take 9
  return valueOfDigits 10 kept * Nat.pow 10 (9 - kept.length)

def time : Scanner Time := do
  let hour ← numberBetween 0 23
  exactly ':'
  let minute ← numberBetween 0 59
  exactly ':'
  let second ← numberBetween 0 60
  let nanosecond ← nanoseconds <|> pure 0
  return ⟨hour, minute, second, nanosecond⟩

def offset : Scanner Offset :=
  (satisfying (fun character => character == 'Z' || character == 'z') *> pure .universal) <|>
  do
    let mark ← satisfying fun character => character == '+' || character == '-'
    let hour ← numberBetween 0 23
    exactly ':'
    let minute ← numberBetween 0 59
    let distance : Int := hour * 60 + minute
    return .minutes (if mark = '-' then -distance else distance)

def timeOfDate : Scanner (Time × Option Offset) := do
  discard (satisfying fun character => character == 'T' || character == 't' || character == ' ')
  let clock ← time
  let shift ← Scanner.optional offset
  return (clock, shift)

def datetime : Scanner Datetime :=
  (do
    let day ← date
    match ← Scanner.optional timeOfDate with
    | .some (clock, shift) => return .both day clock shift
    | none => return .date day) <|>
  Datetime.time <$> time

def scalar : Scanner Value :=
  (do return .string (← textValue)) <|>
    (Scanner.literal "true" *> pure (.boolean true)) <|>
    (Scanner.literal "false" *> pure (.boolean false)) <|>
    Value.datetime <$> datetime <|> decimalFloat <|> specialFloat <|> integer

end BeanContainer.Toml
