/-
This file holds dates and times with their offset from universal time, and their written form.
-/

namespace BeanContainer.Toml

structure Date where
  year : Nat
  month : Nat
  day : Nat
deriving DecidableEq

/-- A leap second may be the sixty-first second of its minute. -/
structure Time where
  hour : Nat
  minute : Nat
  second : Nat
  nanosecond : Nat
deriving DecidableEq

inductive Offset where
  | universal
  | minutes (count : Int)
deriving DecidableEq

inductive Datetime where
  | date (date : Date)
  | time (time : Time)
  | both (date : Date) (time : Time) (offset : Option Offset)
deriving DecidableEq

def isLeapYear (year : Nat) : Bool :=
  year % 4 == 0 && (year % 100 != 0 || year % 400 == 0)

def daysInMonth (year month : Nat) : Nat :=
  if month = 2 then (if isLeapYear year then 29 else 28)
  else if month = 4 ∨ month = 6 ∨ month = 9 ∨ month = 11 then 30
  else 31

/-- At least the given number of digits, with zeros in front. -/
def paddedDigits (width value : Nat) : List Char :=
  let digits := Nat.toDigits 10 value
  List.replicate (width - digits.length) '0' ++ digits

def Date.characters (date : Date) : List Char :=
  paddedDigits 4 date.year ++ '-' :: paddedDigits 2 date.month ++ '-' :: paddedDigits 2 date.day

/-- A fraction of a second is written without idle zeros. -/
def Time.characters (time : Time) : List Char :=
  let fraction := ((paddedDigits 9 time.nanosecond).reverse.dropWhile (· == '0')).reverse
  paddedDigits 2 time.hour ++ ':' :: paddedDigits 2 time.minute ++ ':' ::
    paddedDigits 2 time.second ++ (if fraction.isEmpty then [] else '.' :: fraction)

def Offset.characters : Offset → List Char
  | .universal => ['Z']
  | .minutes count =>
      let distance := count.natAbs
      (if count < 0 then '-' else '+') ::
        paddedDigits 2 (distance / 60) ++ ':' :: paddedDigits 2 (distance % 60)

def Datetime.text : Datetime → String
  | .date day => String.ofList day.characters
  | .time clock => String.ofList clock.characters
  | .both day clock offset =>
      String.ofList (day.characters ++ 'T' :: clock.characters ++
        (match offset with
          | some offset => offset.characters
          | none => []))

end BeanContainer.Toml
