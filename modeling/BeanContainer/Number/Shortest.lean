/-
This file writes a floating-point number with the fewest digits that read back, always in
positional form.
-/

import BeanContainer.Number.Bits64

namespace BeanContainer.Binary64

/-- The reals that round to a number: its neighbours' midpoints in quarters of the last place,
and whether the midpoints belong. -/
structure RoundingInterval where
  low : Ratio
  value : Ratio
  high : Ratio
  closed : Bool

/-- Below a power of two the numbers lie twice as close. -/
def roundingInterval (mantissa : Nat) (exponent : Int) : RoundingInterval :=
  let quarter := exponent - 2
  let lowQuarters :=
    if mantissa = fullMantissa ∧ exponent > leastExponent then 4 * mantissa - 1
    else 4 * mantissa - 2
  { low := (⟨lowQuarters, 1⟩ : Ratio).scale 2 quarter
    value := (⟨4 * mantissa, 1⟩ : Ratio).scale 2 quarter
    high := (⟨4 * mantissa + 2, 1⟩ : Ratio).scale 2 quarter
    closed := mantissa % 2 = 0 }

def Ratio.less (first second : Ratio) : Bool :=
  first.numerator * second.denominator < second.numerator * first.denominator

def RoundingInterval.contains (interval : RoundingInterval) (point : Ratio) : Bool :=
  if interval.closed then !point.less interval.low && !interval.high.less point
  else interval.low.less point && point.less interval.high

/-- The greatest power of ten that is not above the number. -/
def decimalPosition (value : Ratio) : Int :=
  let binary := (Nat.log2 value.numerator : Int) - Nat.log2 value.denominator
  let guess := Int.fdiv (binary * 30103) 100000
  let fits := fun position : Int => !value.less ((⟨1, 1⟩ : Ratio).scale 10 position)
  if fits (guess + 1) then guess + 1 else if fits guess then guess else guess - 1

/-- Of the two neighbours on a decimal grid that read back, the nearer one; a tie goes up. -/
def onGrid (interval : RoundingInterval) (position : Int) : Option Nat :=
  let scaled := interval.value.scale 10 (-position)
  let below := scaled.floor
  let point := fun digits : Nat => (⟨digits, 1⟩ : Ratio).scale 10 position
  let lowFits := 0 < below && interval.contains (point below)
  let highFits := interval.contains (point (below + 1))
  let upper := 2 * (scaled.numerator % scaled.denominator) ≥ scaled.denominator
  if lowFits && highFits then some (if upper then below + 1 else below)
  else if lowFits then some below
  else if highFits then some (below + 1)
  else none

/-- Tries grids with one digit more each time; with seventeen digits every number reads back. -/
def shortestFrom (interval : RoundingInterval) (position : Int) : Nat → Nat × Int
  | 0 => ((onGrid interval position).getD 0, position)
  | more + 1 =>
      match onGrid interval position with
      | some digits => (digits, position)
      | none => shortestFrom interval (position - 1) more

def shortest (mantissa : Nat) (exponent : Int) : Nat × Int :=
  let interval := roundingInterval mantissa exponent
  shortestFrom interval (decimalPosition interval.value) 17

/-- Writes the digits times a power of ten without an exponent and without idle zeros. -/
def positional (digits : Nat) (exponent : Int) : String :=
  let written := Nat.toDigits 10 digits
  if 0 ≤ exponent then String.ofList (written ++ List.replicate exponent.toNat '0')
  else
    let places := (-exponent).toNat
    let padded := List.replicate (places + 1 - written.length) '0' ++ written
    let whole := padded.take (padded.length - places)
    let fraction := padded.drop (padded.length - places)
    let kept := (fraction.reverse.dropWhile (· == '0')).reverse
    String.ofList (if kept.isEmpty then whole else whole ++ '.' :: kept)

def magnitudeText (mantissa : Nat) (exponent : Int) : String :=
  if mantissa = 0 then "0"
  else
    let (digits, position) := shortest mantissa exponent
    positional digits position

def signed (negative : Bool) (text : String) : String := if negative then "-" ++ text else text

def text : Binary64 → String
  | .nan => "NaN"
  | .infinite negative => signed negative "inf"
  | .finite negative mantissa exponent => signed negative (magnitudeText mantissa exponent)

end BeanContainer.Binary64
