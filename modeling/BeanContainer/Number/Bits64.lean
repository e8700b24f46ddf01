/-
This file holds the numbers of 64 bits. Whole numbers with a sign are read if they fit, and binary
floating-point numbers are exact values to which decimal numbers are rounded.
-/

namespace BeanContainer

def signed64? (value : Int) : Option Int64 :=
  if Int64.minValue.toInt ≤ value ∧ value ≤ Int64.maxValue.toInt then some (Int64.ofInt value)
  else none

/-- The word has the value that was read. -/
theorem signed64?_eq_some_iff {value : Int} {word : Int64} :
    signed64? value = some word ↔ word.toInt = value := by
  constructor
  · intro found
    rw [signed64?] at found
    split at found
    · rename_i fits
      cases found
      exact Int64.toInt_ofInt_of_le fits.1 (Int.lt_add_one_of_le fits.2)
    · cases found
  · intro same
    subst same
    rw [signed64?, if_pos ⟨Int64.minValue_le_toInt word, Int64.toInt_le word⟩, Int64.ofInt_toInt]

/-- A finite number is its mantissa times a power of two. -/
inductive Binary64 where
  | nan
  | infinite (negative : Bool)
  | finite (negative : Bool) (mantissa : Nat) (exponent : Int)
deriving DecidableEq

namespace Binary64

/-- A number above zero as a fraction. -/
structure Ratio where
  numerator : Nat
  denominator : Nat

/-- The ratio times a power of the base. -/
def Ratio.scale (ratio : Ratio) (base : Nat) (exponent : Int) : Ratio :=
  if 0 ≤ exponent then ⟨ratio.numerator * Nat.pow base exponent.toNat, ratio.denominator⟩
  else ⟨ratio.numerator, ratio.denominator * Nat.pow base (-exponent).toNat⟩

def Ratio.floor (ratio : Ratio) : Nat := ratio.numerator / ratio.denominator

/-- Rounds to the nearest integer; a half goes to the even one. -/
def Ratio.roundEven (ratio : Ratio) : Nat :=
  let quotient := ratio.floor
  let twice := 2 * (ratio.numerator % ratio.denominator)
  if twice > ratio.denominator ∨ (twice = ratio.denominator ∧ quotient % 2 = 1) then quotient + 1
  else quotient

/-- Below this power of two a mantissa has no further digits. -/
def leastExponent : Int := -1074

/-- Above this power of two no mantissa of 53 digits fits. -/
def greatestExponent : Int := 971

/-- From here on a mantissa has 53 binary digits. -/
def fullMantissa : Nat := Nat.pow 2 52

/-- The mantissa has 53 digits unless the exponent is the least one. -/
def exponentFor (ratio : Ratio) : Int :=
  let guess := (Nat.log2 ratio.numerator : Int) - Nat.log2 ratio.denominator - 52
  let exponent :=
    if (ratio.scale 2 (-guess)).floor < fullMantissa then guess - 1 else guess
  max exponent leastExponent

def roundRatio (negative : Bool) (ratio : Ratio) : Binary64 :=
  let exponent := exponentFor ratio
  let mantissa := (ratio.scale 2 (-exponent)).roundEven
  let (mantissa, exponent) :=
    if mantissa = 2 * fullMantissa then (fullMantissa, exponent + 1) else (mantissa, exponent)
  if exponent > greatestExponent then .infinite negative
  else .finite negative mantissa exponent

/-- The nearest number to the digits times a power of ten. Far outside the range only the side
matters. -/
def ofDecimal (negative : Bool) (digits : Nat) (exponent : Int) : Binary64 :=
  let magnitude := exponent + (Nat.toDigits 10 digits).length
  if digits = 0 ∨ magnitude < -330 then .finite negative 0 leastExponent
  else if magnitude > 330 then .infinite negative
  else roundRatio negative ((⟨digits, 1⟩ : Ratio).scale 10 exponent)

end Binary64

end BeanContainer
