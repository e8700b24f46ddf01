/-
This file derives a bean name from a class name.
-/

import BeanContainer.Text.Characters

namespace BeanContainer.Naming

/-- What follows the last dot. -/
def afterLastDot (characters : List Char) : List Char :=
  (characters.reverse.takeWhile (· != '.')).reverse

/-- What stands before the first double dollar sign. -/
def beforeDoubleDollar : List Char → List Char
  | [] => []
  | '$' :: '$' :: _ => []
  | character :: rest => character :: beforeDoubleDollar rest

/-- A dollar sign separates an inner class from its outer class. -/
def dotted (characters : List Char) : List Char :=
  characters.map fun character => if character = '$' then '.' else character

/-- The name starts after the last dot. It ends at the first double dollar sign, which marks a
generated subclass, unless that lies at or before the start. -/
def shortClassName (className : String) : String :=
  let characters := className.toList
  let start := characters.length - (afterLastDot characters).length
  let stop := (beforeDoubleDollar characters).length
  if start < stop then String.ofList (dotted ((characters.take stop).drop start))
  else String.ofList (dotted (characters.drop start))

/-- A name that starts with two capitals stays as it is. -/
def decapitalize (name : String) : String :=
  match name.toList with
  | [] => ""
  | first :: second :: rest =>
      if Text.isUppercase first && Text.isUppercase second then name
      else String.ofList (Text.lowercase first ++ second :: rest)
  | [only] => String.ofList (Text.lowercase only)

end BeanContainer.Naming
