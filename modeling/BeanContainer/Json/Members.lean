/-
This file reads single members of an object by their key and kind.
-/

import BeanContainer.Collection.Keyed
import BeanContainer.Json.Value

namespace BeanContainer.Json

mutual

/-- Every object has its keys in ascending order and each once. Of a repeated member the last one
counts. -/
def distinct : Json → Json
  | .array items => .array (distinctItems items)
  | .object members => .object (Keyed.ofPairs (distinctMembers members))
  | value => value

def distinctItems : List Json → List Json
  | [] => []
  | item :: rest => distinct item :: distinctItems rest

def distinctMembers : List (String × Json) → List (String × Json)
  | [] => []
  | (key, value) :: rest => (key, distinct value) :: distinctMembers rest

end

/-- A missing member counts as null. -/
def valueAt (value : Json) (key : String) : Json := (value.member? key).getD .null

def integer? : Json → Option Int
  | .integer value => some value
  | _ => none

def byte? (value : Json) : Option UInt8 := do
  let number ← value.integer?
  if 0 ≤ number ∧ number < 256 then some (UInt8.ofNat number.toNat) else none

def textAt? (value : Json) (key : String) : Option String := (value.valueAt key).text?

def boolAt? (value : Json) (key : String) : Option Bool := (value.valueAt key).bool?

/-- A switch that is not set is off. -/
def isOn (value : Json) (key : String) : Bool := (value.boolAt? key).getD false

/-- The items of a list that may be missing. -/
def itemsAt (value : Json) (key : String) : List Json := ((value.valueAt key).items?).getD []

/-- The texts in a list that may be missing. -/
def textsAt (value : Json) (key : String) : List String := (value.itemsAt key).filterMap text?

/-- The members of an object that may be missing. -/
def membersAt (value : Json) (key : String) : List (String × Json) :=
  ((value.valueAt key).members?).getD []

/-- The bytes in a list of numbers. -/
def bytes (value : Json) : ByteArray :=
  ⟨((value.items?.getD []).filterMap byte?).toArray⟩

end BeanContainer.Json
