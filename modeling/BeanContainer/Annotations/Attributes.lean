/-
This file holds the attributes that a class or method gives to one of its markers, and the typed
reads of single attributes.
-/

import BeanContainer.Collection.Keyed
import BeanContainer.Error

namespace BeanContainer

/-- Nested attributes are kept in ascending name order. -/
inductive AttributeValue where
  | bool (value : Bool)
  | int (value : Int64)
  | string (value : String)
  | stringArray (values : List String)
  | nested (attributes : List (String × AttributeValue))
  | nestedArray (elements : List (List (String × AttributeValue)))

/-- The attributes of one marker, in ascending name order. -/
abbrev Attributes := List (String × AttributeValue)

instance : Inhabited AttributeValue := ⟨.bool false⟩

namespace AttributeValue

mutual

def same : AttributeValue → AttributeValue → Bool
  | .bool first, .bool second => first == second
  | .int first, .int second => first == second
  | .string first, .string second => first == second
  | .stringArray first, .stringArray second => first == second
  | .nested first, .nested second => sameAttributes first second
  | .nestedArray first, .nestedArray second => sameElements first second
  | _, _ => false

def sameAttributes : List (String × AttributeValue) → List (String × AttributeValue) → Bool
  | [], [] => true
  | (firstName, first) :: firstRest, (secondName, second) :: secondRest =>
      firstName == secondName && same first second && sameAttributes firstRest secondRest
  | _, _ => false

def sameElements :
    List (List (String × AttributeValue)) → List (List (String × AttributeValue)) → Bool
  | [], [] => true
  | first :: firstRest, second :: secondRest =>
      sameAttributes first second && sameElements firstRest secondRest
  | _, _ => false

end

mutual

/-- The comparison finds just equal values alike. -/
theorem same_iff : ∀ first second : AttributeValue, same first second = true ↔ first = second
  | .bool _, second => by cases second <;> simp [same]
  | .int _, second => by cases second <;> simp [same]
  | .string _, second => by cases second <;> simp [same]
  | .stringArray _, second => by cases second <;> simp [same]
  | .nested first, second => by cases second <;> simp [same, sameAttributes_iff first]
  | .nestedArray first, second => by cases second <;> simp [same, sameElements_iff first]

theorem sameAttributes_iff : ∀ first second : List (String × AttributeValue),
    sameAttributes first second = true ↔ first = second
  | [], second => by cases second <;> simp [sameAttributes]
  | (firstName, first) :: firstRest, second => by
      cases second with
      | nil => simp [sameAttributes]
      | cons head rest =>
          obtain ⟨secondName, second⟩ := head
          simp [sameAttributes, same_iff first, sameAttributes_iff firstRest, and_assoc]

theorem sameElements_iff : ∀ first second : List (List (String × AttributeValue)),
    sameElements first second = true ↔ first = second
  | [], second => by cases second <;> simp [sameElements]
  | first :: firstRest, second => by
      cases second with
      | nil => simp [sameElements]
      | cons head rest =>
          simp [sameElements, sameAttributes_iff first, sameElements_iff firstRest]

end

instance : DecidableEq AttributeValue := fun first second =>
  decidable_of_iff (same first second = true) (same_iff first second)

mutual

/-- Every nested group of attributes is in ascending name order, at every depth. -/
def WellFormed : AttributeValue → Prop
  | .nested attributes => Keyed.Ascending attributes ∧ AllWellFormed attributes
  | .nestedArray elements => ElementsWellFormed elements
  | _ => True

def AllWellFormed : List (String × AttributeValue) → Prop
  | [] => True
  | (_, value) :: rest => WellFormed value ∧ AllWellFormed rest

def ElementsWellFormed : List (List (String × AttributeValue)) → Prop
  | [] => True
  | element :: rest =>
      (Keyed.Ascending element ∧ AllWellFormed element) ∧ ElementsWellFormed rest

end

end AttributeValue

namespace Attributes

def get? (attributes : Attributes) (name : String) : Option AttributeValue :=
  attributes.lookup name

def contains (attributes : Attributes) (name : String) : Bool := (attributes.get? name).isSome

def insert (attributes : Attributes) (name : String) (value : AttributeValue) : Attributes :=
  Keyed.insert name value attributes

def required (attributes : Attributes) (name : String) : Except DefinitionError AttributeValue :=
  match attributes.get? name with
  | some value => .ok value
  | none => .error (.missingAttribute name)

def string (attributes : Attributes) (name : String) : Except DefinitionError String := do
  match ← attributes.required name with
  | .string value => .ok value
  | _ => .error (.attributeTypeMismatch name .string)

def bool (attributes : Attributes) (name : String) : Except DefinitionError Bool := do
  match ← attributes.required name with
  | .bool value => .ok value
  | _ => .error (.attributeTypeMismatch name .bool)

def number (attributes : Attributes) (name : String) : Except DefinitionError Int64 := do
  match ← attributes.required name with
  | .int value => .ok value
  | _ => .error (.attributeTypeMismatch name .number)

/-- A single text counts as a list of one. -/
def stringArray (attributes : Attributes) (name : String) :
    Except DefinitionError (List String) := do
  match ← attributes.required name with
  | .stringArray values => .ok values
  | .string value => .ok [value]
  | _ => .error (.attributeTypeMismatch name .stringArray)

/-- A single group counts as a list of one, and the empty list has no element kind of its own. -/
def nestedArray (attributes : Attributes) (name : String) :
    Except DefinitionError (List Attributes) := do
  match ← attributes.required name with
  | .nestedArray elements => .ok elements
  | .nested element => .ok [element]
  | .stringArray [] => .ok []
  | _ => .error (.attributeTypeMismatch name .nestedArray)

end Attributes

end BeanContainer
