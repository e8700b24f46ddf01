/-
This file holds the values of a settings document.
-/

import BeanContainer.Number.Bits64
import BeanContainer.Toml.Datetime

namespace BeanContainer.Toml

/-- A table has no key twice. Its entries stand as they appear in the document until the whole
document is settled, and in ascending key order from then on. -/
inductive Value where
  | string (text : String)
  | integer (value : Int64)
  | float (value : Binary64)
  | boolean (value : Bool)
  | datetime (value : Datetime)
  | array (items : List Value)
  | table (entries : List (String × Value))

instance : Inhabited Value := ⟨.boolean false⟩

abbrev Table := List (String × Value)

mutual

def Value.same : Value → Value → Bool
  | .string first, .string second => first == second
  | .integer first, .integer second => first == second
  | .float first, .float second => first == second
  | .boolean first, .boolean second => first == second
  | .datetime first, .datetime second => first == second
  | .array first, .array second => sameItems first second
  | .table first, .table second => sameEntries first second
  | _, _ => false

def sameItems : List Value → List Value → Bool
  | [], [] => true
  | first :: firstRest, second :: secondRest =>
      first.same second && sameItems firstRest secondRest
  | _, _ => false

def sameEntries : List (String × Value) → List (String × Value) → Bool
  | [], [] => true
  | (firstKey, first) :: firstRest, (secondKey, second) :: secondRest =>
      firstKey == secondKey && first.same second && sameEntries firstRest secondRest
  | _, _ => false

end

mutual

/-- The comparison finds just equal values alike. -/
theorem Value.same_iff : ∀ first second : Value, first.same second = true ↔ first = second
  | .string _, second | .integer _, second | .float _, second | .boolean _, second
  | .datetime _, second => by cases second <;> simp [Value.same]
  | .array first, second => by cases second <;> simp [Value.same, sameItems_iff first]
  | .table first, second => by cases second <;> simp [Value.same, sameEntries_iff first]

theorem sameItems_iff : ∀ first second : List Value,
    sameItems first second = true ↔ first = second
  | [], second => by cases second <;> simp [sameItems]
  | first :: firstRest, second => by
      cases second with
      | nil => simp [sameItems]
      | cons head rest => simp [sameItems, first.same_iff, sameItems_iff firstRest]

theorem sameEntries_iff : ∀ first second : List (String × Value),
    sameEntries first second = true ↔ first = second
  | [], second => by cases second <;> simp [sameEntries]
  | (firstKey, first) :: firstRest, second => by
      cases second with
      | nil => simp [sameEntries]
      | cons head rest =>
          obtain ⟨secondKey, second⟩ := head
          simp [sameEntries, first.same_iff, sameEntries_iff firstRest, and_assoc]

end

/-- Equality of documents can be decided, so that what is read from a text can be computed. -/
instance : DecidableEq Value := fun first second =>
  decidable_of_iff (first.same second = true) (first.same_iff second)

def Value.isTable : Value → Bool
  | .table _ => true
  | _ => false

/-- The items of an array that holds tables only, and at least one. -/
def Value.isTableArray : Value → Bool
  | .array items => !items.isEmpty && items.all Value.isTable
  | _ => false

end BeanContainer.Toml
