/-
This file holds JSON values as they are written: members keep their order and repetitions, and a
number keeps the difference between an integer and any other spelling.
-/

namespace BeanContainer

inductive Json where
  | null
  | bool (value : Bool)
  /-- The number has digits only, with an optional minus sign, and is not the negative zero. -/
  | integer (value : Int)
  /-- The number is spelled in any other way. -/
  | decimal (spelling : String)
  | string (text : String)
  | array (items : List Json)
  | object (members : List (String × Json))
  /-- Some text in the value or in its keys is no sequence of characters. -/
  | illFormed

instance : Inhabited Json := ⟨.null⟩

namespace Json

/-- At most so many arrays and objects stand inside one another. -/
def fits : Nat → Json → Bool
  | 0, .array _ => false
  | 0, .object _ => false
  | levels + 1, .array items => items.all (fits levels)
  | levels + 1, .object members => members.all fun member => fits levels member.2
  | _, _ => true

def text? : Json → Option String
  | .string text => some text
  | _ => none

def bool? : Json → Option Bool
  | .bool value => some value
  | _ => none

def items? : Json → Option (List Json)
  | .array items => some items
  | _ => none

def members? : Json → Option (List (String × Json))
  | .object members => some members
  | _ => none

/-- Of a repeated member the last one counts. -/
def member? (key : String) : Json → Option Json
  | .object members => members.reverse.lookup key
  | _ => none

def texts? (value : Json) : Option (List String) := do
  let items ← value.items?
  items.mapM text?

/-- The fields of a record in the listed order. An object may hold further members but no field
twice; an array holds the first fields and nothing else. -/
def fields? (names : List String) : Json → Option (List (Option Json))
  | .array items =>
      if items.length ≤ names.length then
        some (items.map some ++ List.replicate (names.length - items.length) none)
      else none
  | .object members =>
      if names.all fun name => (members.filter fun member => member.1 == name).length ≤ 1 then
        some (names.map fun name => members.lookup name)
      else none
  | _ => none

/-- A missing field takes the given value. -/
def optional {Value : Type} (field : Option Json) (missing : Value)
    (decode : Json → Option Value) : Option Value :=
  match field with
  | none => some missing
  | some value => decode value

end Json

end BeanContainer
