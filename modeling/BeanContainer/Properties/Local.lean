/-
This file holds settings that were read from a document or set at run time.
-/

import BeanContainer.Collection.SortedMap
import BeanContainer.Error
import BeanContainer.Toml.Reader
import BeanContainer.Toml.Writer

namespace BeanContainer

namespace Settings

mutual

/-- The items of an array are joined by commas, at every depth, and a table in an array is a
document of its own. -/
def valueText : Toml.Value → String
  | .string text => text
  | .integer value => toString value.toInt
  | .float value => value.text
  | .boolean value => if value then "true" else "false"
  | .datetime value => value.text
  | .array items => ",".intercalate (itemTexts items)
  | .table entries => Toml.Writer.document entries

def itemTexts : List Toml.Value → List String
  | [] => []
  | item :: rest => valueText item :: itemTexts rest

end

/-- Below an empty key there is no dot. -/
def joinedKey (above key : String) : String := if above.isEmpty then key else above ++ "." ++ key

mutual

/-- The settings of a table in the order of its keys; empty tables give none. -/
def flatten (above : String) : List (String × Toml.Value) → List (String × String)
  | [] => []
  | (key, value) :: rest => flattenValue (joinedKey above key) value ++ flatten above rest

def flattenValue (key : String) : Toml.Value → List (String × String)
  | .table entries => flatten key entries
  | value => [(key, valueText value)]

end

end Settings

/-- The settings together with the path of the file they came from. -/
structure LocalProperties where
  entries : SortedMap String := ∅
  origin : Option String := none

instance : Inhabited LocalProperties := ⟨{}⟩

namespace LocalProperties

/-- Of two settings with the same key the later one counts. -/
def ofTable (table : Toml.Table) : LocalProperties :=
  { entries := SortedMap.ofPairs (Settings.flatten "" table) }

def ofText (text : String) : Except ConfigError LocalProperties :=
  match Toml.read text with
  | some table => .ok (ofTable table)
  | none => .error .malformedToml

/-- Nothing stands for a file that cannot be opened, and bytes that are no text cannot be read. -/
def ofFile (path : String) (content : Option ByteArray) : Except ConfigError LocalProperties := do
  match content >>= String.fromUTF8? with
  | some text => return { (← ofText text) with origin := some path }
  | none => .error .unreadableFile

def get? (properties : LocalProperties) (key : String) : Option String :=
  properties.entries.get? key

def set (properties : LocalProperties) (key value : String) : LocalProperties :=
  { properties with entries := properties.entries.insert key value }

def erase (properties : LocalProperties) (key : String) : LocalProperties :=
  { properties with entries := properties.entries.erase key }

def size (properties : LocalProperties) : Nat := properties.entries.size

/-- The origin is forgotten too. -/
def clear (_ : LocalProperties) : LocalProperties := {}

def sourceName : String := "localProperties"

end LocalProperties

end BeanContainer
