/-
This file settles a document once all of it has been read. A table that opens with the datetime key
stands for a date or a time, and the entries of all other tables are put into key order.
-/

import BeanContainer.Collection.Keyed
import BeanContainer.Toml.Scalar

namespace BeanContainer.Toml

/-- A table that opens with this key is no table. -/
def datetimeKey : String := "$__toml_private_datetime"

/-- The whole text has to be a date or a time. -/
def Datetime.ofText? (text : String) : Option Datetime :=
  ((datetime <* Scanner.atEnd).run text.toList).map Prod.fst

/-- What stands behind the datetime key has to be a text. -/
def Value.datetime? : Value → Option Value
  | .string text => (Datetime.ofText? text).map .datetime
  | _ => none

mutual

/-- The entries behind a datetime key do not count. -/
def Value.settled? : Value → Option Value
  | .array items => do return .array (← settledItems? items)
  | .table ((key, value) :: rest) =>
      if key = datetimeKey then value.datetime?
      else do return .table (Keyed.insert key (← value.settled?) (← settledEntries? rest))
  | value => some value

def settledItems? : List Value → Option (List Value)
  | [] => some []
  | item :: rest => do return (← item.settled?) :: (← settledItems? rest)

/-- The entries of a document, where the datetime key means nothing. -/
def settledEntries? : Table → Option Table
  | [] => some []
  | (key, value) :: rest => do
      return Keyed.insert key (← value.settled?) (← settledEntries? rest)

end

end BeanContainer.Toml
