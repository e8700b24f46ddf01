/-
This file reads settings documents.
-/

import BeanContainer.Toml.Scalar
import BeanContainer.Toml.Section
import BeanContainer.Toml.Settled

namespace BeanContainer.Toml

open Scanner

/-- So many arrays and inline tables may stand inside one another, and so many keys may be joined
by dots. -/
def depthLimit : Nat := 79

def bareKey : Scanner (List Char) :=
  Scanner.some (satisfying fun character =>
    character.isAlphanum || character == '-' || character == '_')

def simpleKey : Scanner String := String.ofList <$> (basicText <|> literalText <|> bareKey)

/-- Blanks may stand around each key and each dot. -/
def dottedKey : Scanner (List String) := do
  let keys ← separated (blanks *> simpleKey <* blanks) (exactly '.')
  if keys.length ≤ depthLimit then return keys else failure

def pathAndKey (keys : List String) : Scanner (List String × String) :=
  match keys.getLast? with
  | .some key => return (keys.dropLast, key)
  | none => failure

/-- A comma may follow the last item. -/
def arrayOf (item : Scanner Value) : Scanner Value := do
  exactly '['
  let items ← Scanner.optional (separated (arraySpace *> item <* arraySpace) (exactly ','))
  if items.isSome then discard (Scanner.optional (exactly ','))
  arraySpace
  exactly ']'
  return .array (items.getD [])

def pairOf (item : Scanner Value) : Scanner (List String × String × Value) := do
  let (path, key) ← pathAndKey (← dottedKey)
  exactly '='
  blanks
  let value ← item
  blanks
  return (path, key, value)

/-- No comma follows the last pair, and the table stands on one line. -/
def inlineTableOf (item : Scanner Value) : Scanner Value := do
  exactly '\x7b'
  let pairs ← Scanner.optional (separated (pairOf item) (exactly ','))
  blanks
  exactly '\x7d'
  match tableOfPairs (pairs.getD []) with
  | .some table => return .table table
  | none => failure

def value : Nat → Scanner Value
  | 0 => scalar
  | depth + 1 => scalar <|> arrayOf (value depth) <|> inlineTableOf (value depth)

def assignment : Scanner Statement := do
  let (path, key) ← pathAndKey (← dottedKey)
  exactly '='
  blanks
  let assigned ← value depthLimit
  lineRest
  return .assignment path key assigned

def arrayHeader : Scanner Statement := do
  exactly '['
  exactly '['
  let keys ← dottedKey
  exactly ']'
  exactly ']'
  lineRest
  return .arrayHeader keys

def header : Scanner Statement := do
  exactly '['
  let keys ← dottedKey
  exactly ']'
  lineRest
  return .header keys

/-- A line may hold no statement. -/
def line : Scanner (Option Statement) := do
  let statement ←
    (comment *> (newline <|> atEnd) *> pure none) <|> (newline *> pure none) <|>
      Option.some <$> (arrayHeader <|> header <|> assignment)
  blanks
  return statement

/-- A document may start with a byte order mark. -/
def document : Scanner (List Statement) := do
  discard (Scanner.optional (exactly (Char.ofNat 0xFEFF)))
  blanks
  let lines ← many line
  atEnd
  return lines.filterMap id

def read (text : String) : Option Table := do
  let (statements, _) ← document text.toList
  settledEntries? (← tableOfStatements statements)

end BeanContainer.Toml
