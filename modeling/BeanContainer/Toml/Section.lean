/-
This file builds a table from the statements of a settings document, and refuses statements that
define something twice.
-/

import BeanContainer.Collection.Keyed
import BeanContainer.Toml.Value

namespace BeanContainer.Toml

/-- A line of a document that is no comment. -/
inductive Statement where
  | header (path : List String)
  | arrayHeader (path : List String)
  /-- The last key names the value and the keys before it lead to its table. -/
  | assignment (path : List String) (key : String) (value : Value)

/-- A table under construction has a header, lies above one, or comes from dotted keys. -/
inductive Origin where
  | header
  | implied
  | dotted
deriving DecidableEq

inductive Item where
  | leaf (value : Value)
  | group (origin : Origin) (entries : List (String × Item))
  /-- An array of tables, of which the last one is still open. -/
  | groups (closed : List (List (String × Item))) (last : List (String × Item))

/-- Items stand in the order in which their keys first appear. -/
abbrev Items := List (String × Item)

/-- A new item takes the place of an old one of the same key, or else stands last. -/
def Items.put (key : String) (item : Item) : Items → Items
  | [] => [(key, item)]
  | entry :: rest =>
      if entry.1 = key then (key, item) :: rest else entry :: Items.put key item rest

/-- A change to an open table, which depends on where the table comes from. -/
abbrev Change := Origin → Items → Option Items

/-- Walks along the keys and makes the tables that are missing. A walk along dotted keys does not
enter a table that has a header. -/
def walk (dotted : Bool) (change : Change) : List String → Change
  | [], origin, items => change origin items
  | key :: rest, _, items =>
      match items.lookup key with
      | none => do
          let origin := if dotted then Origin.dotted else Origin.implied
          let inner ← walk dotted change rest origin []
          return Items.put key (.group origin inner) items
      | some (.leaf _) => none
      | some (.group origin inner) => do
          if dotted && origin == .header then none
          let changed ← walk dotted change rest origin inner
          return Items.put key (.group origin changed) items
      | some (.groups closed last) => do
          let changed ← walk dotted change rest .header last
          return Items.put key (.groups closed changed) items

/-- Dotted keys reach only tables that dotted keys have made. -/
def assign (path : List String) (key : String) (value : Value) : Change :=
  walk true
    (fun origin items =>
      if (origin == .dotted) == path.isEmpty then none
      else if (items.lookup key).isSome then none
      else some (Items.put key (.leaf value) items))
    path

/-- A header may follow the headers of tables below it, but nothing else of its name. Its table then
moves behind all other items. -/
def openTable (key : String) : Change := fun _ items =>
  match items.lookup key with
  | none => some (Items.put key (.group .header []) items)
  | some (.group .implied inner) =>
      some (Items.put key (.group .header inner) (Keyed.erase key items))
  | _ => none

def openArrayElement (key : String) : Change := fun _ items =>
  match items.lookup key with
  | none => some (Items.put key (.groups [] []) items)
  | some (.groups closed last) => some (Items.put key (.groups (closed ++ [last]) []) items)
  | _ => none

/-- The document so far, and the path of the table that assignments go to. -/
structure DocumentState where
  root : Items := []
  current : List String := []

def DocumentState.run (state : DocumentState) : Statement → Option DocumentState
  | .header path => do
      let key ← path.getLast?
      let root ← walk false (openTable key) path.dropLast .header state.root
      return ⟨root, path⟩
  | .arrayHeader path => do
      let key ← path.getLast?
      let root ← walk false (openArrayElement key) path.dropLast .header state.root
      return ⟨root, path⟩
  | .assignment path key value => do
      let root ← walk false (assign path key value) state.current .header state.root
      return { state with root }

mutual

def Item.value : Item → Value
  | .leaf value => value
  | .group _ items => .table (tableOf items)
  | .groups closed last => .array (tablesOf closed ++ [.table (tableOf last)])

def tableOf : List (String × Item) → Table
  | [] => []
  | (key, item) :: rest => (key, item.value) :: tableOf rest

def tablesOf : List (List (String × Item)) → List Value
  | [] => []
  | items :: rest => .table (tableOf items) :: tablesOf rest

end

def tableOfStatements (statements : List Statement) : Option Table := do
  let state ← statements.foldlM DocumentState.run {}
  return tableOf state.root

/-- An inline table holds assignments only. -/
def tableOfPairs (pairs : List (List String × String × Value)) : Option Table :=
  tableOfStatements (pairs.map fun (path, key, value) => .assignment path key value)

end BeanContainer.Toml
