/-
This file says where a path of keys leads in a settings document. In a document that was read, every
table that a path passes is in ascending key order, so a path leads to one value at most.
-/

import BeanContainer.Toml.Reader

namespace BeanContainer.Toml

/-- The keys lead through tables only, to a value that is no table. -/
inductive Leads : Value → List String → Value → Prop where
  | self {value : Value} (single : value.isTable = false) : Leads value [] value
  | through {entries : Table} {key : String} {item value : Value} {path : List String}
      (listed : (key, item) ∈ entries) (further : Leads item path value) :
      Leads (.table entries) (key :: path) value

/-- The table is the value itself, or lies below it behind tables only. -/
inductive Reaches : Value → Table → Prop where
  | self (entries : Table) : Reaches (.table entries) entries
  | through {entries reached : Table} {key : String} {item : Value}
      (listed : (key, item) ∈ entries) (further : Reaches item reached) :
      Reaches (.table entries) reached

/-- Every table that keys reach through tables has the property. -/
def Everywhere (property : Table → Prop) (value : Value) : Prop :=
  ∀ reached, Reaches value reached → property reached

section Paths

variable {property : Table → Prop} {entries : Table} {path : List String}
  {origin value other : Value}

/-- A property holds everywhere in a table if it holds of the table itself and everywhere below its
keys. -/
theorem everywhere_table_iff :
    Everywhere property (.table entries) ↔
      property entries ∧ ∀ entry ∈ entries, Everywhere property entry.2 := by
  constructor
  · intro everywhere
    exact ⟨everywhere _ (.self _), fun entry listed reached further =>
      everywhere reached (.through listed further)⟩
  · rintro ⟨here, below⟩ reached (_ | ⟨listed, further⟩)
    · exact here
    · exact below _ listed reached further

end Paths

/-! A settled document has all its tables in key order. -/

/-- A value that is no table has no table below it. -/
theorem everywhere_of_single {property : Table → Prop} {value : Value}
    (single : value.isTable = false) : Everywhere property value := by
  rintro reached (_ | _) <;> cases single

/-- The tables stay in order when a value whose tables are in order is put in. -/
theorem everywhere_ascending_insert {key : String} {value : Value} {rest : Table}
    (ofValue : Everywhere Keyed.Ascending value)
    (ofRest : Everywhere Keyed.Ascending (.table rest)) :
    Everywhere Keyed.Ascending (.table (Keyed.insert key value rest)) := by
  obtain ⟨ascending, below⟩ := everywhere_table_iff.mp ofRest
  refine everywhere_table_iff.mpr ⟨ascending.insert, fun entry listed => ?_⟩
  obtain same | old := Keyed.insert_mem listed
  · obtain rfl := same
    exact ofValue
  · exact below _ old

/-- The empty table is in order. -/
theorem everywhere_ascending_nil : Everywhere Keyed.Ascending (.table []) :=
  everywhere_table_iff.mpr ⟨List.Pairwise.nil, nofun⟩

/-- A date is no table. -/
theorem Value.isTable_of_datetime? {value settled : Value}
    (found : value.datetime? = some settled) : settled.isTable = false := by
  cases value with
  | string text =>
      obtain ⟨moment, _, rfl⟩ := Option.map_eq_some_iff.mp found
      rfl
  | _ => cases found

mutual

/-- Settling a value puts all tables below it in order. -/
theorem ascending_of_settled? : ∀ {value settled : Value}, value.settled? = some settled →
    Everywhere Keyed.Ascending settled
  | .table ((key, value) :: rest), settled, found => by
      rw [Value.settled?] at found
      split at found
      · exact everywhere_of_single (Value.isTable_of_datetime? found)
      · obtain ⟨settledValue, valueFound, restBound⟩ := Option.bind_eq_some_iff.mp found
        obtain ⟨settledRest, restFound, same⟩ := Option.bind_eq_some_iff.mp restBound
        obtain rfl := Option.some.inj same
        exact everywhere_ascending_insert (ascending_of_settled? valueFound)
          (ascending_of_settledEntries? restFound)
  | .table [], _, found => by
      obtain rfl := Option.some.inj found
      exact everywhere_ascending_nil
  | .array items, _, found => by
      rw [Value.settled?] at found
      obtain ⟨settledItems, _, same⟩ := Option.bind_eq_some_iff.mp found
      obtain rfl := Option.some.inj same
      exact everywhere_of_single rfl
  | .string _, _, found | .integer _, _, found | .float _, _, found | .boolean _, _, found
  | .datetime _, _, found => by
      obtain rfl := Option.some.inj found
      exact everywhere_of_single rfl

/-- Settling the entries of a document puts it in order, and all tables below it. -/
theorem ascending_of_settledEntries? : ∀ {entries settled : Table},
    settledEntries? entries = some settled → Everywhere Keyed.Ascending (.table settled)
  | [], _, found => by
      obtain rfl := Option.some.inj found
      exact everywhere_ascending_nil
  | (key, value) :: rest, _, found => by
      rw [settledEntries?] at found
      obtain ⟨settledValue, valueFound, restBound⟩ := Option.bind_eq_some_iff.mp found
      obtain ⟨settledRest, restFound, same⟩ := Option.bind_eq_some_iff.mp restBound
      obtain rfl := Option.some.inj same
      exact everywhere_ascending_insert (ascending_of_settled? valueFound)
        (ascending_of_settledEntries? restFound)

end

end BeanContainer.Toml
