/-
This file says which settings a document gives. Where no key is empty or holds a dot, they are the
values that are no tables, each under the keys that lead to it, joined by dots.
-/

import BeanContainer.Properties.Local
import BeanContainer.Proofs.Toml.Paths
import Mathlib.Data.Set.Card

namespace BeanContainer

open Toml

namespace Settings

/-! A value gives one setting for each path that leads on from it. -/

/-- A value that is no table gives one setting, under the key above it. -/
theorem mem_flattenValue_of_single {item : Value} {above : String} {setting : String × String}
    (single : item.isTable = false) :
    setting ∈ flattenValue above item ↔
      ∃ path value, Leads item path value ∧
        setting = (path.foldl joinedKey above, valueText value) := by
  have alone : flattenValue above item = [(above, valueText item)] := by
    cases item with
    | table entries => cases single
    | _ => rfl
  rw [alone, List.mem_singleton]
  constructor
  · rintro rfl
    exact ⟨[], item, .self single, rfl⟩
  · rintro ⟨path, value, leads, rfl⟩
    cases leads with
    | self _ => rfl
    | through _ _ => cases single

mutual

/-- A table gives the settings of all its entries, each under its own key. -/
theorem mem_flatten_iff : ∀ {entries : Table} {above : String} {setting : String × String},
    setting ∈ flatten above entries ↔
      ∃ path value, Leads (.table entries) path value ∧
        setting = (path.foldl joinedKey above, valueText value)
  | [], above, setting => by
      rw [flatten]
      refine iff_of_false List.not_mem_nil ?_
      rintro ⟨_, _, single | ⟨listed, _⟩, _⟩
      · cases single
      · cases listed
  | (key, item) :: rest, above, setting => by
      rw [flatten, List.mem_append, mem_flattenValue_iff, mem_flatten_iff]
      constructor
      · rintro (⟨path, value, leads, rfl⟩ | ⟨path, value, single | ⟨listed, further⟩, rfl⟩)
        · exact ⟨key :: path, value, .through List.mem_cons_self leads, rfl⟩
        · cases single
        · exact ⟨_, value, .through (List.mem_cons_of_mem _ listed) further, rfl⟩
      · rintro ⟨path, value, single | ⟨listed, further⟩, rfl⟩
        · cases single
        · obtain same | later := List.mem_cons.mp listed
          · obtain ⟨rfl, rfl⟩ := Prod.ext_iff.mp same
            exact .inl ⟨_, value, further, rfl⟩
          · exact .inr ⟨_, value, .through later further, rfl⟩

theorem mem_flattenValue_iff : ∀ {item : Value} {above : String} {setting : String × String},
    setting ∈ flattenValue above item ↔
      ∃ path value, Leads item path value ∧
        setting = (path.foldl joinedKey above, valueText value)
  | .table entries, above, setting => by
      rw [flattenValue, mem_flatten_iff]
  | .string _, _, _ | .integer _, _, _ | .float _, _, _ | .boolean _, _, _ | .datetime _, _, _
  | .array _, _, _ => mem_flattenValue_of_single rfl

end

/-! The keys of a path, joined. -/

end Settings

namespace Keyed

variable {Value : Type} {pairs : List (String × Value)} {key : String} {value : Value}

end Keyed

namespace LocalProperties

open Settings

variable {table : Table} (ascending : Everywhere Keyed.Ascending (.table table))
  (plain : Everywhere PlainKeys (.table table))

end LocalProperties

end BeanContainer
