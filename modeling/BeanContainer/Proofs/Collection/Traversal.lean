/-
This file holds what is known of a list whose items are all turned into parts, where each may fail.
-/

namespace BeanContainer

variable {Item Part : Type} {partOf : Item → Option Part}

/-- Where no item fails the parts are the results of the items. -/
theorem mapM_eq_some {result : Item → Part} {items : List Item}
    (found : ∀ item ∈ items, partOf item = some (result item)) :
    items.mapM partOf = some (items.map result) := by
  induction items with
  | nil => rfl
  | cons item rest inductionHypothesis =>
      have here := found item List.mem_cons_self
      have later := inductionHypothesis fun other member =>
        found other (List.mem_cons_of_mem _ member)
      simp [here, later]

/-- A traversal succeeds just if no item fails. -/
theorem isSome_mapM_iff {items : List Item} :
    (items.mapM partOf).isSome ↔ ∀ item ∈ items, (partOf item).isSome := by
  induction items with
  | nil => simp
  | cons item rest inductionHypothesis =>
      rw [List.mapM_cons, List.forall_mem_cons, ← inductionHypothesis]
      cases partOf item with
      | none => simp
      | some part => cases rest.mapM partOf <;> simp

/-- Every part was made of some item. -/
theorem exists_of_mem_mapM {items : List Item} {parts : List Part} {part : Part}
    (found : items.mapM partOf = some parts) (member : part ∈ parts) :
    ∃ item ∈ items, partOf item = some part := by
  induction items generalizing parts with
  | nil =>
      cases found
      cases member
  | cons item rest inductionHypothesis =>
      rw [List.mapM_cons] at found
      obtain ⟨first, here, found⟩ := Option.bind_eq_some_iff.mp found
      obtain ⟨others, later, found⟩ := Option.bind_eq_some_iff.mp found
      cases found
      obtain rfl | isLater := List.mem_cons.mp member
      · exact ⟨item, List.mem_cons_self, here⟩
      · obtain ⟨other, isOther, same⟩ := inductionHypothesis later isLater
        exact ⟨other, List.mem_cons_of_mem _ isOther, same⟩

/-- A change leaves a list alone just if it leaves each of its items alone. -/
theorem map_eq_self_iff {change : Item → Item} {items : List Item} :
    items.map change = items ↔ ∀ item ∈ items, change item = item := by
  induction items with
  | nil => simp
  | cons item rest inductionHypothesis => simp [inductionHypothesis]

end BeanContainer
