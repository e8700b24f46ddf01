/-
This file says which markers of a repeatable type a class or method has: the direct one and those of
its container, each once and in the order in which they first occur.
-/

import BeanContainer.Metadata.View
import Mathlib.Data.List.Nodup

namespace BeanContainer

section Occurrences

variable {Item : Type} [BEq Item] {source found : List Item} {item : Item}

/-- The second list holds what the first one holds, each item once and in the order in which the
items first occur. -/
structure FirstOccurrences (source found : List Item) : Prop where
  nodup : found.Nodup
  mem_iff : ∀ item, item ∈ found ↔ item ∈ source
  inOrder : found.Pairwise fun earlier later => source.idxOf earlier < source.idxOf later

namespace FirstOccurrences

/-- The order and the members leave one list only. -/
theorem unique {other : List Item} (first : FirstOccurrences source found)
    (second : FirstOccurrences source other) : found = other := by
  have permuted : found.Perm other :=
    (List.perm_ext_iff_of_nodup first.nodup second.nodup).mpr fun item =>
      (first.mem_iff item).trans (second.mem_iff item).symm
  refine permuted.eq_of_pairwise ?_ first.inOrder second.inOrder
  intro one another _ _ below above
  exact absurd below (Nat.lt_asymm above)

/-- Nothing occurs in the empty list. -/
theorem nil : FirstOccurrences ([] : List Item) [] := ⟨List.nodup_nil, fun _ => Iff.rfl, .nil⟩

variable [LawfulBEq Item]

/-- An item that occurred before changes nothing. -/
theorem repeated (known : FirstOccurrences source found) (occurred : item ∈ found) :
    FirstOccurrences (source ++ [item]) found where
  nodup := known.nodup
  mem_iff other := by
    rw [List.mem_append, List.mem_singleton, known.mem_iff]
    refine ⟨.inl, ?_⟩
    rintro (listed | rfl)
    · exact listed
    · exact (known.mem_iff other).mp occurred
  inOrder := by
    refine known.inOrder.imp_of_mem fun {earlier later} member laterMember below => ?_
    rwa [List.idxOf_append_of_mem ((known.mem_iff earlier).mp member),
      List.idxOf_append_of_mem ((known.mem_iff later).mp laterMember)]

/-- A new item goes to the end. -/
theorem grown (known : FirstOccurrences source found) (new : item ∉ found) :
    FirstOccurrences (source ++ [item]) (found ++ [item]) where
  nodup := by
    rw [List.nodup_append]
    refine ⟨known.nodup, List.nodup_singleton item, ?_⟩
    rintro other member _ here rfl
    exact new (List.mem_singleton.mp here ▸ member)
  mem_iff other := by
    rw [List.mem_append, List.mem_append, known.mem_iff]
  inOrder := by
    have unlisted : item ∉ source := fun listed => new ((known.mem_iff item).mpr listed)
    have place {other : Item} (member : other ∈ found) :
        (source ++ [item]).idxOf other = source.idxOf other :=
      List.idxOf_append_of_mem ((known.mem_iff other).mp member)
    refine List.pairwise_append.mpr ⟨?_, List.pairwise_singleton _ _, ?_⟩
    · refine known.inOrder.imp_of_mem fun {earlier later} member laterMember below => ?_
      rwa [place member, place laterMember]
    · intro earlier member last here
      obtain rfl := List.mem_singleton.mp here
      rw [place member, List.idxOf_append_of_notMem unlisted, List.idxOf_cons_self]
      exact List.idxOf_lt_length_of_mem ((known.mem_iff earlier).mp member)

end FirstOccurrences

/-- The item is added unless it is there already. -/
def addNew (found : List Item) (item : Item) : List Item :=
  if found.contains item then found else found ++ [item]

variable [LawfulBEq Item]

/-- Adding an item keeps up with the list to which it is added. -/
theorem FirstOccurrences.addNew (known : FirstOccurrences source found) (item : Item) :
    FirstOccurrences (source ++ [item]) (addNew found item) := by
  unfold BeanContainer.addNew
  split
  · rename_i occurred
    exact known.repeated (List.contains_iff_mem.mp occurred)
  · rename_i absent
    exact known.grown fun member => absent (List.contains_iff_mem.mpr member)

/-- Adding items one by one keeps up with the list that they come from. -/
theorem FirstOccurrences.foldl_addNew (known : FirstOccurrences source found) (items : List Item) :
    FirstOccurrences (source ++ items) (items.foldl BeanContainer.addNew found) := by
  induction items generalizing source found with
  | nil => rwa [List.append_nil, List.foldl_nil]
  | cons item rest inductionHypothesis =>
      rw [List.append_cons, List.foldl_cons]
      exact inductionHypothesis (known.addNew item)

/-- Items that are added one by one leave their first occurrences. -/
theorem firstOccurrences_foldl_addNew (items : List Item) :
    FirstOccurrences items (items.foldl addNew []) :=
  FirstOccurrences.nil.foldl_addNew items

/-- The second list is the first one with further copies of items, each behind an earlier one. -/
inductive ExtraCopies (items : List Item) : List Item → Prop where
  | refl : ExtraCopies items items
  | again {front back : List Item} {item : Item} (shorter : ExtraCopies items (front ++ back))
      (earlier : item ∈ front) : ExtraCopies items (front ++ item :: back)

omit [BEq Item] [LawfulBEq Item] in
/-- Further copies stay such behind other items. -/
theorem ExtraCopies.append_left {items longer : List Item} (repeats : ExtraCopies items longer)
    (before : List Item) : ExtraCopies (before ++ items) (before ++ longer) := by
  induction repeats with
  | refl => exact .refl
  | again _ earlier inductionHypothesis =>
      rw [← List.append_assoc] at inductionHypothesis ⊢
      exact .again inductionHypothesis (List.mem_append_right before earlier)

/-- Where the copy comes up its item has been added. -/
theorem ExtraCopies.foldl_addNew {items longer : List Item} (repeats : ExtraCopies items longer) :
    longer.foldl addNew [] = items.foldl addNew [] := by
  induction repeats with
  | refl => rfl
  | @again front back item _ earlier inductionHypothesis =>
      have added : item ∈ front.foldl BeanContainer.addNew [] :=
        ((firstOccurrences_foldl_addNew front).mem_iff item).mpr earlier
      have skipped : BeanContainer.addNew (front.foldl BeanContainer.addNew []) item =
          front.foldl BeanContainer.addNew [] := if_pos (List.contains_iff_mem.mpr added)
      rw [List.foldl_append, List.foldl_cons, skipped, ← List.foldl_append, inductionHypothesis]

end Occurrences

/-! What a container holds. -/

/-- A value holds the attributes of several markers, those of one, or the empty list, which has no
element kind of its own. -/
inductive AttributeValue.Holds : AttributeValue → List Attributes → Prop where
  | several (elements : List Attributes) : Holds (.nestedArray elements) elements
  | one (element : Attributes) : Holds (.nested element) [element]
  | none : Holds (.stringArray []) []

/-- A value is read as the markers that it holds, and no other value is read. -/
theorem Attributes.nestedArray_eq_ok_iff {attributes : Attributes} {name : String}
    {value : AttributeValue} (given : attributes.get? name = some value)
    {elements : List Attributes} :
    attributes.nestedArray name = .ok elements ↔ value.Holds elements := by
  have read : attributes.required name = .ok value := by rw [required, given]
  rw [nestedArray, read]
  constructor
  · intro ok
    cases value with
    | nestedArray elements =>
        obtain rfl := Except.ok.inj ok
        exact .several elements
    | nested element =>
        obtain rfl := Except.ok.inj ok
        exact .one element
    | stringArray values =>
        cases values with
        | nil =>
            obtain rfl := Except.ok.inj ok
            exact .none
        | cons _ _ => cases ok
    | _ => cases ok
  · rintro (_ | _ | _) <;> rfl

/-- The read of an attribute that is there refuses it for its type only. -/
theorem Attributes.nestedArray_eq_error {attributes : Attributes} {name : String}
    {value : AttributeValue} (given : attributes.get? name = some value) {cause : DefinitionError}
    (refused : attributes.nestedArray name = .error cause) :
    cause = .attributeTypeMismatch name .nestedArray := by
  have read : attributes.required name = .ok value := by rw [required, given]
  rw [nestedArray, read] at refused
  cases value with
  | nestedArray _ => cases refused
  | nested _ => cases refused
  | stringArray values =>
      cases values with
      | nil => cases refused
      | cons _ _ => exact (Except.error.inj refused).symm
  | _ => exact (Except.error.inj refused).symm

namespace AnnotationView

/-- A container that is not declared, or gives no value, holds nothing. -/
inductive Contains (view : AnnotationView) (containerType : String) : List Attributes → Prop where
  | undeclared (absent : view.attributes containerType = none) : Contains view containerType []
  | unvalued {container : Attributes} (declared : view.attributes containerType = some container)
      (absent : container.get? AttributeName.value = none) : Contains view containerType []
  | valued {container : Attributes} {value : AttributeValue} {elements : List Attributes}
      (declared : view.attributes containerType = some container)
      (given : container.get? AttributeName.value = some value) (holds : value.Holds elements) :
      Contains view containerType elements

/-- The container gives a value that holds no markers. -/
def ContainerUnreadable (view : AnnotationView) (containerType : String) : Prop :=
  ∃ container value, view.attributes containerType = some container ∧
    container.get? AttributeName.value = some value ∧ ∀ elements, ¬ value.Holds elements

/-- What the read of the container comes to. -/
def contained (view : AnnotationView) (containerType : String) :
    Except DefinitionError (List Attributes) :=
  match view.attributes containerType with
  | some container =>
      if container.contains AttributeName.value then container.nestedArray AttributeName.value
      else .ok []
  | none => .ok []

variable {view : AnnotationView} {containerType typeName : String}

/-- The direct marker comes first, and what is there already is not added again. -/
theorem repeatable_eq (view : AnnotationView) (containerType typeName : String) :
    view.repeatable containerType typeName = (view.contained containerType).map fun elements =>
      ((view.attributes typeName).toList ++ elements).foldl addNew [] := by
  rw [repeatable, contained]
  cases view.attributes containerType with
  | none => rfl
  | some container =>
      by_cases given : container.contains AttributeName.value = true
      · simp only [given, if_true]
        cases container.nestedArray AttributeName.value <;> rfl
      · simp only [given, if_false, Bool.false_eq_true]
        rfl

/-- Where the container gives a value the read of that value decides. -/
theorem contained_of_valued {container : Attributes} {value : AttributeValue}
    (declared : view.attributes containerType = some container)
    (given : container.get? AttributeName.value = some value) :
    view.contained containerType = container.nestedArray AttributeName.value := by
  have present : container.contains AttributeName.value = true := by
    rw [Attributes.contains, given, Option.isSome_some]
  rw [contained, declared]
  exact if_pos present

/-- A container without a value is read as an empty one. -/
theorem contained_of_unvalued {container : Attributes}
    (declared : view.attributes containerType = some container)
    (absent : container.get? AttributeName.value = none) :
    view.contained containerType = .ok [] := by
  have missing : ¬ container.contains AttributeName.value = true := by
    rw [Attributes.contains, absent]
    exact Bool.false_ne_true
  rw [contained, declared]
  exact if_neg missing

/-- A container that is not declared is read as an empty one. -/
theorem contained_of_undeclared (absent : view.attributes containerType = none) :
    view.contained containerType = .ok [] := by
  rw [contained, absent]

/-- The container is read as what it contains. -/
theorem contained_eq_ok_iff {elements : List Attributes} :
    view.contained containerType = .ok elements ↔ view.Contains containerType elements := by
  constructor
  · intro ok
    cases declared : view.attributes containerType with
    | none =>
        rw [contained_of_undeclared declared] at ok
        obtain rfl := Except.ok.inj ok
        exact .undeclared declared
    | some container =>
        cases given : container.get? AttributeName.value with
        | none =>
            rw [contained_of_unvalued declared given] at ok
            obtain rfl := Except.ok.inj ok
            exact .unvalued declared given
        | some value =>
            rw [contained_of_valued declared given] at ok
            exact .valued declared given ((Attributes.nestedArray_eq_ok_iff given).mp ok)
  · rintro (absent | ⟨declared, absent⟩ | ⟨declared, given, holds⟩)
    · exact contained_of_undeclared absent
    · exact contained_of_unvalued declared absent
    · rw [contained_of_valued declared given]
      exact (Attributes.nestedArray_eq_ok_iff given).mpr holds

/-- The container is refused just for a value that holds no markers. -/
theorem contained_eq_error_iff {cause : DefinitionError} :
    view.contained containerType = .error cause ↔
      cause = .attributeTypeMismatch AttributeName.value .nestedArray ∧
        view.ContainerUnreadable containerType := by
  constructor
  · intro refused
    cases declared : view.attributes containerType with
    | none => cases (contained_of_undeclared declared).symm.trans refused
    | some container =>
        cases given : container.get? AttributeName.value with
        | none => cases (contained_of_unvalued declared given).symm.trans refused
        | some value =>
            have fault := (contained_of_valued declared given).symm.trans refused
            refine ⟨Attributes.nestedArray_eq_error given fault, container, value, declared, given,
              fun elements holds => ?_⟩
            cases ((Attributes.nestedArray_eq_ok_iff given).mpr holds).symm.trans fault
  · rintro ⟨rfl, container, value, declared, given, unheld⟩
    rw [contained_of_valued declared given]
    cases read : container.nestedArray AttributeName.value with
    | ok elements =>
        exact absurd ((Attributes.nestedArray_eq_ok_iff given).mp read) (unheld elements)
    | error cause => rw [Attributes.nestedArray_eq_error given read]

/-- The markers of a repeatable type are refused if and only if their container gives a value that
is neither markers nor the empty list. Otherwise they are the direct marker and those of the
container, each once and in the order in which they first occur. Further copies in the container
change nothing. -/
theorem repeatable_decided (view : AnnotationView) (containerType typeName : String) :
    (∀ cause, view.repeatable containerType typeName = .error cause ↔
      cause = .attributeTypeMismatch AttributeName.value .nestedArray ∧
        view.ContainerUnreadable containerType) ∧
    (∀ found, view.repeatable containerType typeName = .ok found ↔
      ∃ elements, view.Contains containerType elements ∧
        FirstOccurrences ((view.attributes typeName).toList ++ elements) found) ∧
    ∀ (other : AnnotationView) (elements longer : List Attributes),
      other.attributes typeName = view.attributes typeName →
      view.Contains containerType elements → other.Contains containerType longer →
      ExtraCopies elements longer →
        other.repeatable containerType typeName = view.repeatable containerType typeName := by
  refine ⟨fun cause => ?_, fun found => ?_,
    fun other elements longer direct held otherHeld repeats => ?_⟩
  · rw [repeatable_eq, ← contained_eq_error_iff]
    cases view.contained containerType <;> simp [Except.map]
  · rw [repeatable_eq]
    simp only [← contained_eq_ok_iff]
    cases view.contained containerType with
    | error cause => simp [Except.map]
    | ok elements =>
        have occurrences := firstOccurrences_foldl_addNew
          ((view.attributes typeName).toList ++ elements)
        constructor
        · intro ok
          obtain rfl := Except.ok.inj ok
          exact ⟨elements, rfl, occurrences⟩
        · rintro ⟨_, same, others⟩
          obtain rfl := Except.ok.inj same
          exact congrArg Except.ok (occurrences.unique others)
  · rw [repeatable_eq, repeatable_eq, contained_eq_ok_iff.mpr held,
      contained_eq_ok_iff.mpr otherHeld, direct]
    exact congrArg Except.ok (repeats.append_left _).foldl_addNew

def sourceNamed (name : String) : Attributes := [(AttributeName.value, .string name)]

/-- The class carries one source itself, and a container of further ones. -/
def sourceMarkers (elements : List Attributes) : AnnotationView :=
  .ofDescriptors [.ofValue "shop.Source" (.string "catalog"),
    .ofValue "shop.Sources" (.nestedArray elements)]

/-- The catalog is in the container too, and once more behind the stock. -/
theorem catalog_merged :
    let once := [sourceNamed "catalog", sourceNamed "stock"]
    let twice := [sourceNamed "catalog", sourceNamed "stock", sourceNamed "catalog"]
    (sourceMarkers once).Contains "shop.Sources" once ∧
      (sourceMarkers twice).Contains "shop.Sources" twice ∧ ExtraCopies once twice ∧
      (sourceMarkers twice).repeatable "shop.Sources" "shop.Source" = .ok once := by
  intro once twice
  have held : (sourceMarkers once).Contains "shop.Sources" once :=
    .valued rfl rfl (.several once)
  have heldTwice : (sourceMarkers twice).Contains "shop.Sources" twice :=
    .valued rfl rfl (.several twice)
  have repeats : ExtraCopies once (once ++ [sourceNamed "catalog"]) :=
    .again (show ExtraCopies once (once ++ []) from .refl) List.mem_cons_self
  refine ⟨held, heldTwice, repeats, ?_⟩
  obtain ⟨_, _, unchanged⟩ := repeatable_decided (sourceMarkers once) "shop.Sources" "shop.Source"
  exact (unchanged (sourceMarkers twice) once twice rfl held heldTwice repeats).trans (by decide)

end AnnotationView

end BeanContainer
