/-
This file says what becomes of attributes that are written as JSON and read again. The empty list of
groups is written like the empty list of texts and comes back as that; all else comes back as it was.
-/

import BeanContainer.Annotations.Json
import BeanContainer.Proofs.Collection.Traversal
import BeanContainer.Proofs.Json.RoundTrip

namespace BeanContainer

namespace Json

/-- An object fits just if there is a level for it and its members fit into the rest. -/
theorem fits_object_iff {levels : Nat} {members : List (String × Json)} :
    (object members).fits levels = true ↔
      ∃ inner, levels = inner + 1 ∧ ∀ member ∈ members, member.2.fits inner = true := by
  cases levels <;> simp [fits]

/-- An array fits just if there is a level for it and its items fit into the rest. -/
theorem fits_array_iff {levels : Nat} {items : List Json} :
    (array items).fits levels = true ↔
      ∃ inner, levels = inner + 1 ∧ ∀ item ∈ items, item.fits inner = true := by
  cases levels <;> simp [fits]

/-- A text needs no level. -/
theorem fits_string (levels : Nat) (text : String) : (string text).fits levels = true := by
  cases levels <;> rfl

/-- A truth value needs no level. -/
theorem fits_bool (levels : Nat) (value : Bool) : (bool value).fits levels = true := by
  cases levels <;> rfl

/-- A whole number needs no level. -/
theorem fits_integer (levels : Nat) (value : Int) : (integer value).fits levels = true := by
  cases levels <;> rfl

end Json

namespace AttributeValue

mutual

/-- The value as it comes back. -/
def reread : AttributeValue → AttributeValue
  | .nested attributes => .nested (rereadAttributes attributes)
  | .nestedArray [] => .stringArray []
  | .nestedArray (element :: rest) =>
      .nestedArray (rereadAttributes element :: rereadElements rest)
  | value => value

def rereadAttributes : List (String × AttributeValue) → List (String × AttributeValue)
  | [] => []
  | (name, value) :: rest => (name, reread value) :: rereadAttributes rest

def rereadElements :
    List (List (String × AttributeValue)) → List (List (String × AttributeValue))
  | [] => []
  | element :: rest => rereadAttributes element :: rereadElements rest

end

mutual

/-- Some list of groups is empty, at any depth. -/
def hasEmptyArray : AttributeValue → Bool
  | .nested attributes => attributesHaveEmptyArray attributes
  | .nestedArray elements => elements.isEmpty || elementsHaveEmptyArray elements
  | _ => false

def attributesHaveEmptyArray : List (String × AttributeValue) → Bool
  | [] => false
  | (_, value) :: rest => hasEmptyArray value || attributesHaveEmptyArray rest

def elementsHaveEmptyArray : List (List (String × AttributeValue)) → Bool
  | [] => false
  | element :: rest => attributesHaveEmptyArray element || elementsHaveEmptyArray rest

end

mutual

/-- A value comes back as it was just if no list of groups in it is empty. -/
theorem reread_eq_self_iff : ∀ value : AttributeValue,
    reread value = value ↔ hasEmptyArray value = false
  | .bool _ => by simp [reread, hasEmptyArray]
  | .int _ => by simp [reread, hasEmptyArray]
  | .string _ => by simp [reread, hasEmptyArray]
  | .stringArray _ => by simp [reread, hasEmptyArray]
  | .nested attributes => by simp [reread, hasEmptyArray, rereadAttributes_eq_self_iff attributes]
  | .nestedArray [] => by simp [reread, hasEmptyArray]
  | .nestedArray (element :: rest) => by
      simp [reread, hasEmptyArray, elementsHaveEmptyArray, rereadAttributes_eq_self_iff element,
        rereadElements_eq_self_iff rest]

theorem rereadAttributes_eq_self_iff : ∀ attributes : List (String × AttributeValue),
    rereadAttributes attributes = attributes ↔ attributesHaveEmptyArray attributes = false
  | [] => by simp [rereadAttributes, attributesHaveEmptyArray]
  | (name, value) :: rest => by
      simp [rereadAttributes, attributesHaveEmptyArray, reread_eq_self_iff value,
        rereadAttributes_eq_self_iff rest]

theorem rereadElements_eq_self_iff : ∀ elements : List (List (String × AttributeValue)),
    rereadElements elements = elements ↔ elementsHaveEmptyArray elements = false
  | [] => by simp [rereadElements, elementsHaveEmptyArray]
  | element :: rest => by
      simp [rereadElements, elementsHaveEmptyArray, rereadAttributes_eq_self_iff element,
        rereadElements_eq_self_iff rest]

end

/-- The attributes of a group are reread one by one. -/
theorem rereadAttributes_eq_map (attributes : List (String × AttributeValue)) :
    rereadAttributes attributes = attributes.map fun entry => (entry.1, entry.2.reread) := by
  induction attributes with
  | nil => rfl
  | cons entry rest inductionHypothesis =>
      rw [rereadAttributes, inductionHypothesis]
      rfl

/-- The groups of a list are reread one by one. -/
theorem rereadElements_eq_map (elements : List (List (String × AttributeValue))) :
    rereadElements elements = elements.map rereadAttributes := by
  induction elements with
  | nil => rfl
  | cons element rest inductionHypothesis =>
      rw [rereadElements, inductionHypothesis]
      rfl

/-- The attributes of a group are written one by one. -/
theorem membersToJson_eq_map (attributes : List (String × AttributeValue)) :
    membersToJson attributes = attributes.map fun entry => (entry.1, entry.2.toJson) := by
  induction attributes with
  | nil => rfl
  | cons entry rest inductionHypothesis =>
      rw [membersToJson, inductionHypothesis]
      rfl

/-- Rereading keeps the order of the names. -/
theorem ascending_rereadAttributes {attributes : List (String × AttributeValue)}
    (ascending : Keyed.Ascending attributes) : Keyed.Ascending (rereadAttributes attributes) := by
  rw [rereadAttributes_eq_map]
  exact List.pairwise_map.mpr ascending

/-- A list of texts is read as these texts. -/
theorem texts?_map_string (texts : List String) :
    (texts.map Json.string).mapM Json.text? = some texts := by
  induction texts with
  | nil => rfl
  | cons text rest inductionHypothesis =>
      rw [List.map_cons, List.mapM_cons, inductionHypothesis]
      rfl

mutual

/-- A well-formed value is read back up to its empty lists of groups. -/
theorem ofJson?_toJson : ∀ {value : AttributeValue}, WellFormed value →
    ofJson? (toJson value) = some (reread value)
  | .bool _, _ => rfl
  | .int value, _ => by
      rw [toJson, ofJson?, signed64?_eq_some_iff.mpr rfl]
      rfl
  | .string _, _ => rfl
  | .stringArray values, _ => by
      rw [toJson, ofJson?, texts?_map_string]
      rfl
  | .nested attributes, wellFormed => by
      rw [toJson, ofJson?, attributesOfJson?_membersToJson wellFormed.2, Option.map_some,
        (ascending_rereadAttributes wellFormed.1).ofPairs_eq_self, reread]
  | .nestedArray [], _ => rfl
  | .nestedArray (element :: rest), wellFormed => by
      have decoded : elementsOfJson? (elementsToJson (element :: rest)) =
          some (rereadElements (element :: rest)) := elementsOfJson?_elementsToJson wellFormed
      have noTexts : (elementsToJson (element :: rest)).mapM Json.text? = none := by
        rw [elementsToJson, List.mapM_cons]
        rfl
      rw [toJson, ofJson?, noTexts, decoded, Option.map_some, reread, rereadElements]

theorem attributesOfJson?_membersToJson : ∀ {attributes : List (String × AttributeValue)},
    AllWellFormed attributes →
      attributesOfJson? (membersToJson attributes) = some (rereadAttributes attributes)
  | [], _ => rfl
  | (name, value) :: rest, wellFormed => by
      rw [membersToJson, attributesOfJson?, ofJson?_toJson wellFormed.1,
        attributesOfJson?_membersToJson wellFormed.2, rereadAttributes]

theorem elementsOfJson?_elementsToJson : ∀ {elements : List (List (String × AttributeValue))},
    ElementsWellFormed elements →
      elementsOfJson? (elementsToJson elements) = some (rereadElements elements)
  | [], _ => rfl
  | element :: rest, wellFormed => by
      rw [elementsToJson, elementsOfJson?, attributesOfJson?_membersToJson wellFormed.1.2,
        elementsOfJson?_elementsToJson wellFormed.2]
      change some (Keyed.ofPairs (rereadAttributes element) :: rereadElements rest) = _
      rw [(ascending_rereadAttributes wellFormed.1.1).ofPairs_eq_self, rereadElements]

end

/-! What is written has a text. -/

/-- Texts are plain. -/
theorem itemsPlain_map_string (texts : List String) : Json.ItemsPlain (texts.map .string) := by
  induction texts with
  | nil => trivial
  | cons text rest inductionHypothesis => exact ⟨trivial, inductionHypothesis⟩

mutual

/-- What is written of a value is plain, so every reader of JSON takes it. -/
theorem toJson_isPlain : ∀ value : AttributeValue, value.toJson.IsPlain
  | .bool _ => trivial
  | .int _ => trivial
  | .string _ => trivial
  | .stringArray values => itemsPlain_map_string values
  | .nested attributes => membersToJson_membersPlain attributes
  | .nestedArray elements => elementsToJson_itemsPlain elements

theorem membersToJson_membersPlain : ∀ attributes : List (String × AttributeValue),
    Json.MembersPlain (membersToJson attributes)
  | [] => trivial
  | (_, value) :: rest => ⟨toJson_isPlain value, membersToJson_membersPlain rest⟩

theorem elementsToJson_itemsPlain : ∀ elements : List (List (String × AttributeValue)),
    Json.ItemsPlain (elementsToJson elements)
  | [] => trivial
  | element :: rest => ⟨membersToJson_membersPlain element, elementsToJson_itemsPlain rest⟩

end

/-! What is read can be written and read again without change. -/

/-- The attributes of a group are well formed if each of them is. -/
theorem allWellFormed_iff (attributes : List (String × AttributeValue)) :
    AllWellFormed attributes ↔ ∀ entry ∈ attributes, entry.2.WellFormed := by
  induction attributes with
  | nil => simp [AllWellFormed]
  | cons entry rest inductionHypothesis =>
      obtain ⟨name, value⟩ := entry
      simp [AllWellFormed, inductionHypothesis]

/-- A group has no empty list of groups if none of its attributes has one. -/
theorem attributesHaveEmptyArray_eq_false_iff (attributes : List (String × AttributeValue)) :
    attributesHaveEmptyArray attributes = false ↔
      ∀ entry ∈ attributes, entry.2.hasEmptyArray = false := by
  induction attributes with
  | nil => simp [attributesHaveEmptyArray]
  | cons entry rest inductionHypothesis =>
      obtain ⟨name, value⟩ := entry
      simp [attributesHaveEmptyArray, inductionHypothesis]

/-- The groups of a list are well formed if each of them is. -/
theorem elementsWellFormed_iff (elements : List (List (String × AttributeValue))) :
    ElementsWellFormed elements ↔ ∀ element ∈ elements, (nested element).WellFormed := by
  induction elements with
  | nil => simp [ElementsWellFormed]
  | cons element rest inductionHypothesis => simp [ElementsWellFormed, WellFormed, inductionHypothesis]

/-- A list has no empty list of groups inside if none of its groups has one. -/
theorem elementsHaveEmptyArray_eq_false_iff (elements : List (List (String × AttributeValue))) :
    elementsHaveEmptyArray elements = false ↔
      ∀ element ∈ elements, (nested element).hasEmptyArray = false := by
  induction elements with
  | nil => simp [elementsHaveEmptyArray]
  | cons element rest inductionHypothesis =>
      simp [elementsHaveEmptyArray, hasEmptyArray, inductionHypothesis]

/-- The groups of a list are written one by one. -/
theorem elementsToJson_eq_map (elements : List (List (String × AttributeValue))) :
    elementsToJson elements = elements.map fun element => (nested element).toJson := by
  induction elements with
  | nil => rfl
  | cons element rest inductionHypothesis =>
      rw [elementsToJson, inductionHypothesis]
      rfl

/-- What holds of a value that was read. -/
structure IsReading (source : Json) (value : AttributeValue) : Prop where
  wellFormed : value.WellFormed
  noEmptyArray : value.hasEmptyArray = false
  fits : ∀ levels, source.fits levels = true → value.toJson.fits levels = true

/-- A group is read from an object whose members its attributes are read from. -/
theorem IsReading.group {members : List (String × Json)} {pairs : List (String × AttributeValue)}
    (read : ∀ entry ∈ pairs, ∃ member ∈ members, IsReading member.2 entry.2) :
    IsReading (.object members) (.nested (Keyed.ofPairs pairs)) := by
  have kept {entry : String × AttributeValue} (member : entry ∈ Keyed.ofPairs pairs) :=
    read entry (Keyed.mem_of_mem_ofPairs member)
  refine ⟨⟨Keyed.ascending_ofPairs pairs, (allWellFormed_iff _).mpr ?_⟩,
    (attributesHaveEmptyArray_eq_false_iff _).mpr ?_, ?_⟩
  · intro entry member
    obtain ⟨_, _, reading⟩ := kept member
    exact reading.wellFormed
  · intro entry member
    obtain ⟨_, _, reading⟩ := kept member
    exact reading.noEmptyArray
  · intro levels fits
    obtain ⟨inner, rfl, sourceFits⟩ := Json.fits_object_iff.mp fits
    refine Json.fits_object_iff.mpr ⟨inner, rfl, fun written isWritten => ?_⟩
    rw [membersToJson_eq_map] at isWritten
    obtain ⟨entry, member, rfl⟩ := List.mem_map.mp isWritten
    obtain ⟨source, isSource, reading⟩ := kept member
    exact reading.fits inner (sourceFits source isSource)

/-- A list of texts is read from an array. -/
theorem IsReading.texts (items : List Json) (texts : List String) :
    IsReading (.array items) (.stringArray texts) := by
  refine ⟨trivial, rfl, fun levels fits => ?_⟩
  obtain ⟨inner, rfl, _⟩ := Json.fits_array_iff.mp fits
  refine Json.fits_array_iff.mpr ⟨inner, rfl, fun written isWritten => ?_⟩
  obtain ⟨text, _, rfl⟩ := List.mem_map.mp isWritten
  exact Json.fits_string inner text

/-- A list of groups is read from an array, and it is not empty. -/
theorem IsReading.groups {items : List Json} {elements : List (List (String × AttributeValue))}
    (anyElement : elements ≠ [])
    (read : ∀ element ∈ elements, ∃ item ∈ items, IsReading item (.nested element)) :
    IsReading (.array items) (.nestedArray elements) := by
  refine ⟨(elementsWellFormed_iff elements).mpr ?_, ?_, ?_⟩
  · intro element member
    obtain ⟨_, _, reading⟩ := read element member
    exact reading.wellFormed
  · have each := (elementsHaveEmptyArray_eq_false_iff elements).mpr fun element member =>
      (read element member).choose_spec.2.noEmptyArray
    simp [hasEmptyArray, anyElement, each]
  · intro levels fits
    obtain ⟨inner, rfl, sourceFits⟩ := Json.fits_array_iff.mp fits
    refine Json.fits_array_iff.mpr ⟨inner, rfl, fun written isWritten => ?_⟩
    rw [elementsToJson_eq_map] at isWritten
    obtain ⟨element, member, rfl⟩ := List.mem_map.mp isWritten
    obtain ⟨source, isSource, reading⟩ := read element member
    exact reading.fits inner (sourceFits source isSource)

/-- An array that is not empty is never read as the empty list of groups. -/
theorem elements_ne_nil {item : Json} {rest : List Json}
    {elements : List (List (String × AttributeValue))}
    (found : elementsOfJson? (item :: rest) = some elements) : elements ≠ [] := by
  rintro rfl
  cases item with
  | object members =>
      rw [elementsOfJson?] at found
      split at found <;> cases found
  | _ => cases found

mutual

/-- What the reader returns is a reading of its source. -/
theorem isReading_of_ofJson? : ∀ {source : Json} {value : AttributeValue},
    ofJson? source = some value → IsReading source value
  | .bool _, _, found => by
      cases found
      exact ⟨trivial, rfl, fun levels _ => Json.fits_bool levels _⟩
  | .integer value, _, found => by
      obtain ⟨word, _, rfl⟩ := Option.map_eq_some_iff.mp found
      exact ⟨trivial, rfl, fun levels _ => Json.fits_integer levels _⟩
  | .string _, _, found => by
      cases found
      exact ⟨trivial, rfl, fun levels _ => Json.fits_string levels _⟩
  | .array [], _, found => by
      cases found
      exact .texts [] []
  | .array (item :: rest), value, found => by
      rw [ofJson?] at found
      split at found
      · cases found
        exact .texts _ _
      · obtain ⟨elements, listed, rfl⟩ := Option.map_eq_some_iff.mp found
        exact .groups (elements_ne_nil listed) (isReading_of_elementsOfJson? listed)
  | .object members, _, found => by
      obtain ⟨pairs, listed, rfl⟩ := Option.map_eq_some_iff.mp found
      exact .group (isReading_of_attributesOfJson? listed)
  | .null, _, found => by cases found
  | .decimal _, _, found => by cases found
  | .illFormed, _, found => by cases found

theorem isReading_of_attributesOfJson? : ∀ {members : List (String × Json)}
    {pairs : List (String × AttributeValue)}, attributesOfJson? members = some pairs →
      ∀ entry ∈ pairs, ∃ member ∈ members, IsReading member.2 entry.2
  | [], _, found => by
      cases found
      simp
  | (name, source) :: rest, pairs, found => by
      rw [attributesOfJson?] at found
      split at found
      · rename_i value others valueFound othersFound
        cases found
        intro entry member
        obtain rfl | later := List.mem_cons.mp member
        · exact ⟨_, List.mem_cons_self, isReading_of_ofJson? valueFound⟩
        · obtain ⟨other, isOther, reading⟩ := isReading_of_attributesOfJson? othersFound entry later
          exact ⟨other, List.mem_cons_of_mem _ isOther, reading⟩
      · cases found

theorem isReading_of_elementsOfJson? : ∀ {items : List Json}
    {elements : List (List (String × AttributeValue))}, elementsOfJson? items = some elements →
      ∀ element ∈ elements, ∃ item ∈ items, IsReading item (.nested element)
  | [], _, found => by
      cases found
      simp
  | .object members :: rest, elements, found => by
      rw [elementsOfJson?] at found
      split at found
      · rename_i pairs others pairsFound othersFound
        cases found
        intro element member
        obtain rfl | later := List.mem_cons.mp member
        · exact ⟨_, List.mem_cons_self, .group (isReading_of_attributesOfJson? pairsFound)⟩
        · obtain ⟨other, isOther, reading⟩ := isReading_of_elementsOfJson? othersFound element later
          exact ⟨other, List.mem_cons_of_mem _ isOther, reading⟩
      · cases found
  | .null :: _, _, found => by cases found
  | .bool _ :: _, _, found => by cases found
  | .integer _ :: _, _, found => by cases found
  | .decimal _ :: _, _, found => by cases found
  | .string _ :: _, _, found => by cases found
  | .array _ :: _, _, found => by cases found
  | .illFormed :: _, _, found => by cases found

end

end AttributeValue

namespace Attributes

open AttributeValue

/-- An attribute that is looked up after rereading is the one from before, reread. -/
theorem get?_rereadAttributes (attributes : Attributes) (name : String) :
    get? (rereadAttributes attributes) name = (attributes.get? name).map reread := by
  unfold get?
  induction attributes with
  | nil => rfl
  | cons entry rest inductionHypothesis =>
      obtain ⟨entryName, value⟩ := entry
      rw [rereadAttributes, List.lookup_cons, List.lookup_cons, inductionHypothesis]
      split <;> rfl

/-- An empty list of groups can still be asked for after it has become a list of texts. -/
theorem nestedArray_rereadAttributes (attributes : Attributes) (name : String) :
    nestedArray (rereadAttributes attributes) name =
      (attributes.nestedArray name).map (List.map rereadAttributes) := by
  unfold nestedArray required
  rw [get?_rereadAttributes]
  cases attributes.get? name with
  | none => rfl
  | some value =>
      cases value with
      | nestedArray elements =>
          cases elements with
          | nil => rfl
          | cons element rest =>
              rw [Option.map_some, reread, rereadElements_eq_map]
              rfl
      | stringArray values => cases values <;> rfl
      | _ => rfl

/-- The attributes of a marker are read back if they are not nested too deeply. -/
theorem ofJson?_toJson {attributes : Attributes} {depth : Nat}
    (wellFormed : (AttributeValue.nested attributes).WellFormed)
    (fits : attributes.toJson.fits (depth + 1) = true) :
    ofJson? depth attributes.toJson = some (rereadAttributes attributes) := by
  have decoded := attributesOfJson?_membersToJson wellFormed.2
  have all : ((membersToJson attributes).all fun member => member.2.fits depth) = true := by
    rwa [toJson, Json.fits] at fits
  rw [toJson, ofJson?, if_pos all, decoded, Option.map_some,
    (ascending_rereadAttributes wellFormed.1).ofPairs_eq_self]

/-- Attributes that were read are well formed, hold no empty list of groups and fit the limit. -/
theorem isReading_of_ofJson? {depth : Nat} {source : Json} {attributes : Attributes}
    (found : ofJson? depth source = some attributes) :
    (AttributeValue.nested attributes).WellFormed ∧
      attributesHaveEmptyArray attributes = false ∧ attributes.toJson.fits (depth + 1) = true := by
  unfold ofJson? at found
  split at found
  · rename_i members
    split at found
    · rename_i all
      obtain ⟨pairs, listed, rfl⟩ := Option.map_eq_some_iff.mp found
      have reading := IsReading.group (isReading_of_attributesOfJson? listed)
      refine ⟨reading.wellFormed, reading.noEmptyArray, reading.fits (depth + 1) ?_⟩
      rwa [Json.fits]
    · cases found
  · cases found

end Attributes

end BeanContainer
