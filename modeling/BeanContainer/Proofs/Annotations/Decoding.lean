/-
This file says which JSON values are read as the value of an attribute, and as which kind of value.
The kinds are tried one after the other, and the first one that takes the whole value decides.
-/

import BeanContainer.Json.Members
import BeanContainer.Proofs.Annotations.Reread

namespace BeanContainer

namespace Keyed

variable {Value Other : Type}

/-- A change of the values does not depend on where an entry is inserted. -/
theorem insert_map (change : Value → Other) (key : String) (value : Value)
    (entries : List (String × Value)) :
    insert key (change value) (entries.map fun entry => (entry.1, change entry.2)) =
      (insert key value entries).map fun entry => (entry.1, change entry.2) := by
  induction entries with
  | nil => rfl
  | cons head rest inductionHypothesis =>
      rw [List.map_cons, insert, insert]
      dsimp only
      split
      · rfl
      · split
        · rfl
        · rw [inductionHypothesis, List.map_cons]

/-- The values play no part in which pair counts. -/
theorem ofPairs_map (change : Value → Other) (pairs : List (String × Value)) :
    ofPairs (pairs.map fun pair => (pair.1, change pair.2)) =
      (ofPairs pairs).map fun entry => (entry.1, change entry.2) := by
  suffices general : ∀ entries : List (String × Value),
      (pairs.map fun pair => (pair.1, change pair.2)).foldl
          (fun entries pair => insert pair.1 pair.2 entries)
          (entries.map fun entry => (entry.1, change entry.2)) =
        (pairs.foldl (fun entries pair => insert pair.1 pair.2 entries) entries).map
          fun entry => (entry.1, change entry.2) from general []
  induction pairs with
  | nil => exact fun _ => rfl
  | cons pair rest inductionHypothesis =>
      intro entries
      rw [List.map_cons, List.foldl_cons, List.foldl_cons]
      dsimp only
      rw [insert_map]
      exact inductionHypothesis _

end Keyed

namespace Json

/-- What passes from the items and members of a value to the value itself holds of every value. -/
@[elab_as_elim]
theorem inductionOnParts {motive : Json → Prop} (source : Json) (null : motive .null)
    (bool : ∀ value, motive (.bool value)) (integer : ∀ value, motive (.integer value))
    (decimal : ∀ spelling, motive (.decimal spelling)) (string : ∀ text, motive (.string text))
    (array : ∀ items, (∀ item ∈ items, motive item) → motive (.array items))
    (object : ∀ members : List (String × Json), (∀ member ∈ members, motive member.2) →
      motive (.object members))
    (illFormed : motive .illFormed) : motive source :=
  @Json.rec motive (fun items => ∀ item ∈ items, motive item)
    (fun members => ∀ member ∈ members, motive member.2) (fun member => motive member.2)
    null bool integer decimal string array object illFormed
    (fun _ member => nomatch member)
    (fun _ _ first rest => List.forall_mem_cons.mpr ⟨first, rest⟩)
    (fun _ member => nomatch member)
    (fun _ _ first rest => List.forall_mem_cons.mpr ⟨first, rest⟩)
    (fun _ _ value => value)
    source

/-- Only a text is read as a text. -/
theorem text?_eq_some_iff {source : Json} {text : String} :
    source.text? = some text ↔ source = .string text := by
  cases source <;> simp [text?]

/-- A list that is read as texts is a list of these texts. -/
theorem texts_of_mapM_text? {items : List Json} {texts : List String}
    (found : items.mapM text? = some texts) : items = texts.map .string := by
  induction items generalizing texts with
  | nil =>
      cases found
      rfl
  | cons item rest inductionHypothesis =>
      rw [List.mapM_cons] at found
      obtain ⟨text, here, found⟩ := Option.bind_eq_some_iff.mp found
      obtain ⟨others, later, found⟩ := Option.bind_eq_some_iff.mp found
      cases found
      rw [text?_eq_some_iff.mp here, inductionHypothesis later, List.map_cons]

/-- Texts hold no repeated members. -/
theorem distinctItems_map_string (texts : List String) :
    distinctItems (texts.map .string) = texts.map .string := by
  induction texts with
  | nil => rfl
  | cons text rest inductionHypothesis =>
      rw [List.map_cons, distinctItems, inductionHypothesis]
      rfl

end Json

namespace AttributeValue

/-- The kinds of values, without what they hold. -/
inductive Form where
  | bool
  | int
  | string
  | stringArray
  | nested
  | nestedArray
deriving DecidableEq

/-- The order in which the kinds are tried. -/
def Form.all : List Form := [.bool, .int, .string, .stringArray, .nested, .nestedArray]

def form : AttributeValue → Form
  | .bool _ => .bool
  | .int _ => .int
  | .string _ => .string
  | .stringArray _ => .stringArray
  | .nested _ => .nested
  | .nestedArray _ => .nestedArray

def groupOfJson? : Json → Option Attributes
  | .object members => (attributesOfJson? members).map Keyed.ofPairs
  | _ => none

/-- Each kind for itself reads the whole JSON value or refuses it. -/
def Form.decode : Form → Json → Option AttributeValue
  | .bool, .bool value => some (.bool value)
  | .int, .integer value => (signed64? value).map .int
  | .string, .string text => some (.string text)
  | .stringArray, .array items => (items.mapM Json.text?).map .stringArray
  | .nested, source => (groupOfJson? source).map .nested
  | .nestedArray, .array items => (items.mapM groupOfJson?).map .nestedArray
  | _, _ => none

/-- The JSON values that stand for a value of each kind. -/
inductive Form.Accepts : Form → Json → Prop where
  | bool (value : Bool) : Accepts .bool (.bool value)
  | int {value : Int} (low : Int64.minValue.toInt ≤ value)
      (high : value ≤ Int64.maxValue.toInt) : Accepts .int (.integer value)
  | string (text : String) : Accepts .string (.string text)
  | stringArray {items : List Json} (each : ∀ item ∈ items, Accepts .string item) :
      Accepts .stringArray (.array items)
  | nested {members : List (String × Json)} (formOf : Json → Form)
      (each : ∀ member ∈ members, Accepts (formOf member.2) member.2) :
      Accepts .nested (.object members)
  | nestedArray {items : List Json} (any : items ≠ [])
      (each : ∀ item ∈ items, Accepts .nested item) : Accepts .nestedArray (.array items)

/-! The reader of values tries the kinds in turn. -/

/-- The members of a group are read one by one. -/
theorem attributesOfJson?_eq_mapM (members : List (String × Json)) :
    attributesOfJson? members =
      members.mapM fun member => (ofJson? member.2).map fun value => (member.1, value) := by
  induction members with
  | nil => rfl
  | cons member rest inductionHypothesis =>
      obtain ⟨name, source⟩ := member
      rw [attributesOfJson?, List.mapM_cons, inductionHypothesis]
      cases ofJson? source with
      | none => rfl
      | some value =>
          cases rest.mapM fun member =>
            (ofJson? member.2).map fun value => (member.1, value) <;> rfl

/-- The groups of a list are read one by one. -/
theorem elementsOfJson?_eq_mapM (items : List Json) :
    elementsOfJson? items = items.mapM groupOfJson? := by
  induction items with
  | nil => rfl
  | cons item rest inductionHypothesis =>
      rw [List.mapM_cons, ← inductionHypothesis]
      cases item with
      | object members =>
          rw [elementsOfJson?, groupOfJson?]
          cases attributesOfJson? members with
          | none => rfl
          | some pairs => cases elementsOfJson? rest <;> rfl
      | _ => rfl

/-- The reader tries the kinds in their order and keeps the first one that succeeds. -/
theorem ofJson?_eq_findSome? (source : Json) :
    ofJson? source = Form.all.findSome? fun form => form.decode source := by
  cases source with
  | integer value =>
      rw [ofJson?]
      cases found : signed64? value <;> simp [Form.all, Form.decode, groupOfJson?, found]
  | array items =>
      rw [ofJson?, elementsOfJson?_eq_mapM]
      cases found : items.mapM Json.text? with
      | some texts => simp [Form.all, Form.decode, found]
      | none =>
          cases listed : items.mapM groupOfJson? <;>
            simp [Form.all, Form.decode, groupOfJson?, found, listed]
  | object members =>
      rw [ofJson?]
      cases found : attributesOfJson? members <;>
        simp [Form.all, Form.decode, groupOfJson?, found]
  | _ => rfl

/-! Which values are read, and as which kind. -/

/-- A whole number is read just if it lies in the range of the word. -/
theorem isSome_signed64?_iff {value : Int} :
    (signed64? value).isSome ↔ Int64.minValue.toInt ≤ value ∧ value ≤ Int64.maxValue.toInt := by
  unfold signed64?
  split
  · rename_i fits
    exact iff_of_true rfl fits
  · rename_i unfit
    exact iff_of_false Bool.false_ne_true unfit

/-- A value is read as a text just if the grammar takes it for one. -/
theorem isSome_text?_iff {source : Json} :
    source.text?.isSome ↔ Form.string.Accepts source := by
  constructor
  · intro isText
    obtain ⟨text, found⟩ := Option.isSome_iff_exists.mp isText
    rw [Json.text?_eq_some_iff.mp found]
    exact .string text
  · rintro ⟨⟩
    rfl

/-- Only objects are read as groups. -/
theorem isSome_groupOfJson?_iff {source : Json} :
    (groupOfJson? source).isSome ↔ ∃ value, ofJson? source = some value ∧ value.form = .nested := by
  constructor
  · intro isGroup
    cases source with
    | object members =>
        obtain ⟨attributes, found⟩ := Option.isSome_iff_exists.mp isGroup
        obtain ⟨pairs, listed, rfl⟩ := Option.map_eq_some_iff.mp found
        refine ⟨.nested (Keyed.ofPairs pairs), ?_, rfl⟩
        rw [ofJson?, listed, Option.map_some]
    | _ => cases isGroup
  · rintro ⟨value, found, isNested⟩
    cases source with
    | object members =>
        obtain ⟨pairs, listed, -⟩ := Option.map_eq_some_iff.mp found
        rw [groupOfJson?, listed]
        rfl
    | array items =>
        rw [ofJson?] at found
        split at found
        · cases found
          cases isNested
        · obtain ⟨_, _, rfl⟩ := Option.map_eq_some_iff.mp found
          cases isNested
    | integer number =>
        obtain ⟨_, _, rfl⟩ := Option.map_eq_some_iff.mp found
        cases isNested
    | _ =>
        cases found
        all_goals cases isNested

/-- The members of a group are read just if each of their values is. -/
theorem isSome_attributesOfJson?_iff {members : List (String × Json)} :
    (attributesOfJson? members).isSome ↔ ∀ member ∈ members, (ofJson? member.2).isSome := by
  rw [attributesOfJson?_eq_mapM, isSome_mapM_iff]
  exact forall₂_congr fun member _ => by rw [Option.isSome_map]

/-- A list of texts is tried before a list of groups, and only the empty list could be both. -/
theorem accepts_array_iff {items : List Json}
    (eachItem : ∀ item ∈ items, (groupOfJson? item).isSome ↔ Form.nested.Accepts item)
    (form : Form) :
    form.Accepts (.array items) ↔
      ∃ value, ofJson? (.array items) = some value ∧ value.form = form := by
  have texts : (items.mapM Json.text?).isSome ↔ ∀ item ∈ items, Form.string.Accepts item := by
    rw [isSome_mapM_iff]
    exact forall₂_congr fun item _ => isSome_text?_iff
  have groups : (items.mapM groupOfJson?).isSome ↔ ∀ item ∈ items, Form.nested.Accepts item := by
    rw [isSome_mapM_iff]
    exact forall₂_congr eachItem
  constructor
  · intro accepted
    cases accepted with
    | stringArray each =>
        obtain ⟨found, listed⟩ := Option.isSome_iff_exists.mp (texts.mpr each)
        refine ⟨.stringArray found, ?_, rfl⟩
        rw [ofJson?, listed]
    | nestedArray any each =>
        have noTexts : items.mapM Json.text? = none := by
          refine Option.not_isSome_iff_eq_none.mp fun listed => ?_
          obtain ⟨item, member⟩ := List.exists_mem_of_ne_nil items any
          cases texts.mp listed item member
          cases each _ member
        obtain ⟨elements, listed⟩ := Option.isSome_iff_exists.mp (groups.mpr each)
        refine ⟨.nestedArray elements, ?_, rfl⟩
        rw [ofJson?, noTexts, elementsOfJson?_eq_mapM, listed]
        rfl
  · rintro ⟨value, found, rfl⟩
    rw [ofJson?] at found
    split at found
    · rename_i listed
      cases found
      exact .stringArray (texts.mp (Option.isSome_of_mem listed))
    · rename_i noTexts
      obtain ⟨elements, listed, rfl⟩ := Option.map_eq_some_iff.mp found
      rw [elementsOfJson?_eq_mapM] at listed
      refine .nestedArray ?_ (groups.mp (Option.isSome_of_mem listed))
      rintro rfl
      cases noTexts

/-- The grammar takes an object just as the reader does, if it does so for the members. -/
theorem accepts_object_iff {members : List (String × Json)}
    (eachMember : ∀ member ∈ members, ∀ form : Form,
      form.Accepts member.2 ↔ ∃ value, ofJson? member.2 = some value ∧ value.form = form)
    (form : Form) :
    form.Accepts (.object members) ↔
      ∃ value, ofJson? (.object members) = some value ∧ value.form = form := by
  constructor
  · intro accepted
    cases accepted with
    | nested formOf each =>
        have decoded : (attributesOfJson? members).isSome := by
          refine isSome_attributesOfJson?_iff.mpr fun member isMember => ?_
          obtain ⟨value, found, -⟩ := (eachMember member isMember _).mp (each member isMember)
          exact Option.isSome_of_mem found
        obtain ⟨pairs, listed⟩ := Option.isSome_iff_exists.mp decoded
        refine ⟨.nested (Keyed.ofPairs pairs), ?_, rfl⟩
        rw [ofJson?, listed, Option.map_some]
  · rintro ⟨value, found, rfl⟩
    obtain ⟨pairs, listed, rfl⟩ := Option.map_eq_some_iff.mp found
    have decoded := isSome_attributesOfJson?_iff.mp (Option.isSome_of_mem listed)
    refine .nested (fun source => ((ofJson? source).map form).getD .bool) ?_
    intro member isMember
    obtain ⟨value, found⟩ := Option.isSome_iff_exists.mp (decoded member isMember)
    refine (eachMember member isMember _).mpr ⟨value, found, ?_⟩
    rw [found]
    rfl

/-- The grammar takes a whole number just as the reader does. -/
theorem accepts_integer_iff (value : Int) (form : Form) :
    form.Accepts (.integer value) ↔
      ∃ decoded, ofJson? (.integer value) = some decoded ∧ decoded.form = form := by
  constructor
  · intro accepted
    cases accepted with
    | int low high =>
        obtain ⟨word, found⟩ := Option.isSome_iff_exists.mp (isSome_signed64?_iff.mpr ⟨low, high⟩)
        refine ⟨.int word, ?_, rfl⟩
        rw [ofJson?, found, Option.map_some]
  · rintro ⟨_, found, rfl⟩
    obtain ⟨word, inRange, rfl⟩ := Option.map_eq_some_iff.mp found
    obtain ⟨low, high⟩ := isSome_signed64?_iff.mp (Option.isSome_of_mem inRange)
    exact .int low high

/-- A value is read exactly if it stands for a value of some kind, and then as a value of that
kind. -/
theorem accepts_iff (source : Json) (form : Form) :
    form.Accepts source ↔ ∃ value, ofJson? source = some value ∧ value.form = form := by
  induction source using Json.inductionOnParts generalizing form with
  | array items eachItem =>
      exact accepts_array_iff
        (fun item member => isSome_groupOfJson?_iff.trans (eachItem item member .nested).symm) form
  | object members eachMember => exact accepts_object_iff eachMember form
  | integer value => exact accepts_integer_iff value form
  | bool value =>
      constructor
      · rintro ⟨⟩
        exact ⟨.bool value, rfl, rfl⟩
      · rintro ⟨_, ⟨⟩, rfl⟩
        exact .bool value
  | string text =>
      constructor
      · rintro ⟨⟩
        exact ⟨.string text, rfl, rfl⟩
      · rintro ⟨_, ⟨⟩, rfl⟩
        exact .string text
  | _ =>
      constructor
      · rintro ⟨⟩
      · rintro ⟨_, ⟨⟩, _⟩

/-! What is written of a value that was read. -/

/-- Writing the members of a group keeps their order and the last of repeated ones. -/
theorem membersToJson_ofPairs (pairs : List (String × AttributeValue)) :
    membersToJson (Keyed.ofPairs pairs) = Keyed.ofPairs (membersToJson pairs) := by
  rw [membersToJson_eq_map, membersToJson_eq_map, Keyed.ofPairs_map toJson]

mutual

/-- What is written of a reading is the value with its members in order and none repeated. -/
theorem toJson_of_ofJson? : ∀ {source : Json} {value : AttributeValue},
    ofJson? source = some value → value.toJson = source.distinct
  | .bool _, _, found => by
      cases found
      rfl
  | .integer number, _, found => by
      obtain ⟨word, inRange, rfl⟩ := Option.map_eq_some_iff.mp found
      rw [toJson, signed64?_eq_some_iff.mp inRange]
      rfl
  | .string _, _, found => by
      cases found
      rfl
  | .array items, value, found => by
      rw [ofJson?] at found
      split at found
      · rename_i texts listed
        cases found
        rw [Json.texts_of_mapM_text? listed, toJson, Json.distinct, Json.distinctItems_map_string]
      · obtain ⟨elements, listed, rfl⟩ := Option.map_eq_some_iff.mp found
        rw [toJson, Json.distinct, elementsToJson_of_elementsOfJson? listed]
  | .object members, _, found => by
      obtain ⟨pairs, listed, rfl⟩ := Option.map_eq_some_iff.mp found
      rw [toJson, Json.distinct, membersToJson_ofPairs, membersToJson_of_attributesOfJson? listed]
  | .null, _, found => by cases found
  | .decimal _, _, found => by cases found
  | .illFormed, _, found => by cases found

theorem membersToJson_of_attributesOfJson? : ∀ {members : List (String × Json)}
    {pairs : List (String × AttributeValue)}, attributesOfJson? members = some pairs →
      membersToJson pairs = Json.distinctMembers members
  | [], _, found => by
      cases found
      rfl
  | (name, source) :: rest, _, found => by
      rw [attributesOfJson?] at found
      split at found
      · rename_i here later
        cases found
        rw [membersToJson, Json.distinctMembers, toJson_of_ofJson? here,
          membersToJson_of_attributesOfJson? later]
      · cases found

theorem elementsToJson_of_elementsOfJson? : ∀ {items : List Json}
    {elements : List (List (String × AttributeValue))}, elementsOfJson? items = some elements →
      elementsToJson elements = Json.distinctItems items
  | [], _, found => by
      cases found
      rfl
  | .object members :: rest, _, found => by
      rw [elementsOfJson?] at found
      split at found
      · rename_i here later
        cases found
        rw [elementsToJson, membersToJson_ofPairs, membersToJson_of_attributesOfJson? here,
          elementsToJson_of_elementsOfJson? later]
        rfl
      · cases found

end

/-- A value is read by the first kind that takes all of it. It is read exactly if it is in the
grammar, the grammar gives it no second kind, and what is written of the reading is the value itself
with the members of each object in ascending order, of which the last counts when a key repeats. -/
theorem decoding_exact (source : Json) :
    ofJson? source = Form.all.findSome? (fun form => form.decode source) ∧
      ((∃ value, ofJson? source = some value) ↔ ∃ form : Form, form.Accepts source) ∧
      ∀ value, ofJson? source = some value →
        (∀ form : Form, form.Accepts source ↔ form = value.form) ∧
          value.toJson = source.distinct := by
  refine ⟨ofJson?_eq_findSome? source, ?_, fun value found => ⟨fun form => ?_, ?_⟩⟩
  · simp only [accepts_iff]
    constructor
    · rintro ⟨value, found⟩
      exact ⟨value.form, value, found, rfl⟩
    · rintro ⟨_, value, found, _⟩
      exact ⟨value, found⟩
  · rw [accepts_iff, found]
    simp [eq_comm]
  · exact toJson_of_ofJson? found

/-- Repeated and unordered members, a list of groups and an empty list, one inside the other. -/
theorem decoding_exact_repeated :
    let repeated : Json := .object
      [("names", .array [.string "first"]),
        ("filters", .array [.object [("order", .integer (-3)), ("lazy", .bool true)], .object []]),
        ("names", .array [])]
    (∃ value, ofJson? repeated = some value ∧ value.toJson = repeated.distinct ∧
      ∀ form : Form, form.Accepts repeated ↔ form = .nested) ∧
    repeated.distinct = .object
      [("filters", .array [.object [("lazy", .bool true), ("order", .integer (-3))], .object []]),
        ("names", .array [])] := by
  intro repeated
  have found : ofJson? repeated = some (.nested
      [("filters", .nestedArray [[("lazy", .bool true), ("order", .int (-3))], []]),
        ("names", .stringArray [])]) := by rfl
  obtain ⟨_, _, decoded⟩ := decoding_exact repeated
  exact ⟨⟨_, found, (decoded _ found).2, (decoded _ found).1⟩, by rfl⟩

end AttributeValue

end BeanContainer
