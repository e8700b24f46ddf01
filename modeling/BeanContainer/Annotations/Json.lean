/-
This file reads and writes attributes and descriptors as JSON values.
-/

import BeanContainer.Annotations.Descriptor
import BeanContainer.Json.Value
import BeanContainer.Number.Bits64

namespace BeanContainer

namespace AttributeValue

mutual

/-- The shape of the JSON value alone decides the kind of the attribute; the empty array is a list
of texts. -/
def ofJson? : Json → Option AttributeValue
  | .bool value => some (.bool value)
  | .integer value => (signed64? value).map .int
  | .string text => some (.string text)
  | .array items =>
      match items.mapM Json.text? with
      | some texts => some (.stringArray texts)
      | none => (elementsOfJson? items).map .nestedArray
  | .object members =>
      (attributesOfJson? members).map fun pairs => .nested (Keyed.ofPairs pairs)
  | _ => none

def attributesOfJson? : List (String × Json) → Option (List (String × AttributeValue))
  | [] => some []
  | (name, value) :: rest =>
      match ofJson? value, attributesOfJson? rest with
      | some decoded, some pairs => some ((name, decoded) :: pairs)
      | _, _ => none

def elementsOfJson? : List Json → Option (List (List (String × AttributeValue)))
  | [] => some []
  | .object members :: rest =>
      match attributesOfJson? members, elementsOfJson? rest with
      | some pairs, some elements => some (Keyed.ofPairs pairs :: elements)
      | _, _ => none
  | _ :: _ => none

end

mutual

def toJson : AttributeValue → Json
  | .bool value => .bool value
  | .int value => .integer value.toInt
  | .string value => .string value
  | .stringArray values => .array (values.map .string)
  | .nested attributes => .object (membersToJson attributes)
  | .nestedArray elements => .array (elementsToJson elements)

def membersToJson : List (String × AttributeValue) → List (String × Json)
  | [] => []
  | (name, value) :: rest => (name, toJson value) :: membersToJson rest

def elementsToJson : List (List (String × AttributeValue)) → List Json
  | [] => []
  | element :: rest => .object (membersToJson element) :: elementsToJson rest

end

end AttributeValue

namespace Attributes

/-- The groups of attributes in the value may stand inside one another to the given depth. -/
def ofJson? (depth : Nat) : Json → Option Attributes
  | .object members =>
      if members.all fun member => member.2.fits depth then
        (AttributeValue.attributesOfJson? members).map Keyed.ofPairs
      else none
  | _ => none

def toJson (attributes : Attributes) : Json := .object (AttributeValue.membersToJson attributes)

end Attributes

namespace AnnotationDescriptor

def fieldNames : List String := ["type", "attributes", "meta_annotations"]

def ofJson? (depth : Nat) (value : Json) : Option AnnotationDescriptor := do
  match ← value.fields? fieldNames with
  | [typeName, attributes, metaTypes] =>
      let typeName ← typeName >>= Json.text?
      let attributes ← Json.optional attributes [] (Attributes.ofJson? depth)
      let metaTypes ← Json.optional metaTypes [] Json.texts?
      return { typeName, attributes, metaTypes := NameSet.ofList metaTypes }
  | _ => none

def toJson (descriptor : AnnotationDescriptor) : Json :=
  .object [("type", .string descriptor.typeName),
    ("attributes", descriptor.attributes.toJson),
    ("meta_annotations", .array (descriptor.metaTypes.names.map .string))]

/-- A list of descriptors, each with attributes to the given depth. -/
def listOfJson? (depth : Nat) (value : Json) : Option (List AnnotationDescriptor) := do
  let items ← value.items?
  items.mapM (ofJson? depth)

end AnnotationDescriptor

end BeanContainer
