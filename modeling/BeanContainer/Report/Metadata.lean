/-
This file describes the metadata of classes and methods as JSON.
-/

import BeanContainer.Metadata.Json
import BeanContainer.Report.Fault

namespace BeanContainer

def AttributeValue.kindName : AttributeValue → String
  | .bool _ => "Bool"
  | .int _ => "Int"
  | .string _ => "String"
  | .stringArray _ => "StringArray"
  | .nested _ => "Nested"
  | .nestedArray _ => "NestedArray"

def AttributeValue.report (value : AttributeValue) : Json :=
  .object [("variant", .string value.kindName), ("value", value.toJson)]

def Json.ofAttributesList (elements : List Attributes) : Json :=
  .array (elements.map Attributes.toJson)

def ClassMetadata.report (metadata : ClassMetadata) : Json :=
  .object [
    ("class_name", .string metadata.className),
    ("interface", .bool metadata.isInterface),
    ("abstract", .bool metadata.isAbstract),
    ("final", .bool metadata.isFinal),
    ("full", .bool metadata.isFullConfiguration),
    ("types", .ofTexts metadata.annotations.types)]

def MethodMetadata.report (method : MethodMetadata) : Json :=
  .object [
    ("method_name", .string method.methodName),
    ("declaring", .string method.declaringClassName),
    ("returns", .ofText? method.returnTypeName),
    ("static", .bool method.isStatic),
    ("final", .bool method.isFinal),
    ("private", .bool method.isPrivate),
    ("overridable", .bool method.isOverridable),
    ("types", .ofTexts method.annotations.types)]

/-- What the table says of the class, which need not be in it. -/
def MetadataTable.classReport (table : MetadataTable) (className : String) : Json :=
  .object [
    ("class", .ofOption (·.report) (table.class? className)),
    ("present", .bool (table.contains className)),
    ("methods", .ofTexts ((table.methodsOf className).map (·.methodName)))]

end BeanContainer
