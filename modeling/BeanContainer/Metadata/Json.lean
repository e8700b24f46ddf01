/-
This file reads and writes classes, methods and tables as JSON, and reads tables from texts and
files.
-/

import BeanContainer.Annotations.Json
import BeanContainer.Json.Reader
import BeanContainer.Json.Writer
import BeanContainer.Metadata.Table

namespace BeanContainer

/-- Within the known parts of a text at most so many arrays and objects stand inside one
another. -/
def nestingLimit : Nat := 127

/-- A table, its list, the class or method, its list and the descriptor leave this much to the
attributes and what is in them. -/
def attributeNesting : Nat := nestingLimit - 6

namespace ClassEntry

def fieldNames : List String := ["class_name", "annotations", "interface", "abstract", "final"]

def ofJson? (depth : Nat) (value : Json) : Option ClassEntry := do
  match ← value.fields? fieldNames with
  | [className, annotations, isInterface, isAbstract, isFinal] =>
      let className ← className >>= Json.text?
      let annotations ← Json.optional annotations [] (AnnotationDescriptor.listOfJson? depth)
      let isInterface ← Json.optional isInterface false Json.bool?
      let isAbstract ← Json.optional isAbstract false Json.bool?
      let isFinal ← Json.optional isFinal false Json.bool?
      return { className, annotations, isInterface, isAbstract, isFinal }
  | _ => none

def toJson (entry : ClassEntry) : Json :=
  .object [("class_name", .string entry.className),
    ("annotations", .array (entry.annotations.map (·.toJson))),
    ("interface", .bool entry.isInterface),
    ("abstract", .bool entry.isAbstract),
    ("final", .bool entry.isFinal)]

end ClassEntry

namespace MethodEntry

def fieldNames : List String :=
  ["method_name", "declaring_class_name", "return_type_name", "annotations", "static", "final",
    "private"]

/-- The return type is the one field that may be null. -/
def returnTypeOfJson? : Json → Option (Option String)
  | .null => some none
  | .string text => some (some text)
  | _ => none

def ofJson? (depth : Nat) (value : Json) : Option MethodEntry := do
  match ← value.fields? fieldNames with
  | [methodName, declaringClassName, returnTypeName, annotations, isStatic, isFinal, isPrivate] =>
      let methodName ← methodName >>= Json.text?
      let declaringClassName ← declaringClassName >>= Json.text?
      let returnTypeName ← Json.optional returnTypeName none returnTypeOfJson?
      let annotations ← Json.optional annotations [] (AnnotationDescriptor.listOfJson? depth)
      let isStatic ← Json.optional isStatic false Json.bool?
      let isFinal ← Json.optional isFinal false Json.bool?
      let isPrivate ← Json.optional isPrivate false Json.bool?
      return { methodName, declaringClassName, returnTypeName, annotations, isStatic, isFinal,
               isPrivate }
  | _ => none

def toJson (entry : MethodEntry) : Json :=
  .object [("method_name", .string entry.methodName),
    ("declaring_class_name", .string entry.declaringClassName),
    ("return_type_name", match entry.returnTypeName with
      | some typeName => .string typeName
      | none => .null),
    ("annotations", .array (entry.annotations.map (·.toJson))),
    ("static", .bool entry.isStatic),
    ("final", .bool entry.isFinal),
    ("private", .bool entry.isPrivate)]

end MethodEntry

namespace MetadataTable

def fieldNames : List String := ["classes", "methods"]

def ofJson? (depth : Nat) (value : Json) : Option MetadataTable := do
  match ← value.fields? fieldNames with
  | [classes, methods] =>
      let classes ← Json.optional classes [] fun list => do
        (← list.items?).mapM (ClassEntry.ofJson? depth)
      let methods ← Json.optional methods [] fun list => do
        (← list.items?).mapM (MethodEntry.ofJson? depth)
      return { classes, methods }
  | _ => none

def toJson (table : MetadataTable) : Json :=
  .object [("classes", .array (table.classes.map (·.toJson))),
    ("methods", .array (table.methods.map (·.toJson)))]

def toText (table : MetadataTable) : String := table.toJson.write

def ofText (text : String) : Except ConfigError MetadataTable :=
  match Json.read text >>= ofJson? attributeNesting with
  | some table => .ok table
  | none => .error .malformedJson

/-- Nothing stands for a file that cannot be opened, and bytes that are no text cannot be read. -/
def ofFile (content : Option ByteArray) : Except ConfigError MetadataTable :=
  match content >>= String.fromUTF8? with
  | some text => ofText text
  | none => .error .unreadableFile

end MetadataTable

end BeanContainer
