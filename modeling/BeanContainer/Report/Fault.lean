/-
This file describes faults as JSON: the kind of a fault under a fixed label, and its wording.
-/

import BeanContainer.Error
import BeanContainer.Json.Value

namespace BeanContainer

namespace Json

/-- Null stands for nothing. -/
def ofOption {Value : Type} (encode : Value → Json) : Option Value → Json
  | some value => encode value
  | none => .null

def ofText? : Option String → Json := ofOption .string

def ofTexts (texts : List String) : Json := .array (texts.map .string)

def ofNat (value : Nat) : Json := .integer value

/-- A fault without a wording of its own has a label only. -/
def ofFault (label : String) (message : Option String) : List (String × Json) :=
  ("error", .string label) :: message.toList.map fun text => ("message", .string text)

end Json

def DefinitionError.label : DefinitionError → String
  | .namingConflict _ _ => "NamingConflict"
  | .missingBeanClassName => "MissingBeanClassName"
  | .duplicateBeanName _ _ => "DuplicateBeanName"
  | .noSuchBeanDefinition _ => "NoSuchBeanDefinition"
  | .aliasConflict _ _ _ => "AliasConflict"
  | .invalidBeanName _ => "InvalidBeanName"
  | .missingAttribute _ => "MissingAttribute"
  | .attributeTypeMismatch _ _ => "AttributeTypeMismatch"
  | .invalidRole _ => "InvalidRole"
  | .problemReported _ _ => "ProblemReported"

def ConfigError.label : ConfigError → String
  | .unreadableFile => "FileReadError"
  | .malformedToml => "ParseError"
  | .malformedJson => "SerializationError"
  | .keyNotFound _ => "KeyNotFound"

def InfrastructureError.label : InfrastructureError → String
  | .config cause => "ConfigError." ++ cause.label
  | .definition cause => "DefinitionError." ++ cause.label
  | .bootstrapFailed _ => "BootstrapFailed"
  | .problemsDetected _ _ => "ProblemsDetected"

def DefinitionError.report (cause : DefinitionError) : Json :=
  .object (Json.ofFault cause.label (some cause.message))

def ConfigError.report (cause : ConfigError) : Json :=
  .object (Json.ofFault cause.label cause.message?)

def InfrastructureError.report (cause : InfrastructureError) : Json :=
  .object (Json.ofFault cause.label cause.message?)

/-- A success is told from a fault by its only key. -/
def Json.ofOutcome {Value : Type} (encode : Value → Json) : Except DefinitionError Value → Json
  | .ok value => .object [("ok", encode value)]
  | .error cause => cause.report

end BeanContainer
