/-
This file holds a started container and what can be asked of it.
-/

import BeanContainer.Autowire.Candidates
import BeanContainer.Configuration.Problem

namespace BeanContainer

structure Context where
  factory : BeanFactory
  /-- What was found wrong where problems do not stop the start. -/
  problems : List (Severity × Problem)

namespace Context

def namesWithRole (context : Context) (test : BeanRole → Bool) : List String :=
  context.factory.registry.names.filter fun name =>
    match context.factory.registry.definition? name with
    | some definition => test definition.role
    | none => false

def userBeanNames (context : Context) : List String :=
  context.namesWithRole fun role => !role.isInfrastructure

def infrastructureBeanNames (context : Context) : List String :=
  context.namesWithRole BeanRole.isInfrastructure

def definition (context : Context) (name : String) :
    Except InfrastructureError BeanDefinition :=
  (context.factory.registry.definition name).mapError .definition

def contains (context : Context) (name : String) : Bool := context.factory.registry.contains name

def count (context : Context) : Nat := context.factory.registry.count

def candidates (context : Context) (dependency : DependencyDescriptor) :
    List BeanDefinitionHolder :=
  context.factory.candidates dependency

def hasProblems (context : Context) : Bool := !context.problems.isEmpty

def ensureNoProblems (context : Context) : Except InfrastructureError Unit :=
  if context.problems.isEmpty then .ok ()
  else .error (.problemsDetected context.problems.length
    ("; ".intercalate (context.problems.map fun entry => entry.2.text)))

def text (context : Context) : String :=
  "AnnotationConfigContext \x7b bean_definition_count: " ++ toString context.count ++
    ", problems: " ++ toString context.problems.length ++ " \x7d"

end Context

end BeanContainer
