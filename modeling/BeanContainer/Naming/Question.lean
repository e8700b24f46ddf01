/-
This file holds the questions that one generator of names is asked, and what it answers when each
question finds its memory as the one before has left it.
-/

import BeanContainer.Naming.Generator

namespace BeanContainer

inductive NamingQuestion where
  /-- The name that the direct markers agree on. -/
  | annotatedName (view : AnnotationView)
  | beanName (definition : BeanDefinition) (registry : Registry)
  | metaTypes (view : AnnotationView) (typeName : String)

inductive NamingAnswer where
  | annotatedName (name : Option String)
  | beanName (name : String)
  | metaTypes (names : NameSet)
deriving DecidableEq

namespace NamingQuestion

def request : NamingQuestion → EStateM DefinitionError MetaTypeCache NamingAnswer
  | .annotatedName view => do return .annotatedName (← Naming.annotatedName view)
  | .beanName definition registry => do
      return .beanName (← Naming.byAnnotations definition registry)
  | .metaTypes view typeName => do return .metaTypes (← MetaTypeCache.metaTypes view typeName)

def answer (question : NamingQuestion) (cache : MetaTypeCache) :
    Except DefinitionError NamingAnswer :=
  match question.request.run cache with
  | .ok answer _ => .ok answer
  | .error cause _ => .error cause

/-- The memory after a question, whether it is answered or not. -/
def after (question : NamingQuestion) (cache : MetaTypeCache) : MetaTypeCache :=
  match question.request.run cache with
  | .ok _ left => left
  | .error _ left => left

/-- The markers that the question is about. -/
def view? : NamingQuestion → Option AnnotationView
  | .annotatedName view => some view
  | .beanName definition _ => definition.metadata.map (·.annotations)
  | .metaTypes view _ => some view

end NamingQuestion

namespace MetaTypeCache

def run (cache : MetaTypeCache) (questions : List NamingQuestion) : MetaTypeCache :=
  questions.foldl (fun cache question => question.after cache) cache

/-- The answers in the order of the questions. -/
def answers (cache : MetaTypeCache) :
    List NamingQuestion → List (Except DefinitionError NamingAnswer)
  | [] => []
  | question :: rest => question.answer cache :: (question.after cache).answers rest

end MetaTypeCache

end BeanContainer
