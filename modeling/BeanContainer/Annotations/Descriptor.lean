/-
This file describes one marker on a class or method, and the markers that the container knows.
-/

import BeanContainer.Annotations.Attributes
import BeanContainer.Collection.NameSet
import BeanContainer.Definition.ProxyMode

namespace BeanContainer

/-- A descriptor carries every marker that its own type carries, directly or through others. -/
structure AnnotationDescriptor where
  typeName : String
  attributes : Attributes := []
  metaTypes : NameSet := ∅
deriving DecidableEq

/-! The names of the marker types. -/

namespace AnnotationType

def component : String := "lorn.di.stereotype.Component"
def service : String := "lorn.di.stereotype.Service"
def repository : String := "lorn.di.stereotype.Repository"
def controller : String := "lorn.di.stereotype.Controller"
def indexed : String := "lorn.di.stereotype.Indexed"
def managedBean : String := "javax.annotation.ManagedBean"
def named : String := "javax.inject.Named"
def configuration : String := "lorn.di.annotation.Configuration"
def bean : String := "lorn.di.annotation.Bean"
def lazyInit : String := "lorn.di.annotation.Lazy"
def primary : String := "lorn.di.annotation.Primary"
def dependsOn : String := "lorn.di.annotation.DependsOn"
def role : String := "lorn.di.annotation.Role"
def description : String := "lorn.di.annotation.Description"
def scope : String := "lorn.di.annotation.Scope"
def order : String := "lorn.di.core.annotation.Order"
def priority : String := "javax.annotation.Priority"
def qualifier : String := "lorn.di.beans.factory.annotation.Qualifier"

end AnnotationType

/-! The names of the attributes that the container reads. -/

namespace AttributeName

def value : String := "value"
def name : String := "name"
def autowireCandidate : String := "autowireCandidate"
def proxyBeanMethods : String := "proxyBeanMethods"
def scopeName : String := "scopeName"
def proxyMode : String := "proxyMode"

end AttributeName

namespace AnnotationDescriptor

def withAttribute (descriptor : AnnotationDescriptor) (name : String) (value : AttributeValue) :
    AnnotationDescriptor :=
  { descriptor with attributes := descriptor.attributes.insert name value }

def withMetaType (descriptor : AnnotationDescriptor) (typeName : String) : AnnotationDescriptor :=
  { descriptor with metaTypes := descriptor.metaTypes.insert typeName }

/-- A descriptor with nothing but its `value` attribute. -/
def ofValue (typeName : String) (value : AttributeValue) : AnnotationDescriptor :=
  ({ typeName } : AnnotationDescriptor).withAttribute AttributeName.value value

def ofName (typeName : String) (name : Option String) : AnnotationDescriptor :=
  ofValue typeName (.string (name.getD ""))

/-- Every stereotype but the component marker itself carries the component marker. -/
def stereotype (typeName : String) (name : Option String) : AnnotationDescriptor :=
  let named := ofName typeName name
  let marked :=
    if typeName = AnnotationType.component then named
    else named.withMetaType AnnotationType.component
  marked.withMetaType AnnotationType.indexed

def component (name : Option String) : AnnotationDescriptor :=
  stereotype AnnotationType.component name

def service (name : Option String) : AnnotationDescriptor :=
  stereotype AnnotationType.service name

def repository (name : Option String) : AnnotationDescriptor :=
  stereotype AnnotationType.repository name

def controller (name : Option String) : AnnotationDescriptor :=
  stereotype AnnotationType.controller name

/-- Without proxied bean methods the class is no full configuration class. -/
def configuration (name : Option String) (proxyBeanMethods : Bool) : AnnotationDescriptor :=
  (stereotype AnnotationType.configuration name).withAttribute AttributeName.proxyBeanMethods
    (.bool proxyBeanMethods)

def managedBean (name : Option String) : AnnotationDescriptor :=
  ofName AnnotationType.managedBean name

def named (name : Option String) : AnnotationDescriptor := ofName AnnotationType.named name

/-- The first name is the bean name and the others are its aliases. -/
def bean (names : List String) : AnnotationDescriptor :=
  ((({ typeName := AnnotationType.bean } : AnnotationDescriptor).withAttribute AttributeName.name
    (.stringArray names)).withAttribute AttributeName.autowireCandidate (.bool true))

def lazyInit (value : Bool) : AnnotationDescriptor := ofValue AnnotationType.lazyInit (.bool value)

def primary : AnnotationDescriptor := { typeName := AnnotationType.primary }

def dependsOn (names : List String) : AnnotationDescriptor :=
  ofValue AnnotationType.dependsOn (.stringArray names)

def role (code : Int64) : AnnotationDescriptor := ofValue AnnotationType.role (.int code)

def description (text : String) : AnnotationDescriptor :=
  ofValue AnnotationType.description (.string text)

def scope (scopeName : String) (mode : ScopedProxyMode) : AnnotationDescriptor :=
  (ofValue AnnotationType.scope (.string scopeName)).withAttribute AttributeName.proxyMode
    (.string mode.name)

def order (value : Int64) : AnnotationDescriptor := ofValue AnnotationType.order (.int value)

def priority (value : Int64) : AnnotationDescriptor := ofValue AnnotationType.priority (.int value)

def qualifier (value : String) : AnnotationDescriptor :=
  ofValue AnnotationType.qualifier (.string value)

end AnnotationDescriptor

end BeanContainer
