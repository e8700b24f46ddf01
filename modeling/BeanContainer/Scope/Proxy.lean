/-
This file puts a scoped bean behind a proxy: the proxy takes the name of the bean, and the bean is
registered under a name of its own and hidden from injection.
-/

import BeanContainer.Registry.Basic

namespace BeanContainer.ScopedProxy

def targetNameStart : String := "scopedTarget."

def factoryClassName : String := "lorn.di.aop.scope.ScopedProxyFactoryBean"

def targetNameAttribute : String := "targetBeanName"

def targetClassAttribute : String := "proxyTargetClass"

def targetName (beanName : String) : String := targetNameStart ++ beanName

def isTargetName (beanName : String) : Bool :=
  targetNameStart.toList.isPrefixOf beanName.toList

/-- Of the target the proxy keeps the source, the role and the flags of autowiring. -/
def proxyOf (target : BeanDefinition) (beanName : String) (byClass : Bool) : BeanDefinition :=
  let proxy := ((BeanDefinition.ofClass factoryClassName).withAttribute targetNameAttribute
    (targetName beanName)).withAttribute targetClassAttribute (if byClass then "true" else "false")
  { proxy with
    source := target.source
    role := target.role
    autowireCandidate := target.autowireCandidate
    primary := target.primary }

def hidden (target : BeanDefinition) : BeanDefinition :=
  { target with autowireCandidate := false, primary := false }

/-- Registers the hidden target and returns the proxy, which the caller registers. -/
def create (holder : BeanDefinitionHolder) (byClass : Bool) : RegistryM BeanDefinitionHolder := do
  let _ ← Registry.register (targetName holder.beanName) (hidden holder.definition)
  return { holder with definition := proxyOf holder.definition holder.beanName byClass }

/-- Only the mode `no` leaves the bean as it is. -/
def apply (mode : ScopedProxyMode) (holder : BeanDefinitionHolder) :
    RegistryM BeanDefinitionHolder :=
  if mode = .no then pure holder else create holder (mode = .targetClass)

end BeanContainer.ScopedProxy
