/-
This file shows that no bean method of a started container refers to a factory bean that is not
there: the bean that it is called on is made of the class that declares it.
-/

import BeanContainer.Proofs.Bootstrap.Phases

namespace BeanContainer

open ScopedProxy Relation

/-- Some method of the classes of the model makes the bean. -/
def IsProductOf (model : ConfigurationModel) (definition : BeanDefinition) : Prop :=
  ∃ configuration ∈ model.classes, ∃ method ∈ configuration.beanMethods,
    IsProduct configuration method definition

/-- The methods of a model add nothing that a method makes but their own beans. -/
theorem BeanMethod.registerAll_isProductOf {scopes : ScopeResolver} {model : ConfigurationModel}
    {products : List (Option BeanDefinitionHolder)} {first last : Registry}
    (done : (registerAll scopes model.methods).run first = .ok products last)
    (methodless : first.Methodless) {name methodName : String} {definition : BeanDefinition}
    (known : last.definition? name = some definition)
    (made : definition.factoryMethodName = some methodName) : IsProductOf model definition := by
  have placed : Respects (ReflTransGen (Registry.Placement (IsProductOf model)))
      (registerAll scopes model.methods) := by
    refine registerAll_places scopes fun entry listed definition product => ?_
    obtain ⟨configuration, member, listed⟩ := List.mem_flatMap.mp listed
    obtain ⟨method, declared, rfl⟩ := List.mem_map.mp listed
    exact ⟨configuration, member, method, declared, product⟩
  obtain before | product | ⟨target, product, rfl⟩ | ⟨target, beanName, byClass, rfl⟩ :=
    Registry.Placement.added (placed.of_ok done) known
  · rw [methodless name definition before] at made
    contradiction
  · exact product
  · obtain ⟨configuration, member, method, declared, product⟩ := product
    exact ⟨configuration, member, method, declared, product.hidden⟩
  · exact nomatch made

namespace Bootstrap

/-- What the loading phase leaves behind when it finds the components that are noted. -/
theorem loadModel_grounded {factory last : BeanFactory} {names : SortedMap String}
    {input : BootstrapInput} {holders : List BeanDefinitionHolder}
    (fixedNames : factory.registry.allowOverriding = false) (notes : factory.registry.Notes names)
    (methodless : factory.registry.Methodless)
    (done : Bootstrap.loadModel factory (input.model names) = .ok (last, holders))
    {name methodName : String} {definition : BeanDefinition}
    (known : last.registry.definition? name = some definition)
    (made : definition.factoryMethodName = some methodName) :
    ∃ configuration ∈ (input.model names).classes, ∃ method ∈ configuration.beanMethods,
      ∃ beanName metadata,
        IsProduct { configuration with beanName := some beanName } method definition ∧
          last.registry.HasClass beanName metadata ∧
          metadata.className = configuration.className := by
  obtain ⟨numbered, noted⟩ := input.model_named names
  obtain ⟨left, loaded, sameFactory⟩ := loadModel_eq_ok_iff.mp done
  obtain ⟨_, named, _, registry, naming, methods, _, rfl⟩ :=
    DefinitionReader.loadModel_eq_ok_iff.mp loaded
  have sameRegistry : last.registry = registry := congrArg BeanFactory.registry sameFactory
  rw [sameRegistry] at known ⊢
  have placements := (annotationReader.nameConfigurations_places _
    fun _ _ ofClass => ofClass.factoryMethodName).of_ok naming
  have namedExtends := Registry.Extends.of_placements placements fixedNames
  have lastExtends := BeanMethod.registerAll_extends methods namedExtends.fixedNames
  obtain ⟨now, member, method, declared, product⟩ :=
    BeanMethod.registerAll_isProductOf methods (methodless.of_placements placements) known made
  obtain ⟨before, memberBefore, beanName, rfl, outcome⟩ :=
    DefinitionReader.nameUnnamed_ok numbered fixedNames naming member
  refine ⟨before, memberBefore, method, declared, beanName, ?_⟩
  -- A component has been registered in the phase before, and any other class in this one.
  obtain hasName | registered := outcome
  · obtain ⟨metadata, sameName, registered⟩ :=
      notes before.className beanName (noted before memberBefore beanName hasName)
    exact ⟨metadata, product, lastExtends.hasClass (namedExtends.hasClass registered), sameName⟩
  · exact ⟨before.metadata, product, lastExtends.hasClass registered, rfl⟩

end Bootstrap

namespace ContainerBuilder

/-- A definition with a factory method comes from a method of a configuration class, and where it is
called on a bean, that bean is made of the class, behind a proxy or not. -/
theorem build_factory_beans (builder : ContainerBuilder) (shared : ContainerProperties)
    {context : Context} {recorder : StartupRecorder}
    (built : builder.build shared = (.ok context, recorder))
    (fixedNames : (builder.input shared).allowOverriding = false)
    {name methodName : String} {definition : BeanDefinition}
    (known : context.factory.registry.definition? name = some definition)
    (made : definition.factoryMethodName = some methodName) :
    let registry := context.factory.registry
    ∃ factory componentNames,
      Bootstrap.componentFactory (builder.input shared) = .ok (factory, componentNames) ∧
      ∃ configuration ∈ ((builder.input shared).model componentNames).classes,
        ∃ method ∈ configuration.beanMethods, method.name = methodName ∧
          definition.source =
            some { resource := configuration.className, element := some methodName } ∧
          (method.metadata.isStatic = true ∧ definition.factoryBeanName = none ∧
              definition.beanClassName = some configuration.className ∨
            method.metadata.isStatic = false ∧
              ∃ factoryBean, definition.factoryBeanName = some factoryBean ∧
                registry.contains factoryBean = true ∧
                ∃ classDefinition metadata,
                  registry.unproxied? factoryBean = some classDefinition ∧
                  classDefinition.factoryMethodName = none ∧
                  classDefinition.beanClassName = some configuration.className ∧
                  classDefinition.metadata = some metadata ∧
                  metadata.className = configuration.className) := by
  intro registry
  obtain ⟨factory, names, loaded, components, loading⟩ := Bootstrap.run_eq_ok (build_eq_ok built)
  obtain ⟨fixedAfter, notes, methodless⟩ := Bootstrap.componentFactory_ok fixedNames components
  obtain ⟨configuration, member, method, declared, beanName, metadata, product, registered, ofClass⟩ :=
    Bootstrap.loadModel_grounded fixedAfter notes methodless loading known made
  have sameName : method.name = methodName :=
    Option.some.inj (product.factoryMethodName.symm.trans made)
  refine ⟨factory, names, components, configuration, member, method, declared, sameName, ?_, ?_⟩
  · rw [product.source, sameName]
    rfl
  · cases static : method.metadata.isStatic with
    | true => exact Or.inl ⟨rfl, (product.ofClass static).2, (product.ofClass static).1⟩
    | false =>
        obtain ⟨classDefinition, found, isClass⟩ := registered
        refine Or.inr ⟨rfl, beanName, product.ofBean static,
          Registry.contains_of_unproxied? found, classDefinition, metadata, found,
          isClass.factoryMethodName, ?_, isClass.metadata, ofClass⟩
        rw [isClass.beanClassName, ofClass]

/-- The shop is a component with a session scope, and its cart is called on it. -/
def shopBuilder : ContainerBuilder :=
  let shop : ClassMetadata :=
    { className := "shop.Config"
      annotations := .ofDescriptors [.configuration none true, .scope "session" .targetClass] }
  let cart : MethodMetadata :=
    { methodName := "cart"
      declaringClassName := "shop.Config"
      returnTypeName := some "shop.Cart"
      annotations := .ofDescriptors [.bean []] }
  let builder := (({} : ContainerBuilder).addComponent shop).addConfiguration shop [cart]
  { builder with allowOverriding := some false, failFast := some false }

/-- The bean of the shop is a proxy, and the shop is found behind it. -/
theorem shop_makes_cart :
    let shared : ContainerProperties := { systemTier := fun _ => none }
    ∃ context recorder definition, shopBuilder.build shared = (.ok context, recorder) ∧
      (shopBuilder.input shared).allowOverriding = false ∧
      context.factory.registry.definition? "cart" = some definition ∧
      definition.factoryMethodName = some "cart" ∧
      definition.factoryBeanName = some "config" ∧
      ∃ classDefinition, context.factory.registry.unproxied? "config" = some classDefinition ∧
        classDefinition.beanClassName = some "shop.Config" := by
  intro shared
  have cart :
      (match (shopBuilder.build shared).1 with
        | .ok context => (context.factory.registry.definition? "cart").map fun definition =>
            (definition.factoryMethodName, definition.factoryBeanName, definition.source)
        | .error _ => none) =
      some (some "cart", some "config", some ⟨"shop.Config", some "cart"⟩) := by
    decide +kernel
  generalize built : shopBuilder.build shared = started at cart
  obtain ⟨outcome, recorder⟩ := started
  cases outcome with
  | error cause => cases cart
  | ok context =>
      obtain ⟨definition, known, facts⟩ := Option.map_eq_some_iff.mp cart
      simp only [Prod.mk.injEq] at facts
      obtain ⟨made, called, source⟩ := facts
      obtain ⟨_, _, _, configuration, _, method, _, _, sourceSo, onClass | onBean⟩ :=
        build_factory_beans shopBuilder shared built rfl known made
      · rw [onClass.2.1] at called
        cases called
      · obtain ⟨_, _, calledSo, _, classDefinition, _, found, _, ofClass, _⟩ := onBean
        obtain rfl := Option.some.inj (called.symm.trans calledSo)
        have sameClass : configuration.className = "shop.Config" :=
          congrArg SourceLocation.resource (Option.some.inj (sourceSo.symm.trans source))
        rw [sameClass] at ofClass
        exact ⟨context, recorder, definition, rfl, rfl, known, made, called, classDefinition,
          found, ofClass⟩

end ContainerBuilder

end BeanContainer
