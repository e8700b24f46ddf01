/-
This file says what a bean method leaves in the registry, and when a further method of its name
counts as an overload of it. The overload is recognised by the definition under the name of the
bean, so a bean behind a proxy is not recognised.
-/

import BeanContainer.Proofs.Definition.CommonAnnotations
import BeanContainer.Proofs.Registration.Placement

namespace BeanContainer

open ScopedProxy Relation

/-- The definition says that the method of the configuration class makes the bean. -/
structure IsProduct (configuration : ConfigurationClass) (method : BeanMethod)
    (definition : BeanDefinition) : Prop where
  factoryMethodName : definition.factoryMethodName = some method.name
  factoryMethodMetadata : definition.factoryMethodMetadata = some method.metadata
  metadata : definition.metadata = some configuration.metadata
  source : definition.source =
    some { resource := configuration.className, element := some method.name }
  ofClass : method.metadata.isStatic = true →
    definition.beanClassName = some configuration.className ∧ definition.factoryBeanName = none
  ofBean : method.metadata.isStatic = false →
    definition.factoryBeanName = configuration.beanName
  unproxied : definition.proxyTarget? = none

/-- A product stays one whatever the common markers make of it. -/
theorem IsProduct.of_unmarked {configuration : ConfigurationClass} {method : BeanMethod}
    {plain definition : BeanDefinition} (product : IsProduct configuration method plain)
    (same : definition.unmarked = plain.unmarked) : IsProduct configuration method definition where
  factoryMethodName :=
    (congrArg BeanDefinition.factoryMethodName same).trans product.factoryMethodName
  factoryMethodMetadata :=
    (congrArg BeanDefinition.factoryMethodMetadata same).trans product.factoryMethodMetadata
  metadata := (congrArg BeanDefinition.metadata same).trans product.metadata
  source := (congrArg BeanDefinition.source same).trans product.source
  ofClass static :=
    ⟨(congrArg BeanDefinition.beanClassName same).trans (product.ofClass static).1,
      (congrArg BeanDefinition.factoryBeanName same).trans (product.ofClass static).2⟩
  ofBean onInstance :=
    (congrArg BeanDefinition.factoryBeanName same).trans (product.ofBean onInstance)
  unproxied := (congrArg BeanDefinition.proxyTarget? same).trans product.unproxied

/-- A product behind a proxy is still one. -/
theorem IsProduct.hidden {configuration : ConfigurationClass} {method : BeanMethod}
    {definition : BeanDefinition} (product : IsProduct configuration method definition) :
    IsProduct configuration method (hidden definition) :=
  ⟨product.factoryMethodName, product.factoryMethodMetadata, product.metadata, product.source,
    product.ofClass, product.ofBean, product.unproxied⟩

namespace BeanMethod

variable {scopes : ScopeResolver} {configuration : ConfigurationClass} {method : BeanMethod}
  {registry left : Registry} {holder : BeanDefinitionHolder}

/-- What the reader starts from is a product of the method, static or not. -/
theorem baseDefinition_isProduct (configuration : ConfigurationClass) (method : BeanMethod)
    (attributes : Attributes) :
    IsProduct configuration method (baseDefinition configuration method attributes) := by
  unfold baseDefinition
  cases static : method.metadata.isStatic <;> dsimp only <;> split <;>
    constructor <;> simp [static, BeanDefinition.ofFactoryMethod, BeanDefinition.proxyTarget?] <;> rfl

/-- The method has a direct bean marker whose names are texts, and they give the bean this name. -/
def DerivesName (method : BeanMethod) (beanName : String) : Prop :=
  ∃ attributes names, method.metadata.annotations.attributes AnnotationType.bean = some attributes ∧
    givenNames attributes = .ok names ∧ (splitNames method.name names).1 = beanName

/-- The proxy mode and the definition of the bean, which are read before the registry is changed. -/
def readProduct (scopes : ScopeResolver) (configuration : ConfigurationClass)
    (method : BeanMethod) (attributes : Attributes) :
    Except DefinitionError (ScopedProxyMode × BeanDefinition) := do
  let common ← (baseDefinition configuration method attributes).update
    (DefinitionUpdate.applyCommonAnnotations method.metadata.annotations)
  let scope ← scopes.resolve method.metadata.annotations
  return (scope.proxyMode, { common with scope := scope.scopeName })

/-- A product is read by its common markers first and by its scope after that. -/
theorem readProduct_parts {attributes : Attributes} {mode : ScopedProxyMode}
    {definition : BeanDefinition}
    (read : readProduct scopes configuration method attributes = .ok (mode, definition)) :
    ∃ common scope, (baseDefinition configuration method attributes).update
        (DefinitionUpdate.applyCommonAnnotations method.metadata.annotations) = .ok common ∧
      scopes.resolve method.metadata.annotations = .ok scope ∧ scope.proxyMode = mode ∧
      definition = { common with scope := scope.scopeName } := by
  unfold readProduct at read
  cases updated : (baseDefinition configuration method attributes).update
      (DefinitionUpdate.applyCommonAnnotations method.metadata.annotations) with
  | error cause =>
      rw [updated] at read
      contradiction
  | ok common =>
      cases resolved : scopes.resolve method.metadata.annotations with
      | error cause =>
          rw [updated, resolved] at read
          contradiction
      | ok scope =>
          rw [updated, resolved] at read
          cases read
          exact ⟨common, scope, rfl, rfl, rfl, rfl⟩

/-- What is read of a method is a product of it, in the mode of its scope. -/
theorem readProduct_ok {attributes : Attributes} {mode : ScopedProxyMode}
    {definition : BeanDefinition}
    (read : readProduct scopes configuration method attributes = .ok (mode, definition)) :
    IsProduct configuration method definition ∧
      ∃ scope, scopes.resolve method.metadata.annotations = .ok scope ∧ scope.proxyMode = mode := by
  obtain ⟨common, scope, updated, resolved, sameMode, rfl⟩ := readProduct_parts read
  have product := (baseDefinition_isProduct configuration method attributes).of_unmarked
    (BeanDefinition.unmarked_update updated)
  exact ⟨⟨product.factoryMethodName, product.factoryMethodMetadata, product.metadata,
    product.source, product.ofClass, product.ofBean, product.unproxied⟩, scope, resolved, sameMode⟩

/-- A method without its own bean marker registers nothing. -/
theorem register_run_of_unmarked
    (unmarked : method.metadata.annotations.attributes AnnotationType.bean = none) :
    (method.register scopes configuration).run registry = .ok none registry := by
  unfold register
  rw [unmarked]
  rfl

/-- A marked method is named first, skipped where it is an overload, and read and registered
otherwise. -/
theorem register_run_of_marked {attributes : Attributes}
    (marked : method.metadata.annotations.attributes AnnotationType.bean = some attributes) :
    (method.register scopes configuration).run registry =
      match givenNames attributes with
      | .error cause => .error cause registry
      | .ok names =>
          let (beanName, aliases) := splitNames method.name names
          if isOverridden configuration method.name beanName registry then .ok none registry
          else
            match readProduct scopes configuration method attributes with
            | .error cause => .error cause registry
            | .ok (mode, definition) =>
                match (Registry.registerScoped mode { definition, beanName, aliases }).run
                    registry with
                | .ok holder left => .ok (some holder) left
                | .error cause left => .error cause left := by
  unfold register
  rw [marked]
  dsimp only
  rw [EStateM.run_bind]
  cases given : givenNames attributes with
  | error cause => rfl
  | ok names =>
      dsimp only [register.ofExcept, EStateM.run_pure]
      rw [EStateM.run_bind]
      dsimp only [EStateM.run_get]
      split
      · rfl
      · rw [EStateM.run_bind, readProduct]
        cases (baseDefinition configuration method attributes).update
            (DefinitionUpdate.applyCommonAnnotations method.metadata.annotations) with
        | error cause => rfl
        | ok common =>
            dsimp only [register.ofExcept, EStateM.run_pure]
            rw [EStateM.run_bind]
            cases scopes.resolve method.metadata.annotations with
            | error cause => rfl
            | ok scope =>
                dsimp only [register.ofExcept, EStateM.run_pure]
                rw [EStateM.run_bind]
                dsimp only [bind, Except.bind, pure, Except.pure]
                generalize EStateM.run (Registry.registerScoped _ _) registry = outcome
                cases outcome <;> rfl

/-! The outcomes of a registration. -/

/-- A method derives one name only. -/
theorem DerivesName.unique {beanName other : String} (derives : method.DerivesName beanName)
    (otherwise : method.DerivesName other) : other = beanName := by
  obtain ⟨attributes, names, marked, given, rfl⟩ := derives
  obtain ⟨_, _, sameMarker, sameNames, rfl⟩ := otherwise
  obtain rfl := Option.some.inj (marked.symm.trans sameMarker)
  obtain rfl := Except.ok.inj (given.symm.trans sameNames)
  rfl

/-- A method makes no bean if it has no direct marker or is an overload. -/
theorem register_eq_none_iff :
    (method.register scopes configuration).run registry = .ok none left ↔
      left = registry ∧
        (method.metadata.annotations.attributes AnnotationType.bean = none ∨
          ∃ beanName, method.DerivesName beanName ∧
            isOverridden configuration method.name beanName registry = true) := by
  cases marked : method.metadata.annotations.attributes AnnotationType.bean with
  | none =>
      rw [register_run_of_unmarked marked]
      constructor
      · intro done
        cases done
        exact ⟨rfl, Or.inl rfl⟩
      · rintro ⟨rfl, _⟩
        rfl
  | some attributes =>
      rw [register_run_of_marked marked]
      constructor
      · intro done
        split at done
        · contradiction
        · rename_i names given
          dsimp only at done
          split at done
          · rename_i overridden
            cases done
            exact ⟨rfl, Or.inr ⟨_, ⟨attributes, names, marked, given, rfl⟩, overridden⟩⟩
          · split at done
            · contradiction
            · split at done <;> cases done
      · rintro ⟨rfl, unmarked | ⟨beanName, ⟨_, names, sameMarker, given, rfl⟩, overridden⟩⟩
        · contradiction
        · obtain rfl := Option.some.inj (marked.symm.trans sameMarker)
          rw [given]
          dsimp only
          rw [if_pos overridden]

/-- Any other method registers the bean that was read off it. -/
theorem register_reads
    (done : (method.register scopes configuration).run registry = .ok (some holder) left) :
    ∃ attributes names mode definition,
      method.metadata.annotations.attributes AnnotationType.bean = some attributes ∧
      givenNames attributes = .ok names ∧
      readProduct scopes configuration method attributes = .ok (mode, definition) ∧
      (Registry.registerScoped mode ⟨definition, (splitNames method.name names).1,
        (splitNames method.name names).2⟩).run registry = .ok holder left := by
  cases marked : method.metadata.annotations.attributes AnnotationType.bean with
  | none =>
      rw [register_run_of_unmarked marked] at done
      cases done
  | some attributes =>
      rw [register_run_of_marked marked] at done
      split at done
      · contradiction
      · rename_i names given
        dsimp only at done
        split at done
        · cases done
        · split at done
          · contradiction
          · rename_i mode definition read
            refine ⟨attributes, names, mode, definition, rfl, given, read, ?_⟩
            split at done
            · rename_i registered
              cases done
              exact registered
            · contradiction

/-- A bean that a method adds is a product of the method under a name that the method derives. -/
theorem register_eq_some
    (done : (method.register scopes configuration).run registry = .ok (some holder) left) :
    ∃ scope plain, scopes.resolve method.metadata.annotations = .ok scope ∧
      method.DerivesName plain.beanName ∧ IsProduct configuration method plain.definition ∧
      (Registry.registerScoped scope.proxyMode plain).run registry = .ok holder left := by
  obtain ⟨attributes, names, mode, definition, marked, given, read, registered⟩ :=
    register_reads done
  obtain ⟨product, scope, resolved, rfl⟩ := readProduct_ok read
  exact ⟨scope, _, resolved, ⟨attributes, names, marked, given, rfl⟩, product, registered⟩

/-- A method places its product or nothing. -/
theorem register_places {sanctioned : BeanDefinition → Prop} (scopes : ScopeResolver)
    (allowed : ∀ definition, IsProduct configuration method definition → sanctioned definition) :
    Respects (ReflTransGen (Registry.Placement sanctioned))
      (method.register scopes configuration) := by
  intro registry
  cases marked : method.metadata.annotations.attributes AnnotationType.bean with
  | none => rw [stateAfter, register_run_of_unmarked marked]
  | some attributes =>
      rw [stateAfter, register_run_of_marked marked]
      cases givenNames attributes with
      | error cause => exact .refl
      | ok names =>
          dsimp only
          by_cases overridden : isOverridden configuration method.name
              (splitNames method.name names).1 registry = true
          · rw [if_pos overridden]
          · rw [if_neg overridden]
            cases read : readProduct scopes configuration method attributes with
            | error cause => exact .refl
            | ok result =>
                obtain ⟨mode, definition⟩ := result
                let plain : BeanDefinitionHolder :=
                  ⟨definition, (splitNames method.name names).1, (splitNames method.name names).2⟩
                have placed : ReflTransGen (Registry.Placement sanctioned) registry
                    (stateAfter (Registry.registerScoped mode plain) registry) :=
                  Registry.registerScoped_places mode (allowed _ (readProduct_ok read).1) registry
                rw [stateAfter] at placed
                dsimp only
                cases outcome : (Registry.registerScoped mode plain).run registry <;>
                  simpa only [outcome] using placed

/-! Overloads. -/

/-- Whether a method is an overload depends on the definition under its name alone. -/
theorem isOverridden_congr {first last : Registry} {beanName : String}
    (same : last.definition? beanName = first.definition? beanName) (methodName : String) :
    isOverridden configuration methodName beanName last =
      isOverridden configuration methodName beanName first := by
  unfold isOverridden
  rw [same]

/-- An overload stays one where nothing is replaced. -/
theorem isOverridden_of_extends {first last : Registry} {beanName methodName : String}
    (overridden : isOverridden configuration methodName beanName first = true)
    (extends_ : Registry.Extends first last) :
    isOverridden configuration methodName beanName last = true := by
  cases known : first.definition? beanName with
  | none =>
      unfold isOverridden at overridden
      simp [known] at overridden
  | some definition =>
      have kept := (extends_.definition? known).trans known.symm
      rwa [isOverridden_congr kept]

/-- An overload has an earlier method of its name, under the name of its bean. -/
theorem exists_of_isOverridden {methodName beanName : String}
    (overridden : isOverridden configuration methodName beanName registry = true) :
    ∃ definition, registry.definition? beanName = some definition ∧
      definition.factoryMethodName = some methodName := by
  unfold isOverridden at overridden
  split at overridden
  · rename_i definition known
    rw [Bool.and_eq_true, beq_iff_eq] at overridden
    exact ⟨definition, known, overridden.1⟩
  · contradiction

/-- Where no name may be bound anew, a method replaces no definition. -/
theorem register_extends {product : Option BeanDefinitionHolder}
    (done : (method.register scopes configuration).run registry = .ok product left)
    (fixedNames : registry.allowOverriding = false) : registry.Extends left :=
  .of_placements ((method.register_places scopes fun _ _ => trivial).of_ok done) fixedNames

/-- A method that makes no bean makes none later either. -/
theorem register_none_of_extends {last : Registry}
    (done : (method.register scopes configuration).run registry = .ok none left)
    (further : registry.Extends last) :
    (method.register scopes configuration).run last = .ok none last := by
  refine register_eq_none_iff.mpr ⟨rfl, (register_eq_none_iff.mp done).2.imp_right ?_⟩
  rintro ⟨beanName, derives, overridden⟩
  exact ⟨beanName, derives, isOverridden_of_extends overridden further⟩

/-- Where the product of a method stands without a proxy, a further one of its name is an
overload. -/
theorem isOverridden_of_product {beanName : String} {definition : BeanDefinition}
    (known : registry.definition? beanName = some definition)
    (product : IsProduct configuration method definition) :
    isOverridden configuration method.name beanName registry = true := by
  unfold isOverridden
  simp [known, product.factoryMethodName, product.metadata, ConfigurationClass.className]

/-- A proxy hides from the further methods that one of them has been here. -/
theorem isOverridden_of_proxy {beanName methodName : String} {target : BeanDefinition}
    {byClass : Bool} (known : registry.definition? beanName = some (proxyOf target beanName byClass)) :
    isOverridden configuration methodName beanName registry = false := by
  unfold isOverridden
  simp [known, proxyOf, BeanDefinition.withAttribute, BeanDefinition.ofClass]

/-- The bean that a method adds is a proxy just if its scope asks for one. -/
theorem register_unproxied_iff
    (loaded : (method.register scopes configuration).run registry = .ok (some holder) left) :
    ∃ scope, scopes.resolve method.metadata.annotations = .ok scope ∧
      (holder.definition.proxyTarget? = none ↔ scope.proxyMode = .no) := by
  obtain ⟨scope, plain, resolved, _, product, registered⟩ := register_eq_some loaded
  rw [(Registry.registerScoped_ok registered).1]
  exact ⟨scope, resolved, proxyTarget?_shown _ product.unproxied⟩

/-- The bean that a method adds stands under a name that the method derives. -/
theorem register_made
    (loaded : (method.register scopes configuration).run registry = .ok (some holder) left) :
    method.DerivesName holder.beanName ∧
      left.definition? holder.beanName = some holder.definition := by
  obtain ⟨scope, plain, _, derives, _, registered⟩ := register_eq_some loaded
  obtain ⟨shownSo, known, _⟩ := Registry.registerScoped_ok registered
  have sameBean : holder.beanName = plain.beanName := by rw [shownSo, beanName_shown]
  rw [sameBean]
  exact ⟨derives, known⟩

/-- As long as the bean of one method is there, a further method of the same name for the same bean
is an overload unless the bean is behind a proxy. -/
theorem register_again_iff {first second : BeanMethod} {middle last : Registry}
    (loaded : (first.register scopes configuration).run registry = .ok (some holder) middle)
    (known : last.definition? holder.beanName = some holder.definition)
    (sameName : second.name = first.name) (derives : second.DerivesName holder.beanName) :
    (second.register scopes configuration).run last = .ok none last ↔
      holder.definition.proxyTarget? = none := by
  have skipped : (second.register scopes configuration).run last = .ok none last ↔
      isOverridden configuration first.name holder.beanName last = true := by
    rw [register_eq_none_iff, sameName]
    constructor
    · rintro ⟨_, unmarked | ⟨beanName, otherwise, overridden⟩⟩
      · obtain ⟨attributes, _, marked, _⟩ := derives
        rw [unmarked] at marked
        contradiction
      · rwa [derives.unique otherwise] at overridden
    · intro overridden
      exact ⟨rfl, Or.inr ⟨_, derives, overridden⟩⟩
  rw [skipped]
  obtain ⟨scope, plain, _, _, product, registered⟩ := register_eq_some loaded
  have shownSo := (Registry.registerScoped_ok registered).1
  unfold shown at shownSo
  split at shownSo
  · rw [shownSo] at known ⊢
    exact iff_of_true (isOverridden_of_product known product) product.unproxied
  · rw [shownSo] at known ⊢
    rw [isOverridden_of_proxy known, proxyTarget?_proxyOf]
    simp

end BeanMethod

end BeanContainer
