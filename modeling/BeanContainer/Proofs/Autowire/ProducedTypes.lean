/-
This file says under which type autowiring finds the bean that a method makes. The bean of an
instance method has the type that the method returns, and that of a static method is taken for one
of the class that declares the method.
-/

import BeanContainer.Proofs.Autowire.ScopedCandidates
import BeanContainer.Proofs.Registration.MethodMarkers
import BeanContainer.Proofs.Registration.WriteOnce

namespace BeanContainer

open ScopedProxy Relation

/-! What is read off a method. -/

namespace BeanMethod

variable {scopes : ScopeResolver} {configuration : ConfigurationClass} {method : BeanMethod}
  {attributes : Attributes} {mode : ScopedProxyMode} {definition : BeanDefinition}
  {registry left : Registry} {beanName typeName : String}

/-- Only the common markers and the scope are added to what the method itself says. -/
theorem readProduct_unmarked
    (read : readProduct scopes configuration method attributes = .ok (mode, definition)) :
    definition.unmarked =
      { (baseDefinition configuration method attributes).unmarked with
        scope := definition.scope } := by
  obtain ⟨common, scope, updated, _, _, rfl⟩ := readProduct_parts read
  rw [← BeanDefinition.unmarked_update updated]
  rfl

/-- A static method gives its bean the class that declares it, and an instance method the type it
returns. -/
theorem beanClassName_readProduct
    (read : readProduct scopes configuration method attributes = .ok (mode, definition)) :
    definition.beanClassName =
      if method.metadata.isStatic then some configuration.className
      else method.metadata.returnTypeName := by
  have same := congrArg BeanDefinition.beanClassName (readProduct_unmarked read)
  refine same.trans ?_
  unfold BeanDefinition.unmarked baseDefinition
  cases method.metadata.isStatic <;> dsimp only <;> split <;> rfl

/-- A bean is a candidate unless the marker of its method excludes it. -/
theorem autowireCandidate_readProduct
    (read : readProduct scopes configuration method attributes = .ok (mode, definition))
    (included : attributes.get? AttributeName.autowireCandidate ≠ some (.bool false)) :
    definition.autowireCandidate = true := by
  have same := congrArg BeanDefinition.autowireCandidate (readProduct_unmarked read)
  refine same.trans ?_
  unfold BeanDefinition.unmarked baseDefinition
  dsimp only
  split
  · rename_i candidate stated
    cases candidate with
    | true => rfl
    | false => contradiction
  · cases method.metadata.isStatic <;> rfl

/-- The method makes a bean of this name without a proxy, returns this type and does not exclude the
bean from autowiring. -/
structure Offers (scopes : ScopeResolver) (method : BeanMethod) (beanName typeName : String) :
    Prop where
  derives : method.DerivesName beanName
  unproxied : ∃ scope, scopes.resolve method.metadata.annotations = .ok scope ∧
    scope.proxyMode = .no
  included : ∀ attributes,
    method.metadata.annotations.attributes AnnotationType.bean = some attributes →
      attributes.get? AttributeName.autowireCandidate ≠ some (.bool false)
  returns : method.metadata.returnTypeName = some typeName

/-- The registry holds under this name what is read off the method. -/
def Stands (scopes : ScopeResolver) (configuration : ConfigurationClass) (method : BeanMethod)
    (beanName : String) (registry : Registry) : Prop :=
  ∃ attributes mode definition,
    method.metadata.annotations.attributes AnnotationType.bean = some attributes ∧
    readProduct scopes configuration method attributes = .ok (mode, definition) ∧
    registry.definition? beanName = some definition

/-- A bean that stands for its method still does in every extension. -/
theorem Stands.of_extends (stands : Stands scopes configuration method beanName registry)
    (extends_ : registry.Extends left) : Stands scopes configuration method beanName left := by
  obtain ⟨attributes, mode, definition, marked, read, known⟩ := stands
  exact ⟨attributes, mode, definition, marked, read, extends_.definition? known⟩

/-- A method that offers a bean and is not skipped leaves that bean standing. -/
theorem stands_of_register {holder : BeanDefinitionHolder}
    (offers : method.Offers scopes beanName typeName)
    (done : (method.register scopes configuration).run registry = .ok (some holder) left) :
    Stands scopes configuration method beanName left := by
  obtain ⟨attributes, names, mode, definition, marked, given, read, registered⟩ :=
    register_reads done
  obtain ⟨_, scope, resolved, rfl⟩ := readProduct_ok read
  obtain ⟨unproxied, sameScope, plain⟩ := offers.unproxied
  obtain rfl := Except.ok.inj (resolved.symm.trans sameScope)
  obtain ⟨shownSo, known, _⟩ := Registry.registerScoped_ok registered
  have sameName := offers.derives.unique ⟨attributes, names, marked, given, rfl⟩
  rw [shownSo, shown, if_pos plain, sameName] at known
  exact ⟨attributes, _, definition, marked, read, known⟩

/-- A registration makes no bean for another method. -/
theorem makesFrom_of_register {product : Option BeanDefinitionHolder}
    (fixedNames : registry.allowOverriding = false)
    (done : (method.register scopes configuration).run registry = .ok product left)
    {className methodName : String} (makes : left.MakesFrom className methodName) :
    registry.MakesFrom className methodName ∨
      configuration.className = className ∧ method.name = methodName := by
  cases product with
  | none =>
      obtain ⟨rfl, _⟩ := register_eq_none_iff.mp done
      exact Or.inl makes
  | some holder =>
      obtain ⟨scope, plain, _, derives, product, registered⟩ := register_eq_some done
      have adds := Registry.registerScoped_adds fixedNames registered
      obtain before | ⟨entry, added, isMade, metadata, ofClass, sameClass⟩ :=
        adds.makesFrom_iff.mp makes
      · exact Or.inl before
      · have making : Makes (configuration, method) ⟨scope.proxyMode, plain⟩ := ⟨product, derives⟩
        have made := made_isProduct making
        have isBean := ScopedBean.eq_made_of_method added isMade
        rw [isBean] at isMade ofClass
        obtain rfl := Option.some.inj (made.metadata.symm.trans ofClass)
        exact Or.inr ⟨sameClass, Option.some.inj (made.factoryMethodName.symm.trans isMade)⟩

/-- No other of the methods has this name and belongs to a class of this name. -/
def Alone (methods : List (ConfigurationClass × BeanMethod))
    (entry : ConfigurationClass × BeanMethod) : Prop :=
  ∀ other ∈ methods, other.1.className = entry.1.className → other.2.name = entry.2.name →
    other = entry

/-- A method without overloads has made the bean itself. -/
theorem stands_of_registerAll {methods : List (ConfigurationClass × BeanMethod)}
    {products : List (Option BeanDefinitionHolder)}
    (fixedNames : registry.allowOverriding = false)
    (done : (registerAll scopes methods).run registry = .ok products left)
    (member : (configuration, method) ∈ methods) (alone : Alone methods (configuration, method))
    (offers : method.Offers scopes beanName typeName)
    (unmade : ¬ registry.MakesFrom configuration.className method.name) :
    Stands scopes configuration method beanName left := by
  unfold registerAll at done
  induction methods generalizing registry products with
  | nil => contradiction
  | cons first rest inductionHypothesis =>
      obtain ⟨product, middle, later, begun, ended, rfl⟩ := run_mapM_cons_eq_ok_iff.mp done
      have fixedBetween := (register_extends begun fixedNames).fixedNames
      by_cases here : first = (configuration, method)
      · subst here
        apply Stands.of_extends _ (registerAll_extends ended fixedBetween)
        cases product with
        | none =>
            obtain ⟨_, unmarked | ⟨other, _, overridden⟩⟩ := register_eq_none_iff.mp begun
            · obtain ⟨_, _, marked, _⟩ := offers.derives
              rw [unmarked] at marked
              contradiction
            · exact absurd (makesFrom_of_isOverridden overridden) unmade
        | some holder => exact stands_of_register offers begun
      · have further := (List.mem_cons.mp member).resolve_left (Ne.symm here)
        refine inductionHypothesis fixedBetween ended further
          (fun other listed => alone other (List.mem_cons_of_mem _ listed)) fun made => ?_
        obtain before | ⟨sameClass, sameName⟩ := makesFrom_of_register fixedNames begun made
        · exact unmade before
        · exact here (alone first List.mem_cons_self sameClass sameName)

end BeanMethod

/-! What is found. -/

namespace BeanFactory

variable {factory : BeanFactory} {scopes : ScopeResolver} {configuration : ConfigurationClass}
  {method : BeanMethod} {beanName typeName : String}

/-- A standing bean is found under one type and no other. -/
theorem mem_candidateNames_of_stands (reachable : factory.registry.Reachable)
    (aware : factory.resolver = .annotationAware)
    (unshadowed : factory.registry.isAlias beanName = false)
    (offers : method.Offers scopes beanName typeName)
    (stands : BeanMethod.Stands scopes configuration method beanName factory.registry)
    (wanted : String) :
    beanName ∈ factory.candidateNames { typeName := some wanted } ↔
      wanted = if method.metadata.isStatic then configuration.className else typeName := by
  obtain ⟨attributes, mode, definition, marked, read, known⟩ := stands
  have listed : beanName ∈ factory.registry.names :=
    (reachable.inStep.known beanName).mp ⟨definition, Registry.definition_eq_ok_iff.mpr known⟩
  have canonical :=
    (Registry.canonicalName_eq_self_iff reachable.acyclic beanName).mpr unshadowed
  have included := BeanMethod.autowireCandidate_readProduct read (offers.included _ marked)
  rw [mem_candidateNames_of_listed _ aware listed canonical known,
    BeanMethod.beanClassName_readProduct read, offers.returns]
  simp only [included, DependencyDescriptor.FitsType, DependencyDescriptor.FitsQualifier]
  split <;> simp [eq_comm]

end BeanFactory

namespace DefinitionReader

variable {Memory : Type}

/-- When a model has been loaded, the standing bean of a method without a proxy is found under the
type that the method returns, unless the method is static: then it is found under the name of the
configuration class, and under no other type. Where no name may be bound anew, the bean of a method
without overloads stands. -/
theorem loadModel_candidates_iff (reader : DefinitionReader Memory) {model : ConfigurationModel}
    {registration : RegistrationState Memory} {left : LoadingState Memory}
    {holders : List BeanDefinitionHolder} (reachable : registration.registry.Reachable)
    (loaded : reader.loadModel.run ⟨registration, model⟩ = .ok holders left)
    {configuration : ConfigurationClass} {method : BeanMethod}
    (member : (configuration, method) ∈ left.model.methods) {beanName typeName : String}
    (offers : method.Offers reader.scopes beanName typeName)
    (unshadowed : left.registration.registry.isAlias beanName = false) {factory : BeanFactory}
    (loadedInto : factory.registry = left.registration.registry)
    (aware : factory.resolver = .annotationAware) :
    (registration.registry.allowOverriding = false →
      ¬ registration.registry.MakesFrom configuration.className method.name →
      BeanMethod.Alone left.model.methods (configuration, method) →
      BeanMethod.Stands reader.scopes configuration method beanName factory.registry) ∧
    (BeanMethod.Stands reader.scopes configuration method beanName factory.registry →
      ∀ wanted, beanName ∈ factory.candidateNames { typeName := some wanted } ↔
        wanted = if method.metadata.isStatic then configuration.className else typeName) := by
  rw [← loadedInto] at unshadowed
  constructor
  · intro fixedNames unmade alone
    obtain ⟨_, named, _, registry, naming, methods, _, rfl⟩ := loadModel_eq_ok_iff.mp loaded
    have fixedBetween := (nameConfigurations_extends naming fixedNames).fixedNames
    rw [loadedInto]
    exact BeanMethod.stands_of_registerAll fixedBetween methods member alone offers fun made =>
      unmade (makesFrom_of_nameConfigurations fixedNames naming made)
  · intro stands
    have placed := (reader.loadModel_places (fun _ _ _ => trivial) fun _ _ _ _ => trivial).of_ok
      loaded
    have written : ReflTransGen Registry.Write registration.registry factory.registry := by
      rw [loadedInto]
      exact ReflTransGen.mono (fun _ _ => Registry.Placement.write) _ _ placed
    exact BeanFactory.mem_candidateNames_of_stands (reachable.writes written) aware unshadowed
      offers stands

/-- The method makes the cart, which is named after it, and says nothing of a scope. -/
def MakesCart (method : BeanMethod) : Prop :=
  method.name = "cart" ∧
    method.metadata.annotations.attributes AnnotationType.bean =
      some [(AttributeName.autowireCandidate, .bool true), (AttributeName.name, .stringArray [])] ∧
    method.metadata.annotations.attributes AnnotationType.scope = none ∧
    method.metadata.returnTypeName = some "shop.Cart"

instance : DecidablePred MakesCart := fun _ => inferInstanceAs (Decidable (_ ∧ _ ∧ _ ∧ _))

/-- A method that makes the cart offers a bean of its name and class. -/
theorem MakesCart.offers {method : BeanMethod} (makes : MakesCart method) :
    method.Offers namingReader.scopes "cart" "shop.Cart" := by
  obtain ⟨named, marked, unscoped, returns⟩ := makes
  refine ⟨⟨_, [], marked, by rfl, named⟩, ⟨.singleton, ?_, rfl⟩, fun attributes present => ?_,
    returns⟩
  · rw [ScopeResolver.resolve, unscoped]
  · obtain rfl := Option.some.inj (marked.symm.trans present)
    decide

/-- The factory that finds what has been loaded. -/
def finder (left : LoadingState MetaTypeCache) : BeanFactory :=
  BeanFactory.installAnnotationSupport { registry := left.registration.registry }

/-- Loading succeeds and leaves what passes the check. -/
def leaves (check : LoadingState MetaTypeCache → Bool) (state : LoadingState MetaTypeCache) : Bool :=
  match namingReader.loadModel.run state with
  | .ok _ left => check left
  | .error _ _ => false

/-- Loading has succeeded where a check of what it left passes. -/
theorem exists_of_leaves {check : LoadingState MetaTypeCache → Bool}
    {state : LoadingState MetaTypeCache} (passes : leaves check state = true) :
    ∃ holders left, namingReader.loadModel.run state = .ok holders left ∧ check left = true := by
  unfold leaves at passes
  split at passes
  · rename_i holders left loaded
    exact ⟨holders, left, loaded, passes⟩
  · contradiction

/-- The cart that an instance method makes is found under its own type. -/
theorem instance_cart_found :
    ∃ holders left, namingReader.loadModel.run (cartModel (.bean [])) = .ok holders left ∧
      left.registration.registry.isAlias "cart" = false ∧
      ∃ entry ∈ left.model.methods, entry.2.Offers namingReader.scopes "cart" "shop.Cart" ∧
        "cart" ∈ (finder left).candidateNames { typeName := some "shop.Cart" } := by
  have passes : leaves (fun left => decide (left.registration.registry.isAlias "cart" = false ∧
      left.model.methods.length = 1 ∧
        ∀ entry ∈ left.model.methods, entry.2.metadata.isStatic = false ∧ MakesCart entry.2))
      (cartModel (.bean [])) = true := by
    decide +kernel
  obtain ⟨holders, left, loaded, facts⟩ := exists_of_leaves passes
  obtain ⟨unshadowed, single, methods⟩ := of_decide_eq_true facts
  obtain ⟨⟨configuration, method⟩, single⟩ := List.length_eq_one_iff.mp single
  have member : (configuration, method) ∈ left.model.methods := by
    rw [single]
    exact List.mem_singleton.mpr rfl
  obtain ⟨onInstance, makes⟩ := methods _ member
  obtain ⟨stands, found⟩ := loadModel_candidates_iff namingReader ⟨[], rfl⟩ loaded member
    makes.offers unshadowed (show (finder left).registry = left.registration.registry from rfl) rfl
  refine ⟨holders, left, loaded, unshadowed, _, member, makes.offers, ?_⟩
  refine (found (stands rfl ?_ ?_) "shop.Cart").mpr ?_
  · rintro ⟨_, _, _, known, _⟩
    exact nomatch known
  · intro other listed _ _
    rw [single] at listed
    exact List.mem_singleton.mp listed
  · dsimp only at onInstance
    rw [onInstance]
    rfl

/-- The cart is made by a static method. -/
def staticCartModel : LoadingState MetaTypeCache :=
  ⟨⟨.empty, {}⟩, .ofTable { cartTable (.bean []) with
    methods := (cartTable (.bean [])).methods.map fun entry => { entry with isStatic := true } }⟩

/-- The cart that a static method makes is not found under its own type, but under that of the
configuration class. -/
theorem static_cart_missed :
    ∃ holders left, namingReader.loadModel.run staticCartModel = .ok holders left ∧
      left.registration.registry.isAlias "cart" = false ∧
      ∃ entry ∈ left.model.methods, entry.1.className = "shop.Config" ∧
        entry.2.Offers namingReader.scopes "cart" "shop.Cart" ∧
        "cart" ∉ (finder left).candidateNames { typeName := some "shop.Cart" } ∧
        "cart" ∈ (finder left).candidateNames { typeName := some "shop.Config" } := by
  have passes : leaves (fun left =>
      let registry := left.registration.registry
      decide (registry.isAlias "cart" = false ∧ registry.canonicalName "cart" = "cart" ∧
        "cart" ∈ registry.names ∧
        (registry.definition? "cart").map (fun definition =>
          (definition.beanClassName, definition.autowireCandidate)) =
            some (some "shop.Config", true) ∧
        ∃ entry ∈ left.model.methods, entry.1.className = "shop.Config" ∧ MakesCart entry.2))
      staticCartModel = true := by
    decide +kernel
  obtain ⟨holders, left, loaded, facts⟩ := exists_of_leaves passes
  obtain ⟨unshadowed, canonical, listed, held, entry, member, ofClass, makes⟩ :=
    of_decide_eq_true facts
  obtain ⟨definition, known, same⟩ := Option.map_eq_some_iff.mp held
  obtain ⟨sameClass, included⟩ := Prod.mk.inj same
  have found (wanted : String) :
      "cart" ∈ (finder left).candidateNames { typeName := some wanted } ↔ "shop.Config" = wanted := by
    rw [BeanFactory.mem_candidateNames_of_listed _ rfl listed canonical known]
    simp [included, sameClass, DependencyDescriptor.FitsType, DependencyDescriptor.FitsQualifier]
  refine ⟨holders, left, loaded, unshadowed, entry, member, ofClass, makes.offers, ?_, ?_⟩
  · rw [found]
    decide
  · rw [found]

end DefinitionReader

end BeanContainer
