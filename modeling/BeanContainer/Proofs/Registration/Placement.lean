/-
This file says in which steps beans enter a registry, and what such steps keep. A proxy is only
placed where its target already stands, and where no name may be bound anew nothing is replaced.
-/

import BeanContainer.Proofs.Registration.Requests
import BeanContainer.Proofs.Registration.Scoped

namespace BeanContainer

open ScopedProxy Relation

namespace ScopedProxy

/-- What is registered under the name of the bean: the bean itself or its proxy. -/
def shown (mode : ScopedProxyMode) (holder : BeanDefinitionHolder) : BeanDefinitionHolder :=
  if mode = .no then holder
  else { holder with definition := proxyOf holder.definition holder.beanName (mode = .targetClass) }

/-- The bean that is shown has the name of the bean that was given. -/
@[simp] theorem beanName_shown (mode : ScopedProxyMode) (holder : BeanDefinitionHolder) :
    (shown mode holder).beanName = holder.beanName := by
  unfold shown
  split <;> rfl

/-- The bean that is shown has the aliases of the bean that was given. -/
@[simp] theorem aliases_shown (mode : ScopedProxyMode) (holder : BeanDefinitionHolder) :
    (shown mode holder).aliases = holder.aliases := by
  unfold shown
  split <;> rfl

/-- The definition by which the bean is made, which a proxy hides. -/
def underlying (mode : ScopedProxyMode) (definition : BeanDefinition) : BeanDefinition :=
  if mode = .no then definition else hidden definition

end ScopedProxy

/-- A proxy knows the name of its target. -/
def BeanDefinition.proxyTarget? (definition : BeanDefinition) : Option String :=
  definition.attributes.get? targetNameAttribute

/-- Hiding a definition does not make it a proxy. -/
@[simp] theorem ScopedProxy.proxyTarget?_hidden (target : BeanDefinition) :
    (hidden target).proxyTarget? = target.proxyTarget? := rfl

/-- A proxy points to the target of its own name. -/
@[simp] theorem ScopedProxy.proxyTarget?_proxyOf (target : BeanDefinition) (beanName : String)
    (byClass : Bool) : (proxyOf target beanName byClass).proxyTarget? = some (targetName beanName) := by
  have different : targetNameAttribute ≠ targetClassAttribute := by decide
  unfold BeanDefinition.proxyTarget? proxyOf BeanDefinition.withAttribute
  dsimp only
  rw [SortedMap.get?_insert, if_neg different, SortedMap.get?_insert, if_pos rfl]

/-- The bean that is shown is a proxy just if its mode asks for one. -/
theorem ScopedProxy.proxyTarget?_shown (mode : ScopedProxyMode) {holder : BeanDefinitionHolder}
    (unproxied : holder.definition.proxyTarget? = none) :
    (shown mode holder).definition.proxyTarget? = none ↔ mode = .no := by
  unfold shown
  split <;> simp [*]

namespace Registry

/-- What a request leaves behind is the same by either way of telling. -/
theorem stateAfter_eq_leftBy {Value : Type} (request : RegistryM Value) (registry : Registry) :
    stateAfter request registry = registry.leftBy request := by
  unfold stateAfter leftBy
  cases request.run registry <;> rfl

/-- The definition by which the bean of this name is made, be it behind a proxy or not. -/
def unproxied? (registry : Registry) (name : String) : Option BeanDefinition :=
  match registry.definition? name with
  | none => none
  | some definition =>
      match definition.proxyTarget? with
      | none => some definition
      | some target => registry.definition? target

/-- A name with a definition behind it is known. -/
theorem contains_of_unproxied? {registry : Registry} {name : String} {definition : BeanDefinition}
    (known : registry.unproxied? name = some definition) : registry.contains name = true := by
  unfold unproxied? at known
  unfold contains
  cases present : registry.definition? name with
  | none => simp [present] at known
  | some _ => rfl

/-! The steps. -/

/-- Definitions with the given property enter the registry in such steps. -/
inductive Placement (sanctioned : BeanDefinition → Prop) : Registry → Registry → Prop where
  | place {registry : Registry} {name : String} {definition : BeanDefinition}
      (allowed : sanctioned definition) (free : registry.bindingFault? name = none) :
      Placement sanctioned registry (registry.bind name definition)
  | hide {registry : Registry} {name : String} {definition : BeanDefinition}
      (allowed : sanctioned definition) (free : registry.bindingFault? (targetName name) = none) :
      Placement sanctioned registry (registry.bind (targetName name) (hidden definition))
  | front {registry : Registry} {name : String} {definition : BeanDefinition} (byClass : Bool)
      (behind : registry.definition? (targetName name) = some (hidden definition))
      (free : registry.bindingFault? name = none) :
      Placement sanctioned registry (registry.bind name (proxyOf definition name byClass))
  | connect {registry : Registry} {name aliasName : String}
      (known : registry.contains name = true)
      (free : registry.aliasFault? name aliasName = none) :
      Placement sanctioned registry (registry.connect name aliasName)

variable {sanctioned : BeanDefinition → Prop} {mode : ScopedProxyMode}
  {holder visible : BeanDefinitionHolder} {first last : Registry}

/-- The connections of a known bean are placements. -/
theorem Placement.of_connection {name : String} {aliases : List String}
    (known : first.contains name = true)
    (connections : ReflTransGen (Connection name aliases) first last) :
    ReflTransGen (Placement sanctioned) first last := by
  induction connections with
  | refl => exact .refl
  | @tail middle last earlier connection inductionHypothesis =>
      have still : middle.contains name = true := by
        rwa [contains, definition?, (Connection.kept earlier).2]
      cases connection with
      | connect listed free => exact inductionHypothesis.tail (.connect still free)

/-- A holder is placed and then connected, if its definition may be placed. -/
theorem registerHolder_places
    (step : first.bindingFault? holder.beanName = none →
      Placement sanctioned first (first.bind holder.beanName holder.definition)) :
    ReflTransGen (Placement sanctioned) first (stateAfter (registerHolder holder) first) := by
  rw [stateAfter_eq_leftBy]
  obtain ⟨_, _, same⟩ | ⟨free, connections⟩ := registerHolder_leftBy holder first
  · rw [same]
  · have known : (first.bind holder.beanName holder.definition).contains holder.beanName = true := by
      rw [contains_bind, beq_self_eq_true, Bool.true_or]
    exact (ReflTransGen.single (step free)).trans (Placement.of_connection known connections)

/-- The bean is registered, or its target and then its proxy. -/
theorem stateAfter_registerScoped (mode : ScopedProxyMode) (holder : BeanDefinitionHolder)
    (registry : Registry) :
    stateAfter (registerScoped mode holder) registry =
      if mode = .no then stateAfter (registerHolder holder) registry
      else
        match registry.bindingFault? (targetName holder.beanName) with
        | some _ => registry
        | none => stateAfter (registerHolder (shown mode holder))
            (registry.bind (targetName holder.beanName) (hidden holder.definition)) := by
  unfold registerScoped ScopedProxy.apply shown
  by_cases plain : mode = .no
  · rw [if_pos plain, if_pos plain, pure_bind, stateAfter_bind_pure]
  · rw [if_neg plain, if_neg plain, if_neg plain, stateAfter_bind, create, EStateM.run_bind,
      register_run]
    cases registry.bindingFault? (targetName holder.beanName) with
    | some cause => rfl
    | none => exact stateAfter_bind_pure _ _ _

/-- A bean under its scope is placed, or hidden and then fronted by its proxy. -/
theorem registerScoped_places (mode : ScopedProxyMode) (allowed : sanctioned holder.definition) :
    Respects (ReflTransGen (Placement sanctioned)) (registerScoped mode holder) := by
  intro registry
  rw [stateAfter_registerScoped]
  split
  · exact registerHolder_places fun free => .place allowed free
  · rename_i proxied
    split
    · exact .refl
    · rename_i targetFree
      refine ReflTransGen.head (.hide allowed targetFree) (registerHolder_places fun free => ?_)
      unfold shown at free ⊢
      rw [if_neg proxied] at free ⊢
      exact .front _ (by rw [definition?_bind, if_pos rfl]) free

/-- A definition is placed under its name or refused. -/
theorem register_places (name : String)
    {definition : BeanDefinition} (allowed : sanctioned definition) :
    Respects (ReflTransGen (Placement sanctioned)) (register name definition) := by
  intro registry
  rw [stateAfter, register_run]
  cases free : registry.bindingFault? name with
  | some cause => exact .refl
  | none => exact .single (.place allowed free)

/-- The beans that the container supplies are placed one by one. -/
theorem registerInfrastructure_places {sanctioned : BeanDefinition → Prop}
    (source : Option SourceLocation) (isPresent : String → Bool)
    (allowed : ∀ bean : InfrastructureBean, sanctioned (bean.definition source)) :
    Respects (ReflTransGen (Placement sanctioned)) (registerInfrastructure source isPresent) := by
  refine Respects.bind (.mapM fun bean _ => ?_) fun registered _ => .pure _
  refine Respects.get.bind fun registry _ => ?_
  split
  · exact .pure none
  · exact (register_places bean.beanName (allowed bean)).bind fun _ _ => .pure _

/-! What a registration that succeeds leaves under its names. -/

/-- A registered holder gives its name a definition and changes no other definition. -/
theorem registerHolder_ok {registered : BeanDefinition}
    (done : (registerHolder holder).run first = .ok registered last) (name : String) :
    last.definition? name =
      if name = holder.beanName then some holder.definition else first.definition? name := by
  have left : first.leftBy (registerHolder holder) = last := by rw [leftBy, done]
  obtain ⟨cause, fault, _⟩ | ⟨_, connections⟩ := registerHolder_leftBy holder first
  · rw [registerHolder, EStateM.run_bind, register_run, fault] at done
    contradiction
  · rw [left] at connections
    rw [definition?, (Connection.kept connections).2]
    exact definition?_bind first holder.beanName name holder.definition

/-- The bean or its proxy is registered last, and a proxy after its hidden target. -/
theorem registerScoped_eq_ok (done : (registerScoped mode holder).run first = .ok visible last) :
    visible = shown mode holder ∧ ∃ before registered,
      (registerHolder (shown mode holder)).run before = .ok registered last ∧
        (mode = .no ∧ before = first ∨
          mode ≠ .no ∧ first.bindingFault? (targetName holder.beanName) = none ∧
            before = first.bind (targetName holder.beanName) (hidden holder.definition)) := by
  obtain ⟨shownHolder, before, applied, done⟩ := run_bind_eq_ok_iff.mp done
  obtain ⟨registered, _, held, rest⟩ := run_bind_eq_ok_iff.mp done
  cases rest
  unfold ScopedProxy.apply at applied
  unfold shown
  by_cases plain : mode = .no
  · rw [if_pos plain] at applied ⊢
    cases applied
    exact ⟨rfl, _, registered, held, Or.inl ⟨plain, rfl⟩⟩
  · rw [if_neg plain] at applied ⊢
    obtain ⟨_, _, target, rest⟩ := run_bind_eq_ok_iff.mp applied
    cases rest
    rw [register_run] at target
    split at target
    · contradiction
    · rename_i free
      cases target
      exact ⟨rfl, _, registered, held, Or.inr ⟨plain, free, rfl⟩⟩

/-- A registered bean is shown under its name, with its target behind it if it is proxied. -/
theorem registerScoped_ok (done : (registerScoped mode holder).run first = .ok visible last) :
    visible = shown mode holder ∧ last.definition? holder.beanName = some visible.definition ∧
      (mode ≠ .no →
        last.definition? (targetName holder.beanName) = some (hidden holder.definition)) := by
  obtain ⟨rfl, before, registered, held, begun⟩ := registerScoped_eq_ok done
  have same := registerHolder_ok held
  rw [beanName_shown] at same
  refine ⟨rfl, by rw [same, if_pos rfl], fun proxied => ?_⟩
  obtain ⟨plain, _⟩ | ⟨_, _, rfl⟩ := begun
  · exact absurd plain proxied
  · rw [same, if_neg (ne_targetName holder.beanName).symm, definition?_bind, if_pos rfl]

/-- The bean is found behind its proxy, if it has one. -/
theorem unproxied?_of_registerScoped (unproxied : holder.definition.proxyTarget? = none)
    (done : (registerScoped mode holder).run first = .ok visible last) :
    last.unproxied? holder.beanName = some (underlying mode holder.definition) := by
  obtain ⟨rfl, named, behind⟩ := registerScoped_ok done
  unfold unproxied?
  rw [named]
  unfold shown underlying at *
  by_cases plain : mode = .no
  · simp [plain, unproxied]
  · simp [plain, behind plain]

/-! What the steps keep. -/

/-- No name may be bound anew, and all that the first registry holds is held by the last. -/
structure Extends (first last : Registry) : Prop where
  fixedNames : last.allowOverriding = false
  definition? : ∀ {name : String} {definition : BeanDefinition},
    first.definition? name = some definition → last.definition? name = some definition

/-- Where no name may be bound anew, a new definition replaces none. -/
theorem Extends.bind (fixedNames : first.allowOverriding = false) {name : String}
    (free : first.bindingFault? name = none) (definition : BeanDefinition) :
    Extends first (first.bind name definition) where
  fixedNames := fixedNames
  definition? := by
    intro other present known
    rw [definition?_bind, if_neg]
    · exact known
    · rintro rfl
      have unused := isNameInUse_of_free fixedNames free
      simp [isNameInUse, contains, known] at unused

/-- Where no name may be bound anew, a placement replaces no definition. -/
theorem Placement.extends (placement : Placement sanctioned first last)
    (fixedNames : first.allowOverriding = false) : Extends first last := by
  cases placement with
  | place allowed free => exact .bind fixedNames free _
  | hide allowed free => exact .bind fixedNames free _
  | front byClass behind free => exact .bind fixedNames free _
  | connect known free => exact ⟨fixedNames, id⟩

/-- Extensions of extensions are extensions. -/
theorem Extends.trans {middle : Registry} (begun : Extends first middle)
    (ended : Extends middle last) : Extends first last :=
  ⟨ended.fixedNames, fun known => ended.definition? (begun.definition? known)⟩

/-- Where no name may be bound anew, placements replace no definition. -/
theorem Extends.of_placements (placements : ReflTransGen (Placement sanctioned) first last)
    (fixedNames : first.allowOverriding = false) : Extends first last := by
  induction placements with
  | refl => exact ⟨fixedNames, id⟩
  | tail _ placement inductionHypothesis =>
      exact inductionHypothesis.trans (placement.extends inductionHypothesis.fixedNames)

/-- The definition behind a proxy stays what it was in every extension. -/
theorem Extends.unproxied? (extends_ : Extends first last) {name : String}
    {definition : BeanDefinition} (known : first.unproxied? name = some definition) :
    last.unproxied? name = some definition := by
  unfold Registry.unproxied? at known ⊢
  cases present : first.definition? name with
  | none => simp [present] at known
  | some shownDefinition =>
      rw [extends_.definition? present]
      cases target : shownDefinition.proxyTarget? with
      | none => simpa [present, target] using known
      | some targetName =>
          simp only [present, target] at known
          simpa [target] using extends_.definition? known

/-- A definition that the steps have added is sanctioned, hides a sanctioned one or is a proxy. -/
theorem Placement.added (placements : ReflTransGen (Placement sanctioned) first last)
    {name : String} {definition : BeanDefinition} (known : last.definition? name = some definition) :
    first.definition? name = some definition ∨ sanctioned definition ∨
      (∃ target, sanctioned target ∧ definition = hidden target) ∨
      ∃ target beanName byClass, definition = proxyOf target beanName byClass := by
  induction placements with
  | refl => exact Or.inl known
  | tail _ placement inductionHypothesis =>
      cases placement with
      | place allowed free =>
          rw [definition?_bind] at known
          split at known
          · exact Or.inr (Or.inl (Option.some.inj known ▸ allowed))
          · exact inductionHypothesis known
      | hide allowed free =>
          rw [definition?_bind] at known
          split at known
          · exact Or.inr (Or.inr (Or.inl ⟨_, allowed, (Option.some.inj known).symm⟩))
          · exact inductionHypothesis known
      | front byClass behind free =>
          rw [definition?_bind] at known
          split at known
          · exact Or.inr (Or.inr (Or.inr ⟨_, _, _, (Option.some.inj known).symm⟩))
          · exact inductionHypothesis known
      | connect _ free => exact inductionHypothesis known

end Registry

/-- The rules of the factory do not matter to what its registry receives. -/
theorem BeanFactory.registerInfrastructure_registry (source : Option SourceLocation)
    (isPresent : String → Bool) (factory : BeanFactory) :
    (stateAfter (registerInfrastructure source isPresent) factory).registry =
      stateAfter (Registry.registerInfrastructure source isPresent) factory.registry := by
  unfold registerInfrastructure
  rw [stateAfter_bind, FactoryM.onRegistry_eq_onPart]
  exact congrArg BeanFactory.registry (stateAfter_onPart _ _ _ _)

/-- A request that only places beans extends the registry where no name may be bound anew. -/
theorem Respects.extends {State Cause Value : Type} {registryOf : State → Registry}
    {sanctioned : BeanDefinition → Prop} {request : EStateM Cause State Value}
    (places : Respects (Order.Preimage registryOf (ReflTransGen (Registry.Placement sanctioned)))
      request)
    {state left : State} {value : Value} (done : request.run state = .ok value left)
    (fixedNames : (registryOf state).allowOverriding = false) :
    Registry.Extends (registryOf state) (registryOf left) :=
  .of_placements (places.of_ok done) fixedNames

end BeanContainer
