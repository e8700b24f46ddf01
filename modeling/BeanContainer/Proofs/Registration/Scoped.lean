/-
This file says what registering a bean under its scope leaves behind, in particular where the
target of a proxy is accepted and the proxy itself is refused.
-/

import BeanContainer.Proofs.Registry.Operations
import BeanContainer.Registration.Basic

namespace BeanContainer

open ScopedProxy

/-! Stages of a registration that only read the registry. -/

namespace RegistrationM

variable {Memory First Second : Type}

/-- Whether it is refused or not, the registration leaves the registry as it was. -/
def KeepsRegistry (request : RegistrationM Memory First) : Prop :=
  ∀ state, match request.run state with
    | .ok _ left => left.registry = state.registry
    | .error _ left => left.registry = state.registry

/-- An answer keeps the registry. -/
theorem KeepsRegistry.pure (value : First) :
    KeepsRegistry (pure value : RegistrationM Memory First) := fun _ => rfl

/-- A result that is known beforehand keeps the registry, be it a refusal or not. -/
theorem KeepsRegistry.ofExcept (result : Except DefinitionError First) :
    KeepsRegistry (ofExcept result : RegistrationM Memory First) := by
  intro state
  cases result <;> rfl

/-- A name is made up without a change to the registry. -/
theorem KeepsRegistry.generateName (generator : NameGenerator Memory)
    (definition : BeanDefinition) : KeepsRegistry (generateName generator definition) := by
  intro state
  rw [EStateM.run, RegistrationM.generateName]
  cases generator definition state.registry state.memory <;> rfl

/-- Requests that keep the registry still do so one after the other. -/
theorem KeepsRegistry.bind {first : RegistrationM Memory First}
    {next : First → RegistrationM Memory Second} (firstKeeps : KeepsRegistry first)
    (nextKeeps : ∀ value, KeepsRegistry (next value)) : KeepsRegistry (first >>= next) := by
  intro state
  have kept := firstKeeps state
  rw [EStateM.run_bind]
  cases outcome : first.run state with
  | error cause left =>
      rw [outcome] at kept
      exact kept
  | ok value left =>
      rw [outcome] at kept
      have keptNext := nextKeeps value left
      rw [kept] at keptNext
      exact keptNext

/-- A request to the registry leaves everything else as it was. -/
theorem onRegistry_run (request : RegistryM First) (state : RegistrationState Memory) :
    (onRegistry request).run state =
      match request.run state.registry with
      | .ok value registry => .ok value { state with registry }
      | .error cause registry => .error cause { state with registry } := by
  cases outcome : request.run state.registry with
  | ok value registry =>
      rw [EStateM.run] at outcome
      rw [EStateM.run, onRegistry, outcome]
  | error cause registry =>
      rw [EStateM.run] at outcome
      rw [EStateM.run, onRegistry, outcome]

end RegistrationM

namespace Registry

/-! The bean, or its target and then its proxy. -/

/-- The name of a target is never blank, even where the name of its proxy is. -/
theorem isBlank_targetName (beanName : String) : Text.isBlank (targetName beanName) = false := by
  unfold Text.isBlank targetName
  rw [String.toList_append, List.all_append]
  rfl

/-- A proxy never has the name of its target. -/
theorem ne_targetName (beanName : String) : beanName ≠ targetName beanName := by
  intro same
  have longer : (targetName beanName).length = targetNameStart.length + beanName.length :=
    String.length_append _ _
  rw [← same] at longer
  have started : 0 < targetNameStart.length := by decide
  omega

/-- Without aliases a holder is registered as its definition alone. -/
theorem registerHolder_of_unaliased (holder : BeanDefinitionHolder)
    (unaliased : holder.aliases = []) :
    registerHolder holder = register holder.beanName holder.definition := by
  simp [registerHolder, unaliased]

/-- A bean without aliases is registered by itself, or after its hidden target. A refused proxy
does not take its target back. -/
theorem registerScoped_run (mode : ScopedProxyMode) (holder : BeanDefinitionHolder)
    (unaliased : holder.aliases = []) (registry : Registry) :
    (registerScoped mode holder).run registry =
      if mode = .no then
        match registry.bindingFault? holder.beanName with
        | some cause => .error cause registry
        | none => .ok holder (registry.bind holder.beanName holder.definition)
      else
        match registry.bindingFault? (targetName holder.beanName) with
        | some cause => .error cause registry
        | none =>
            let bound := registry.bind (targetName holder.beanName) (hidden holder.definition)
            let proxy := proxyOf holder.definition holder.beanName (mode = .targetClass)
            match registry.bindingFault? holder.beanName with
            | some cause => .error cause bound
            | none => .ok { holder with definition := proxy } (bound.bind holder.beanName proxy) := by
  unfold registerScoped ScopedProxy.apply
  split
  · rw [pure_bind, registerHolder_of_unaliased holder unaliased, EStateM.run_bind, register_run]
    cases registry.bindingFault? holder.beanName <;> rfl
  · unfold create
    rw [EStateM.run_bind, EStateM.run_bind, register_run]
    cases targetFault : registry.bindingFault? (targetName holder.beanName) with
    | some cause => rfl
    | none =>
        let visible : BeanDefinitionHolder :=
          { holder with definition := proxyOf holder.definition holder.beanName (mode = .targetClass) }
        have proxyAlone : registerHolder visible = register visible.beanName visible.definition :=
          registerHolder_of_unaliased visible unaliased
        dsimp only [EStateM.run_pure]
        rw [proxyAlone, EStateM.run_bind, register_run,
          bindingFault?_bind_of_ne _ (ne_targetName holder.beanName)]
        cases registry.bindingFault? holder.beanName <;> rfl

end Registry

end BeanContainer
