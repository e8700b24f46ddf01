/-
This file says exactly when a refused component class leaves something behind. All that reads the
class is done before the registry is changed, but a proxied component changes the registry twice.
-/

import BeanContainer.Proofs.Registration.Scoped
import BeanContainer.Registration.Component

namespace BeanContainer

open ScopedProxy

/-- The target of the component is accepted and new to the registry, but its proxy is refused. -/
def Component.Strands (component : Component) (registry : Registry) : Prop :=
  component.proxyMode ≠ .no ∧
    (Text.isBlank component.beanName = true ∨
      registry.allowOverriding = false ∧ registry.isNameInUse component.beanName = true) ∧
    (registry.allowOverriding = true ∨
      registry.isNameInUse (targetName component.beanName) = false) ∧
    ¬ (registry.definition? (targetName component.beanName) =
          some (hidden component.definition) ∧
        registry.isAlias (targetName component.beanName) = false)

/-- The registry with the hidden target of the component and nothing else of it. -/
def Component.stranded (component : Component) (registry : Registry) : Registry :=
  registry.bind (targetName component.beanName) (hidden component.definition)

/-- A proxied component strands its target just if the target is accepted, the proxy is refused, and
the target makes a difference. -/
theorem Component.strands_iff (component : Component) (registry : Registry) :
    component.Strands registry ↔
      component.proxyMode ≠ .no ∧ registry.bindingFault? component.beanName ≠ none ∧
        registry.bindingFault? (targetName component.beanName) = none ∧
        component.stranded registry ≠ registry := by
  have refused : registry.bindingFault? component.beanName ≠ none ↔
      (Text.isBlank component.beanName = true ∨
        registry.allowOverriding = false ∧ registry.isNameInUse component.beanName = true) := by
    rw [ne_eq, registry.bindingFault?_eq_none_iff]
    cases Text.isBlank component.beanName <;> simp
  have accepted : registry.bindingFault? (targetName component.beanName) = none ↔
      (registry.allowOverriding = true ∨
        registry.isNameInUse (targetName component.beanName) = false) := by
    simp [registry.bindingFault?_eq_none_iff, Registry.isBlank_targetName]
  rw [refused, accepted, ne_eq, ne_eq, Component.stranded, Registry.bind_eq_self_iff]
  rfl

/-- A refusal leaves the registry alone, or with nothing but the target added. -/
theorem Component.registerScoped_error_iff (component : Component) (registry left : Registry) :
    (∃ cause, (Registry.registerScoped component.proxyMode component.holder).run registry =
        .error cause left) ∧ left ≠ registry ↔
      component.Strands registry ∧ left = component.stranded registry := by
  rw [Component.strands_iff, Registry.registerScoped_run _ _ rfl]
  dsimp only [Component.holder, Component.stranded]
  by_cases plain : component.proxyMode = .no
  · cases fault : registry.bindingFault? component.beanName with
    | some cause => simp [plain, eq_comm]
    | none => simp [plain]
  · cases targetFault : registry.bindingFault? (targetName component.beanName) with
    | some cause => simp [plain, eq_comm]
    | none =>
        cases fault : registry.bindingFault? component.beanName with
        | some cause =>
            rw [if_neg plain]
            constructor
            · rintro ⟨⟨_, same⟩, changed⟩
              cases same
              exact ⟨⟨plain, Option.some_ne_none cause, rfl, changed⟩, rfl⟩
            · rintro ⟨⟨_, _, _, changed⟩, rfl⟩
              exact ⟨⟨cause, rfl⟩, changed⟩
        | none => simp [plain]

namespace DefinitionReader

variable {Memory : Type}

/-- Reading a component class keeps the registry, also where the class is refused. -/
theorem readComponent_keepsRegistry (reader : DefinitionReader Memory) (metadata : ClassMetadata)
    (name : Option String) : (reader.readComponent metadata name).KeepsRegistry := by
  refine .bind (.ofExcept _) fun scope => ?_
  cases name with
  | some name => exact .bind (.pure name) fun _ => .bind (.ofExcept _) fun _ => .pure _
  | none => exact .bind (.generateName _ _) fun _ => .bind (.ofExcept _) fun _ => .pure _

/-- A component is read first, and only what could be read is registered under its scope. -/
theorem registerComponent_run (reader : DefinitionReader Memory) (metadata : ClassMetadata)
    (name : Option String) (state : RegistrationState Memory) :
    (reader.registerComponent metadata name).run state =
      match (reader.readComponent metadata name).run state with
      | .error cause left => .error cause left
      | .ok component prepared =>
          match (Registry.registerScoped component.proxyMode component.holder).run
              state.registry with
          | .ok holder registry => .ok holder { prepared with registry }
          | .error cause registry => .error cause { prepared with registry } := by
  have kept := reader.readComponent_keepsRegistry metadata name state
  unfold registerComponent
  rw [EStateM.run_bind]
  cases outcome : (reader.readComponent metadata name).run state with
  | error cause left => rfl
  | ok component prepared =>
      rw [outcome] at kept
      dsimp only at kept ⊢
      cases registered : (Registry.registerScoped component.proxyMode component.holder).run
          state.registry <;>
        rw [RegistrationM.onRegistry_run, kept, registered]

/-- A component is registered just if its class can be read and its scoped bean is accepted. -/
theorem registerComponent_eq_ok_iff {reader : DefinitionReader Memory} {metadata : ClassMetadata}
    {name : Option String} {state left : RegistrationState Memory}
    {holder : BeanDefinitionHolder} :
    (reader.registerComponent metadata name).run state = .ok holder left ↔
      ∃ component prepared registry,
        (reader.readComponent metadata name).run state = .ok component prepared ∧
          (Registry.registerScoped component.proxyMode component.holder).run state.registry =
            .ok holder registry ∧
          left = { prepared with registry } := by
  rw [registerComponent_run]
  cases (reader.readComponent metadata name).run state with
  | error cause unchanged => simp
  | ok component prepared =>
      constructor
      · intro done
        dsimp only at done
        split at done
        · rename_i registered
          cases done
          exact ⟨_, _, _, rfl, registered, rfl⟩
        · contradiction
      · rintro ⟨_, _, registry, same, registered, rfl⟩
        cases same
        dsimp only
        rw [registered]

/-- A refused component changes the registry exactly if it strands the target of its proxy, and
then the hidden target is all that it leaves behind. -/
theorem registerComponent_error_iff (reader : DefinitionReader Memory) (metadata : ClassMetadata)
    (name : Option String) (state left : RegistrationState Memory) :
    (∃ cause, (reader.registerComponent metadata name).run state = .error cause left) ∧
        left.registry ≠ state.registry ↔
      ∃ component prepared,
        (reader.readComponent metadata name).run state = .ok component prepared ∧
          component.Strands state.registry ∧
          left = { prepared with registry := component.stranded state.registry } := by
  have kept := reader.readComponent_keepsRegistry metadata name state
  rw [registerComponent_run]
  cases outcome : (reader.readComponent metadata name).run state with
  | error cause unchanged =>
      rw [outcome] at kept
      constructor
      · rintro ⟨⟨_, same⟩, changed⟩
        cases same
        exact absurd kept changed
      · rintro ⟨_, _, same, _⟩
        cases same
  | ok component prepared =>
      have stranding := component.registerScoped_error_iff state.registry left.registry
      constructor
      · rintro ⟨⟨cause, refused⟩, changed⟩
        cases registered : (Registry.registerScoped component.proxyMode component.holder).run
            state.registry with
        | ok holder registry => simp [registered] at refused
        | error cause registry =>
            simp only [registered] at refused
            cases refused
            obtain ⟨strands, stranded⟩ := stranding.mp ⟨⟨cause, registered⟩, changed⟩
            exact ⟨component, prepared, rfl, strands, by rw [← stranded]⟩
      · rintro ⟨_, _, same, strands, rfl⟩
        cases same
        obtain ⟨⟨cause, registered⟩, changed⟩ := stranding.mpr ⟨strands, rfl⟩
        refine ⟨⟨cause, ?_⟩, changed⟩
        simp only [registered]

/-- Each session has a cart of its own, which stands behind a proxy. -/
def sessionCart : ClassMetadata :=
  { className := "shop.Cart"
    annotations := .ofDescriptors [.scope "session" .targetClass] }

def cartTaken : RegistrationState MetaTypeCache := ⟨Registry.empty.run [.register "cart" {}], {}⟩

/-- A component is refused because its name is taken, and the target of its proxy stays all the
same. -/
theorem refused_component_strands_target :
    cartTaken.registry.names = ["cart"] ∧
      ∃ cause left,
        (registerComponent { generator := Naming.byAnnotations } sessionCart (some "cart")).run
            cartTaken = .error cause left ∧
          left.registry.names = ["cart", "scopedTarget.cart"] := by
  have leftNames :
      (match (registerComponent { generator := Naming.byAnnotations } sessionCart
          (some "cart")).run cartTaken with
        | .ok _ _ => none
        | .error _ left => some left.registry.names) = some ["cart", "scopedTarget.cart"] := by
    decide +kernel
  refine ⟨by decide +kernel, ?_⟩
  split at leftNames
  · contradiction
  · rename_i refused
    exact ⟨_, _, refused, Option.some.inj leftNames⟩

end DefinitionReader

end BeanContainer
