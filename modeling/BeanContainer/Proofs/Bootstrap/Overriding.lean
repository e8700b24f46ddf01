/-
This file compares a start where names may be bound anew with one where they may not. Where the
second succeeds, the first takes the same course and ends with the same container.
-/

import BeanContainer.Proofs.Bootstrap.Outcome
import BeanContainer.Proofs.Bootstrap.Phases
import BeanContainer.Proofs.Registration.Permission

namespace BeanContainer

/-- The same factory where names may be bound anew. -/
def BeanFactory.permissive (factory : BeanFactory) : BeanFactory :=
  { factory with registry := factory.registry.permissive }

def Context.permissive (context : Context) : Context :=
  { context with factory := context.factory.permissive }

/-- The same input for a start where names may be bound anew. -/
def BootstrapInput.permissive (input : BootstrapInput) : BootstrapInput :=
  { input with allowOverriding := true }

namespace Bootstrap

/-- Components that are accepted without permission are accepted alike with it. -/
theorem componentFactory_permissive {input : BootstrapInput} {factory : BeanFactory}
    {names : SortedMap String} (done : componentFactory input = .ok (factory, names)) :
    componentFactory input.permissive = .ok (factory.permissive, names) := by
  obtain ⟨holders, prepared, left, infrastructure, registered, rfl⟩ :=
    componentFactory_eq_ok_iff.mp done
  have installs := Registry.permissive_simulation.registerInfrastructure none input.isPresent
  obtain ⟨_, infrastructureLikewise, rfl⟩ := installs.of_ok infrastructure rfl
  have alike : RegistrationState.Pairs (fun first second => second = first.permissive) Eq
      (⟨prepared, {}⟩ : RegistrationState MetaTypeCache) ⟨prepared.permissive, {}⟩ := ⟨rfl, rfl⟩
  have simulates := registerComponents_simulates Registry.permissive_simulation
    (fun metadata (_ : metadata ∈ input.allComponents) _ => generateName_simulates_eq _) ∅
  obtain ⟨other, registeredLikewise, sameRegistry, _⟩ := simulates.of_ok registered alike
  apply componentFactory_eq_ok_iff.mpr
  refine ⟨holders, prepared.permissive, other, infrastructureLikewise, registeredLikewise, ?_⟩
  rw [sameRegistry]
  rfl

/-- A model that loads without permission loads alike with it. -/
theorem loadModel_permissive {factory last : BeanFactory} {model : ConfigurationModel}
    {holders : List BeanDefinitionHolder} (done : loadModel factory model = .ok (last, holders)) :
    loadModel factory.permissive model = .ok (last.permissive, holders) := by
  obtain ⟨_, likewise, rfl⟩ := loadModel_simulates Registry.permissive_simulation rfl done
  exact likewise

/-- A start that succeeds without permission succeeds alike with it. -/
theorem outcome_permissive {input : BootstrapInput} {context : Context}
    (started : outcome input = .ok context) : outcome input.permissive = .ok context.permissive := by
  obtain ⟨factory, names, count, checked, last, holders, components, valid, loaded, rfl⟩ :=
    outcome_eq_ok_iff.mp started
  exact outcome_eq_ok_iff.mpr ⟨factory.permissive, names, count, checked, last.permissive, holders,
    componentFactory_permissive components, valid, loadModel_permissive loaded, rfl⟩

end Bootstrap

namespace ContainerBuilder

def withOverriding (builder : ContainerBuilder) (allow : Bool) : ContainerBuilder :=
  { builder with allowOverriding := some allow }

/-- A start that succeeds while no name may be bound anew does so where names may be, with the same
names in the same order, the same definitions and aliases, and the same problems. -/
theorem build_overriding (builder : ContainerBuilder) (shared : ContainerProperties)
    {context : Context}
    (started : ((builder.withOverriding false).build shared).1 = .ok context) :
    ∃ other, ((builder.withOverriding true).build shared).1 = .ok other ∧
      other.factory.registry.names = context.factory.registry.names ∧
      (∀ name, other.factory.registry.definition? name =
        context.factory.registry.definition? name) ∧
      other.factory.registry.aliases = context.factory.registry.aliases ∧
      other.problems = context.problems := by
  rw [build_eq_ok_iff] at started
  have likewise := Bootstrap.outcome_permissive started
  exact ⟨context.permissive, build_eq_ok_iff.mpr likewise, rfl, fun _ => rfl, rfl, rfl⟩

/-- The shop is behind a proxy and its cart has an alias. -/
def aliasedShop : ContainerBuilder :=
  let shop : ClassMetadata :=
    { className := "shop.Config"
      annotations := .ofDescriptors [.configuration none true, .scope "session" .targetClass] }
  let cart : MethodMetadata :=
    { methodName := "cart"
      declaringClassName := "shop.Config"
      annotations := .ofDescriptors [.bean ["cart", "basket"]] }
  let builder := (({} : ContainerBuilder).addComponent shop).addConfiguration shop [cart]
  { builder with failFast := some false }

/-- The shop starts either way, with a proxied configuration class and an alias of the cart. -/
theorem aliased_shop_overriding :
    let shared : ContainerProperties := { systemTier := fun _ => none }
    ∃ context other, ((aliasedShop.withOverriding false).build shared).1 = .ok context ∧
      ((aliasedShop.withOverriding true).build shared).1 = .ok other ∧
      context.userBeanNames = ["scopedTarget.config", "config", "cart"] ∧
      context.factory.registry.aliases.get? "basket" = some "cart" ∧
      other.factory.registry.names = context.factory.registry.names ∧
      other.factory.registry.aliases.get? "basket" = some "cart" := by
  intro shared
  have seen :
      ((aliasedShop.withOverriding false).build shared).1.toOption.map (fun context =>
        (context.userBeanNames, context.factory.registry.aliases.get? "basket")) =
      some (["scopedTarget.config", "config", "cart"], some "cart") := by
    decide +kernel
  obtain ⟨context, started, facts⟩ := exists_of_seen seen
  obtain ⟨names, bound⟩ := Prod.mk.inj facts
  obtain ⟨other, likewise, sameNames, _, sameAliases, _⟩ :=
    build_overriding aliasedShop shared started
  rw [← sameAliases] at bound
  exact ⟨context, other, started, likewise, names, sameAliases ▸ bound, sameNames, bound⟩

end ContainerBuilder

end BeanContainer
