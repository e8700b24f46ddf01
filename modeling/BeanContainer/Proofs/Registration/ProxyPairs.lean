/-
This file shows that each scoped proxy stands before a hidden target of its own. No name may be bound
anew, so the target that was there when the proxy was placed stays there, whatever else is
registered and whatever is refused on the way.
-/

import BeanContainer.Proofs.Autowire.Candidates
import BeanContainer.Proofs.Registration.Models

namespace BeanContainer

open ScopedProxy Relation

/-- What may be asked of a bean factory on the way to a container. A reader remembers names in its
own way, and each activity may find any memory. -/
inductive Activity : Type 1 where
  | infrastructure (source : Option SourceLocation) (isPresent : String → Bool)
  | component {Memory : Type} (reader : DefinitionReader Memory) (memory : Memory)
      (metadata : ClassMetadata) (name : Option String)
  | load {Memory : Type} (reader : DefinitionReader Memory) (memory : Memory)
      (model : ConfigurationModel)

namespace Activity

/-- The factory after the activity, whether it is refused or not. -/
def after (factory : BeanFactory) : Activity → BeanFactory
  | .infrastructure source isPresent =>
      stateAfter (BeanFactory.registerInfrastructure source isPresent) factory
  | .component reader memory metadata name =>
      { factory with registry :=
          (stateAfter (reader.registerComponent metadata name) ⟨factory.registry, memory⟩).registry }
  | .load reader memory model =>
      { factory with registry :=
          (stateAfter reader.loadModel ⟨⟨factory.registry, memory⟩, model⟩).registration.registry }

/-- Each activity finds the factory as the one before it has left it. -/
def run (factory : BeanFactory) (activities : List Activity) : BeanFactory :=
  activities.foldl after factory

end Activity

/-! What the activities place. -/

/-- Nothing but beans without a proxy is placed, hidden or put behind a proxy. -/
theorem Activity.places (activity : Activity) (factory : BeanFactory) :
    ReflTransGen (Registry.Placement fun definition => definition.proxyTarget? = none)
      factory.registry (activity.after factory).registry := by
  cases activity with
  | infrastructure source isPresent =>
      unfold after
      rw [BeanFactory.registerInfrastructure_registry]
      exact Registry.registerInfrastructure_places source isPresent (fun _ => rfl) _
  | component reader memory metadata name =>
      exact reader.registerComponent_places name (fun _ ofClass => ofClass.unproxied)
        ⟨factory.registry, memory⟩
  | load reader memory model =>
      exact reader.loadModel_places (fun _ _ ofClass => ofClass.unproxied)
        (fun _ _ _ product => product.unproxied) ⟨⟨factory.registry, memory⟩, model⟩

/-! The pairs. -/

namespace Registry

variable {first last : Registry}

/-- A target is hidden under this name, with the role and the source of the proxy. -/
def Hides (registry : Registry) (proxy : BeanDefinition) (target : String) : Prop :=
  ∃ definition, registry.definition? target = some definition ∧
    definition.autowireCandidate = false ∧ definition.primary = false ∧
    definition.role = proxy.role ∧ definition.source = proxy.source

/-- Each proxy names the target that its own name gives, and that target is hidden there. -/
def Paired (registry : Registry) : Prop :=
  ∀ name proxy target, registry.definition? name = some proxy → proxy.proxyTarget? = some target →
    target = targetName name ∧ registry.Hides proxy target

/-- Without definitions there is no proxy without a target. -/
theorem empty_paired (allowOverriding : Bool) : Paired (.empty allowOverriding) :=
  fun _ _ _ known _ => nomatch known

/-- A hidden target stays hidden in every extension. -/
theorem Extends.hides (extends_ : Extends first last) {proxy : BeanDefinition} {target : String}
    (hides : first.Hides proxy target) : last.Hides proxy target := by
  obtain ⟨definition, known, rest⟩ := hides
  exact ⟨definition, extends_.definition? known, rest⟩

/-- A placement keeps each proxy with its target, since a proxy is placed behind its target only. -/
theorem Placement.paired
    (placement : Placement (fun definition => definition.proxyTarget? = none) first last)
    (fixedNames : first.allowOverriding = false) (paired : Paired first) : Paired last := by
  have further := placement.extends fixedNames
  intro name proxy target known proxied
  -- Only the step that puts a proxy in front can bring in a new pair.
  have kept (before : first.definition? name = some proxy) :
      target = targetName name ∧ last.Hides proxy target :=
    (paired name proxy target before proxied).imp_right further.hides
  cases placement with
  | place allowed free =>
      rw [definition?_bind] at known
      split at known
      · obtain rfl := Option.some.inj known
        rw [allowed] at proxied
        contradiction
      · exact kept known
  | hide allowed free =>
      rw [definition?_bind] at known
      split at known
      · obtain rfl := Option.some.inj known
        rw [proxyTarget?_hidden, allowed] at proxied
        contradiction
      · exact kept known
  | front byClass behind free =>
      rw [definition?_bind] at known
      split at known
      · rename_i same
        obtain rfl := Option.some.inj known
        rw [proxyTarget?_proxyOf] at proxied
        obtain rfl := Option.some.inj proxied
        exact ⟨by rw [same], _, further.definition? behind, rfl, rfl, rfl, rfl⟩
      · exact kept known
  | connect _ free => exact kept known

/-- Placements one after the other keep each proxy with its target. -/
theorem Paired.of_placements
    (placements :
      ReflTransGen (Placement fun definition => definition.proxyTarget? = none) first last)
    (fixedNames : first.allowOverriding = false) (paired : Paired first) : Paired last := by
  induction placements with
  | refl => exact paired
  | tail earlier placement inductionHypothesis =>
      exact placement.paired (Extends.of_placements earlier fixedNames).fixedNames
        inductionHypothesis

end Registry

namespace Activity

/-- Whatever activities come, and however they end, they only place beans. -/
theorem run_places (factory : BeanFactory) (activities : List Activity) :
    ReflTransGen (Registry.Placement fun definition => definition.proxyTarget? = none)
      factory.registry (run factory activities).registry := by
  induction activities generalizing factory with
  | nil => exact .refl
  | cons activity rest inductionHypothesis =>
      exact (activity.places factory).trans (inductionHypothesis (activity.after factory))

/-- Whatever is registered from the empty factory on and whatever is refused meanwhile, each proxy
has its hidden target. No dependency is given that target, unless by a custom rule. -/
theorem run_proxies_paired (activities : List Activity) {name target : String}
    {proxy : BeanDefinition}
    (known : (run .empty activities).registry.definition? name = some proxy)
    (proxied : proxy.attributes.get? targetNameAttribute = some target) :
    let registry := (run .empty activities).registry
    target = targetName name ∧
      (∃ hidden, registry.definition? target = some hidden ∧
        hidden.autowireCandidate = false ∧ hidden.primary = false ∧
        hidden.role = proxy.role ∧ hidden.source = proxy.source) ∧
      ∀ (comparator : Option DependencyComparator) (resolver : CandidateResolver)
          (dependency : DependencyDescriptor),
        resolver = .simple ∨ resolver = .annotationAware →
          ∀ holder ∈ ({ registry, comparator, resolver } : BeanFactory).candidates dependency,
            holder.beanName ≠ targetName name := by
  intro registry
  have paired : registry.Paired :=
    .of_placements (run_places .empty activities) rfl (Registry.empty_paired false)
  obtain ⟨rfl, hides⟩ := paired name proxy target known proxied
  refine ⟨rfl, hides, fun comparator resolver dependency supplied holder candidate same => ?_⟩
  obtain ⟨hidden, found, notCandidate, _⟩ := hides
  have excluded : targetName name ∉
      BeanFactory.candidateNames { registry, comparator, resolver } dependency :=
    BeanFactory.not_mem_candidateNames_of_excluded
      (CandidateResolver.heedsExclusion_of_eq supplied) found notCandidate
  exact excluded ⟨holder, candidate, same⟩

/-- A second cart is refused, and so is one under the name of the hidden target of the first, since
the name that its own target would take is taken as well. -/
def cartActivities : List Activity :=
  let reader : DefinitionReader MetaTypeCache := { generator := Naming.byAnnotations }
  let register (name : String) := component reader {} DefinitionReader.sessionCart (some name)
  [.infrastructure none fun _ => false, register "cart", register "cart",
    register "scopedTarget.scopedTarget.cart", register "scopedTarget.cart"]

/-- Two of the four registrations are refused, and the cart still stands before its hidden
target. -/
theorem cartActivities_paired :
    let registry := (run .empty cartActivities).registry
    ∃ proxy, registry.definition? "cart" = some proxy ∧
      proxy.attributes.get? targetNameAttribute = some "scopedTarget.cart" ∧
      (∃ hidden, registry.definition? "scopedTarget.cart" = some hidden ∧
        hidden.autowireCandidate = false) ∧
      ∀ holder ∈ ({ registry, resolver := .annotationAware } : BeanFactory).candidates {},
        holder.beanName ≠ "scopedTarget.cart" := by
  intro registry
  have pointsTo : (registry.definition? "cart").bind
      (fun proxy => proxy.attributes.get? targetNameAttribute) = some "scopedTarget.cart" := by
    decide +kernel
  obtain ⟨proxy, known, proxied⟩ := Option.bind_eq_some_iff.mp pointsTo
  obtain ⟨_, ⟨hidden, found, notCandidate, _⟩, unoffered⟩ :=
    run_proxies_paired cartActivities known proxied
  exact ⟨proxy, known, proxied, ⟨hidden, found, notCandidate⟩,
    unoffered none .annotationAware {} (.inr rfl)⟩

end Activity

end BeanContainer
