/-
This file says which beans are candidates for a dependency. A name is among their names if some
registered name leads to it and its own definition is accepted.
-/

import BeanContainer.Autowire.Candidates
import BeanContainer.Proofs.Registry.SharedNames
import Mathlib.Data.Set.Defs

namespace BeanContainer

/-- The two ways to look up a definition find the same. -/
theorem Registry.definition_eq_ok_iff {registry : Registry} {name : String}
    {definition : BeanDefinition} :
    registry.definition name = .ok definition ↔ registry.definition? name = some definition := by
  unfold Registry.definition
  cases registry.definition? name <;> simp

/-- The rule never accepts a bean whose definition is no candidate. -/
def CandidateResolver.HeedsExclusion (resolver : CandidateResolver) : Prop :=
  ∀ holder dependency, resolver.accepts holder dependency = true →
    holder.definition.autowireCandidate = true

/-- The rules that come with the container heed the exclusion of a bean. -/
theorem CandidateResolver.heedsExclusion_of_eq {resolver : CandidateResolver}
    (supplied : resolver = .simple ∨ resolver = .annotationAware) : resolver.HeedsExclusion := by
  intro holder dependency accepted
  obtain rfl | rfl := supplied
  · exact accepted
  · exact (Bool.and_eq_true_iff.mp accepted).1

namespace BeanFactory

variable {factory : BeanFactory} {dependency : DependencyDescriptor} {holder : BeanDefinitionHolder}
  {name : String}

/-- The names of the beans that are candidates for the dependency. -/
def candidateNames (factory : BeanFactory) (dependency : DependencyDescriptor) : Set String :=
  { name | ∃ holder ∈ factory.candidates dependency, holder.beanName = name }

/-- The bean has the type that the dependency asks for, and the rule of the factory accepts it. -/
def Admits (factory : BeanFactory) (dependency : DependencyDescriptor)
    (holder : BeanDefinitionHolder) : Prop :=
  dependency.acceptsType holder.definition = true ∧
    factory.resolver.accepts holder dependency = true

/-- Putting beans in order loses none and adds none. -/
theorem mem_inOrder {holders : List BeanDefinitionHolder} :
    holder ∈ factory.inOrder holders ↔ holder ∈ holders := by
  unfold inOrder
  cases factory.comparator with
  | none => exact Iff.rfl
  | some comparator => exact List.mem_mergeSort

/-- The beans at hand are those that some registered name leads to. -/
theorem mem_holders_iff :
    holder ∈ factory.holders ↔
      ∃ key ∈ factory.registry.names, factory.registry.holder key = .ok holder := by
  unfold holders
  rw [List.mem_filterMap]
  refine exists_congr fun key => and_congr_right fun _ => ?_
  cases factory.registry.holder key <;> simp [Except.toOption]

/-- The candidates are the beans at hand that the factory admits. -/
theorem mem_candidates_iff :
    holder ∈ factory.candidates dependency ↔
      (∃ key ∈ factory.registry.names, factory.registry.holder key = .ok holder) ∧
        factory.Admits dependency holder := by
  unfold candidates
  rw [mem_inOrder, List.mem_filter, mem_holders_iff, Bool.and_eq_true]
  rfl

/-- The holder that the candidates have for a name is made of what the name stands for. -/
theorem mem_candidateNames_iff :
    name ∈ factory.candidateNames dependency ↔
      (∃ key ∈ factory.registry.names, factory.registry.canonicalName key = name) ∧
        ∃ definition, factory.registry.definition? name = some definition ∧
          factory.Admits dependency ⟨definition, name, factory.registry.aliasesOf name⟩ := by
  constructor
  · rintro ⟨holder, candidate, rfl⟩
    obtain ⟨⟨key, member, held⟩, admitted⟩ := mem_candidates_iff.mp candidate
    obtain ⟨known, named, aliased⟩ := (Registry.holder_eq_ok_iff _ _ _).mp held
    rw [← named] at known aliased
    refine ⟨⟨key, member, named.symm⟩, holder.definition,
      Registry.definition_eq_ok_iff.mp known, ?_⟩
    rwa [← aliased]
  · rintro ⟨⟨key, member, rfl⟩, definition, known, admitted⟩
    refine ⟨_, mem_candidates_iff.mpr ⟨⟨key, member, ?_⟩, admitted⟩, rfl⟩
    exact (Registry.holder_eq_ok_iff _ _ _).mpr
      ⟨Registry.definition_eq_ok_iff.mpr known, rfl, rfl⟩

/-- A name without a definition is no candidate, whatever leads to it. -/
theorem not_mem_candidateNames_of_unknown (unknown : factory.registry.definition? name = none) :
    name ∉ factory.candidateNames dependency := by
  rw [mem_candidateNames_iff, unknown]
  rintro ⟨_, _, ⟨⟩, _⟩

/-- A name may lead to an excluded definition in many ways, and where the rule heeds the exclusion the
bean is never given to a dependency. -/
theorem not_mem_candidateNames_of_excluded {definition : BeanDefinition}
    (heeds : factory.resolver.HeedsExclusion)
    (known : factory.registry.definition? name = some definition)
    (excluded : definition.autowireCandidate = false) :
    name ∉ factory.candidateNames dependency := by
  rw [mem_candidateNames_iff, known]
  rintro ⟨_, found, same, _, accepted⟩
  obtain rfl := Option.some.inj same
  exact Bool.false_ne_true (excluded.symm.trans (heeds _ _ accepted))

end BeanFactory

end BeanContainer
