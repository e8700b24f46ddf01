/-
This file says exactly what a dependency is offered. Where no registered name is an alias, each bean
that fits is offered once, with its own definition and all its aliases, and the list is in the
declared order or else in the order of registration.
-/

import BeanContainer.Proofs.Autowire.ScopedCandidates
import BeanContainer.Proofs.Registry.AliasLists

namespace BeanContainer

namespace Registry

variable {registry : Registry} {holder : BeanDefinitionHolder} {name : String}

/-- The holder shows a registered bean under its own name, as it was registered. -/
structure Presents (registry : Registry) (holder : BeanDefinitionHolder) : Prop where
  listed : holder.beanName ∈ registry.names
  known : registry.definition? holder.beanName = some holder.definition
  aliases : holder.aliases = registry.aliasesOf holder.beanName

/-- Where no name is shared every registered name stands for itself. -/
theorem Separate.canonicalName_eq (separate : registry.Separate)
    (reachable : registry.Reachable) (listed : name ∈ registry.names) :
    registry.canonicalName name = name := by
  have known := (registry.definition_ok_iff name).mp ((reachable.inStep.known name).mpr listed)
  exact (canonicalName_eq_self_iff reachable.acyclic name).mpr (separate name known)

/-- Each listed name stands for its own bean, so no bean is found under the name of another. -/
theorem Separate.presents_iff (separate : registry.Separate) (reachable : registry.Reachable) :
    registry.Presents holder ↔
      ∃ key ∈ registry.names, registry.holder key = .ok holder := by
  constructor
  · intro presents
    have canonical := separate.canonicalName_eq reachable presents.listed
    refine ⟨holder.beanName, presents.listed, (holder_eq_ok_iff _ _ _).mpr ?_⟩
    rw [canonical]
    exact ⟨definition_eq_ok_iff.mpr presents.known, rfl, presents.aliases⟩
  · rintro ⟨key, listed, held⟩
    obtain ⟨known, named, aliased⟩ := (holder_eq_ok_iff _ _ _).mp held
    rw [separate.canonicalName_eq reachable listed] at known named aliased
    obtain rfl := named
    exact ⟨listed, definition_eq_ok_iff.mp known, aliased⟩

end Registry

namespace BeanDefinitionHolder

variable {first second third : BeanDefinitionHolder}

/-- The first bean need not come after the second. -/
def atMost (first second : BeanDefinitionHolder) : Bool :=
  first.definition.compareByOrder second.definition != .gt

/-- One bean may stand before another just if its order is not greater. -/
@[simp] theorem atMost_iff :
    first.atMost second = true ↔ first.definition.order ≤ second.definition.order := by
  rw [atMost, bne_iff_ne, BeanDefinition.compareByOrder, Ne,
    compareOfLessAndEq_eq_gt Int64.le_antisymm Int64.le_total Int64.not_le, Int64.not_lt]

/-- The comparison by order can be chained. -/
theorem atMost_trans (lower : first.atMost second = true) (upper : second.atMost third = true) :
    first.atMost third = true := by
  rw [atMost_iff] at lower upper ⊢
  exact Int64.le_trans lower upper

/-- Any two beans can be compared by order. -/
theorem atMost_total (first second : BeanDefinitionHolder) :
    (first.atMost second || second.atMost first) = true := by
  rw [Bool.or_eq_true, atMost_iff, atMost_iff]
  exact Int64.le_total _ _

end BeanDefinitionHolder

namespace BeanFactory

variable {factory : BeanFactory}

/-- Where no name is shared the beans at hand stand under the registered names, in order. -/
theorem map_beanName_holders (separate : factory.registry.Separate)
    (reachable : factory.registry.Reachable) :
    (factory.holders.map fun holder => holder.beanName) = factory.registry.names := by
  have each : ∀ name ∈ factory.registry.names,
      ((factory.registry.holder name).toOption.map fun holder => holder.beanName) = some name := by
    intro name listed
    obtain ⟨definition, known⟩ := (reachable.inStep.known name).mpr listed
    have held : factory.registry.holder name =
        .ok ⟨definition, name, factory.registry.aliasesOf name⟩ := by
      rw [Registry.holder_eq_ok_iff, separate.canonicalName_eq reachable listed]
      exact ⟨known, rfl, rfl⟩
    rw [held]
    rfl
  rw [holders, List.map_filterMap, List.filterMap_congr each, List.filterMap_some]

/-! What the comparator makes of the candidates. -/

/-- The order changes the places of the beans and nothing else. -/
theorem inOrder_perm (factory : BeanFactory) (holders : List BeanDefinitionHolder) :
    (factory.inOrder holders).Perm holders := by
  unfold inOrder
  cases factory.comparator with
  | none => exact .refl _
  | some comparator => exact List.mergeSort_perm _ _

section DeclaredOrder

variable (declared : factory.comparator = some .declaredOrder)
  (holders : List BeanDefinitionHolder)
include declared

/-- By declared order the beans are sorted. -/
theorem inOrder_eq_mergeSort :
    factory.inOrder holders = holders.mergeSort BeanDefinitionHolder.atMost := by
  unfold inOrder
  rw [declared]
  rfl

/-- By declared order no bean stands behind one of a greater order. -/
theorem inOrder_pairwise :
    (factory.inOrder holders).Pairwise fun first second =>
      first.definition.order ≤ second.definition.order := by
  rw [inOrder_eq_mergeSort declared]
  refine (List.pairwise_mergeSort ?_ BeanDefinitionHolder.atMost_total holders).imp ?_
  · exact fun _ _ _ => BeanDefinitionHolder.atMost_trans
  · exact BeanDefinitionHolder.atMost_iff.mp

/-- What is in order already stays as it is. -/
theorem sublist_inOrder {part : List BeanDefinitionHolder}
    (inside : part.Sublist holders)
    (sorted : part.Pairwise fun first second =>
      first.definition.order ≤ second.definition.order) :
    part.Sublist (factory.inOrder holders) := by
  rw [inOrder_eq_mergeSort declared]
  refine List.sublist_mergeSort ?_ BeanDefinitionHolder.atMost_total ?_ inside
  · exact fun _ _ _ => BeanDefinitionHolder.atMost_trans
  · exact sorted.imp BeanDefinitionHolder.atMost_iff.mpr

/-- Sorting moves a bean past beans of other orders only. -/
theorem filter_inOrder (number : Int64) :
    (factory.inOrder holders).filter (fun holder => holder.definition.order == number) =
      holders.filter fun holder => holder.definition.order == number := by
  have level : (holders.filter fun holder => holder.definition.order == number).Pairwise
      fun first second => first.definition.order ≤ second.definition.order := by
    refine List.pairwise_of_forall_mem_list fun first member second otherMember => ?_
    have here := beq_iff_eq.mp (List.mem_filter.mp member).2
    have there := beq_iff_eq.mp (List.mem_filter.mp otherMember).2
    rw [here, there]
    exact Int64.le_refl number
  have kept := (sublist_inOrder declared holders List.filter_sublist level).filter
    fun holder => holder.definition.order == number
  rw [List.filter_filter] at kept
  simp only [Bool.and_self] at kept
  -- The beans of this order are kept as they are, and nothing else of this order is there.
  have sameLength := ((factory.inOrder_perm holders).filter
    fun holder => holder.definition.order == number).length_eq
  exact (kept.eq_of_length sameLength.symm).symm

end DeclaredOrder

/-! What is offered. -/

/-- The beans that fit the dependency, in registration order. -/
def fitting (factory : BeanFactory) (dependency : DependencyDescriptor) :
    List BeanDefinitionHolder :=
  factory.holders.filter fun holder =>
    dependency.acceptsType holder.definition && factory.resolver.accepts holder dependency

/-- The candidates are the fitting beans, put in order. -/
theorem candidates_eq (factory : BeanFactory) (dependency : DependencyDescriptor) :
    factory.candidates dependency = factory.inOrder (factory.fitting dependency) := rfl

/-- The fitting beans stand in registration order, none of them twice. -/
theorem map_beanName_fitting (separate : factory.registry.Separate)
    (reachable : factory.registry.Reachable) (dependency : DependencyDescriptor) :
    ((factory.fitting dependency).map fun holder => holder.beanName).Sublist
      factory.registry.names := by
  rw [← map_beanName_holders separate reachable]
  exact List.filter_sublist.map _

/-- A dependency is offered each bean that has the type it asks for and that the resolver accepts,
and no other. Each of them comes once, with its own definition and with every alias that leads to
it. Without a comparator the beans come in registration order, and in declared order those of one
order still do. -/
theorem candidates_decided (factory : BeanFactory) (dependency : DependencyDescriptor)
    (reachable : factory.registry.Reachable) (separate : factory.registry.Separate) :
    let registry := factory.registry
    let found := factory.candidates dependency
    let beanNames (holders : List BeanDefinitionHolder) := holders.map fun holder => holder.beanName
    (∀ holder, holder ∈ found ↔
        registry.Presents holder ∧ dependency.FitsType holder.definition.beanClassName ∧
          factory.resolver.accepts holder dependency = true) ∧
      (beanNames found).Nodup ∧
      (∀ holder ∈ found, holder.aliases.Nodup ∧ ∀ aliasName, aliasName ∈ holder.aliases ↔
        AliasMap.Reaches registry.aliases aliasName holder.beanName) ∧
      (factory.comparator = none → (beanNames found).Sublist registry.names) ∧
      (factory.comparator = some .declaredOrder →
        (found.Pairwise fun first second => first.definition.order ≤ second.definition.order) ∧
          ∀ number, (beanNames (found.filter fun holder =>
            holder.definition.order == number)).Sublist registry.names) := by
  intro registry found beanNames
  have acyclic := reachable.acyclic
  have members (holder : BeanDefinitionHolder) : holder ∈ found ↔
      registry.Presents holder ∧ dependency.FitsType holder.definition.beanClassName ∧
        factory.resolver.accepts holder dependency = true := by
    rw [mem_candidates_iff, ← separate.presents_iff reachable, Admits, dependency.acceptsType_iff]
  have listed := map_beanName_fitting separate reachable dependency
  have foundEq : found = factory.inOrder (factory.fitting dependency) :=
    factory.candidates_eq dependency
  refine ⟨members, ?_, ?_, fun absent => ?_, fun declared => ⟨?_, fun number => ?_⟩⟩
  · have permuted := (factory.inOrder_perm (factory.fitting dependency)).map
      fun holder => holder.beanName
    rw [foundEq]
    exact permuted.nodup_iff.mpr (reachable.inStep.nodup.sublist listed)
  · intro holder candidate
    rw [((members holder).mp candidate).1.aliases]
    exact ⟨acyclic.nodup_aliasesOf _, fun _ => acyclic.mem_aliasesOf_iff⟩
  · rw [foundEq, inOrder, absent]
    exact listed
  · rw [foundEq]
    exact inOrder_pairwise declared _
  · rw [foundEq, filter_inOrder declared]
    exact (List.filter_sublist.map _).trans listed

/-- A bean of the class that declares the order. -/
def placed (className : String) (number : Int64) : BeanDefinition :=
  .ofMetadata { className, annotations := .ofDescriptors [.order number] }

/-- The desk is registered later and declares the smaller order. The basket stands for the cart, and
the bag for the basket. -/
def orderedShop : BeanFactory :=
  { installAnnotationSupport .empty with
    registry := Registry.empty.run [.register "cart" (placed "shop.Cart" 2),
      .register "desk" (placed "shop.Desk" 1), .registerAlias "cart" "basket",
      .registerAlias "basket" "bag"] }

/-- The bag is among the aliases of the cart, although it is bound to the basket. -/
theorem cart_offered_with_bag :
    orderedShop.registry.Reachable ∧ orderedShop.registry.Separate ∧
      let found := orderedShop.candidates {}
      (∃ holder ∈ found, holder.beanName = "cart" ∧ "bag" ∈ holder.aliases) ∧
        found.Pairwise fun first second => first.definition.order ≤ second.definition.order := by
  have reachable : orderedShop.registry.Reachable := ⟨_, rfl⟩
  have unaliased : ∀ name ∈ orderedShop.registry.definitions.keys,
      orderedShop.registry.isAlias name = false := by
    decide +kernel
  have separate : orderedShop.registry.Separate := fun name known =>
    unaliased name ((SortedMap.mem_keys_iff _ _).mpr known)
  obtain ⟨members, _, complete, _, ordered⟩ :=
    candidates_decided orderedShop {} reachable separate
  have candidate :=
    (members ⟨placed "shop.Cart" 2, "cart", orderedShop.registry.aliasesOf "cart"⟩).mpr
      ⟨⟨by decide +kernel, by rfl, rfl⟩, nofun, by decide +kernel⟩
  have toBasket : orderedShop.registry.aliases.get? "bag" = some "basket" := by decide +kernel
  have toCart : orderedShop.registry.aliases.get? "basket" = some "cart" := by decide +kernel
  have path : AliasMap.Reaches orderedShop.registry.aliases "bag" "cart" :=
    .trans toBasket (.step toCart)
  exact ⟨reachable, separate, ⟨_, candidate, rfl, ((complete _ candidate).2 "bag").mpr path⟩,
    (ordered rfl).1⟩

end BeanFactory

end BeanContainer
