/-
This file compares a run of bean methods with one in which some of them come up again. What comes up
again is skipped or refused, so the longer run leads to the same registry or nowhere.
-/

import BeanContainer.Proofs.Registration.Overloads
import BeanContainer.Proofs.Registration.RepeatedClasses

namespace BeanContainer

open Relation

/-! Lists in which items come up again. -/

/-- The second list has the items of the first one, and between them those of the third one, each of
which has come up before or is seen already. -/
inductive Repeats {Item : Type} : List Item → List Item → List Item → List Item → Prop where
  | nil (seen : List Item) : Repeats seen [] [] []
  | keep {seen items longer repeated : List Item} (item : Item)
      (rest : Repeats (item :: seen) items longer repeated) :
      Repeats seen (item :: items) (item :: longer) repeated
  | again {seen items longer repeated : List Item} {item : Item} (member : item ∈ seen)
      (rest : Repeats seen items longer repeated) :
      Repeats seen items (item :: longer) (item :: repeated)

namespace Repeats

variable {Item : Type} {seen items longer repeated : List Item}

/-- What counts as a repetition still does where more has been seen. -/
theorem mono {more : List Item} (repeats : Repeats seen items longer repeated)
    (within : seen ⊆ more) : Repeats more items longer repeated := by
  induction repeats generalizing more with
  | nil seen => exact .nil more
  | keep item _ inductionHypothesis =>
      exact .keep item (inductionHypothesis (List.cons_subset_cons item within))
  | again member _ inductionHypothesis => exact .again (within member) (inductionHypothesis within)

/-- A list is the longer list of itself without repetitions. -/
theorem refl (seen items : List Item) : Repeats seen items items [] := by
  induction items generalizing seen with
  | nil => exact .nil seen
  | cons item rest inductionHypothesis => exact .keep item (inductionHypothesis (item :: seen))

/-- A list of items that have been seen is nothing but repetitions. -/
theorem of_subset (within : items ⊆ seen) : Repeats seen [] items items := by
  induction items with
  | nil => exact .nil seen
  | cons item rest inductionHypothesis =>
      obtain ⟨here, later⟩ := List.cons_subset.mp within
      exact .again here (inductionHypothesis later)

/-- Whatever comes up again is seen already or among the items. -/
theorem repeated_subset (repeats : Repeats seen items longer repeated) :
    repeated ⊆ items ++ seen := by
  induction repeats with
  | nil seen => exact List.nil_subset _
  | keep item _ inductionHypothesis =>
      intro other member
      have listed := inductionHypothesis member
      simp only [List.cons_append, List.mem_cons, List.mem_append] at listed ⊢
      exact or_left_comm.mp listed
  | again member _ inductionHypothesis =>
      exact List.cons_subset.mpr ⟨List.mem_append_right _ member, inductionHypothesis⟩

/-- Longer lists can be put behind one another, where the second one may repeat the first. -/
theorem append {laterItems laterLonger laterRepeated : List Item}
    (repeats : Repeats seen items longer repeated)
    (later : Repeats (items ++ seen) laterItems laterLonger laterRepeated) :
    Repeats seen (items ++ laterItems) (longer ++ laterLonger) (repeated ++ laterRepeated) := by
  induction repeats with
  | nil seen => exact later
  | keep item _ inductionHypothesis =>
      refine .keep item (inductionHypothesis (later.mono ?_))
      intro other member
      simp only [List.cons_append, List.mem_cons, List.mem_append] at member ⊢
      exact or_left_comm.mp member
  | again member _ inductionHypothesis => exact .again member (inductionHypothesis later)

end Repeats

/-! Products and proxies. -/

/-- What is made by a method is no proxy. -/
def Registry.ProductsUnproxied (registry : Registry) : Prop :=
  ∀ name definition methodName, registry.definition? name = some definition →
    definition.factoryMethodName = some methodName → definition.proxyTarget? = none

/-- Placed beans leave no proxy among the products. -/
theorem Registry.ProductsUnproxied.of_placements {allowOverriding : Bool} {last : Registry}
    (placements : ReflTransGen (Placement fun definition => definition.proxyTarget? = none)
      (.empty allowOverriding) last) : last.ProductsUnproxied := by
  intro name definition methodName known byMethod
  obtain before | plain | ⟨target, plain, rfl⟩ | ⟨target, beanName, byClass, rfl⟩ :=
    Placement.added placements known
  · contradiction
  · exact plain
  · exact plain
  · contradiction

/-! Methods that come up again. -/

namespace BeanMethod

variable {scopes : ScopeResolver} {entry : ConfigurationClass × BeanMethod}
  {registry left last : Registry} {product : Option BeanDefinitionHolder}

/-- The method has been registered already, where no name may be bound anew. -/
def Settled (scopes : ScopeResolver) (entry : ConfigurationClass × BeanMethod)
    (registry : Registry) : Prop :=
  ∃ first product left, first.allowOverriding = false ∧
    (entry.2.register scopes entry.1).run first = .ok product left ∧ left.Extends registry

/-- A method that succeeded is settled. -/
theorem settled_of_ok (fixedNames : registry.allowOverriding = false)
    (done : (entry.2.register scopes entry.1).run registry = .ok product left) :
    Settled scopes entry left :=
  ⟨registry, product, left, fixedNames, done, (register_extends done fixedNames).fixedNames, id⟩

/-- A settled method stays settled in every extension. -/
theorem Settled.extends (settled : Settled scopes entry registry)
    (further : registry.Extends last) : Settled scopes entry last := by
  obtain ⟨first, product, left, fixedNames, done, begun⟩ := settled
  exact ⟨first, product, left, fixedNames, done, begun.trans further⟩

/-- A method is settled only where no name may be bound anew. -/
theorem Settled.fixedNames (settled : Settled scopes entry registry) :
    registry.allowOverriding = false := by
  obtain ⟨_, _, _, _, _, begun⟩ := settled
  exact begun.fixedNames

/-- After a successful run all its methods are settled. -/
theorem settled_of_registerAll {methods : List (ConfigurationClass × BeanMethod)}
    {products : List (Option BeanDefinitionHolder)}
    (fixedNames : registry.allowOverriding = false)
    (done : (registerAll scopes methods).run registry = .ok products last) :
    ∀ entry ∈ methods, Settled scopes entry last := by
  unfold registerAll at done
  induction methods generalizing registry products with
  | nil => exact List.forall_mem_nil _
  | cons entry rest inductionHypothesis =>
      obtain ⟨product, middle, later, begun, ended, rfl⟩ := run_mapM_cons_eq_ok_iff.mp done
      have fixedBetween := (register_extends begun fixedNames).fixedNames
      exact List.forall_mem_cons.mpr
        ⟨(settled_of_ok fixedNames begun).extends (registerAll_extends ended fixedBetween),
          inductionHypothesis fixedBetween ended⟩

/-- A method without a direct marker and an overload stay so, and the bean of any other method can
still be found. -/
theorem Settled.skipped_or_made (settled : Settled scopes entry registry) :
    (∀ {last : Registry}, registry.Extends last →
        (entry.2.register scopes entry.1).run last = .ok none last) ∨
      ∃ holder : BeanDefinitionHolder, entry.2.DerivesName holder.beanName ∧
        registry.definition? holder.beanName = some holder.definition ∧
        ∀ {last : Registry}, registry.Extends last →
          ((entry.2.register scopes entry.1).run last = .ok none last ↔
            holder.definition.proxyTarget? = none) := by
  obtain ⟨first, product, left, fixedNames, done, begun⟩ := settled
  cases product with
  | none =>
      obtain ⟨rfl, _⟩ := register_eq_none_iff.mp done
      exact Or.inl fun further => register_none_of_extends done (begun.trans further)
  | some holder =>
      obtain ⟨derives, known⟩ := register_made done
      have stillKnown := begun.definition? known
      exact Or.inr ⟨holder, derives, stillKnown, fun further =>
        register_again_iff done (further.definition? stillKnown) rfl derives⟩

/-- Whether a settled method is skipped does not change in an extension. -/
theorem Settled.skipped_iff (settled : Settled scopes entry registry)
    (further : registry.Extends last) :
    (entry.2.register scopes entry.1).run last = .ok none last ↔
      (entry.2.register scopes entry.1).run registry = .ok none registry := by
  have unchanged : registry.Extends registry := ⟨settled.fixedNames, id⟩
  obtain skipped | ⟨holder, _, _, skipped⟩ := settled.skipped_or_made
  · exact iff_of_true (skipped further) (skipped unchanged)
  · rw [skipped further, skipped unchanged]

/-- The method is skipped from then on unless the bean of that name is behind a proxy. -/
theorem Settled.skipped_iff_unproxied (settled : Settled scopes entry registry)
    (unproxied : registry.ProductsUnproxied) :
    (entry.2.register scopes entry.1).run registry = .ok none registry ↔
      ∀ beanName definition, entry.2.DerivesName beanName →
        registry.definition? beanName = some definition → definition.proxyTarget? = none := by
  constructor
  · intro skipped beanName definition derives known
    obtain ⟨_, unmarked | ⟨other, otherwise, overridden⟩⟩ := register_eq_none_iff.mp skipped
    · obtain ⟨attributes, _, marked, _⟩ := derives
      rw [unmarked] at marked
      contradiction
    · obtain rfl := derives.unique otherwise
      obtain ⟨product, present, byMethod⟩ := exists_of_isOverridden overridden
      obtain rfl := Option.some.inj (known.symm.trans present)
      exact unproxied other definition _ known byMethod
  · intro plain
    have unchanged : registry.Extends registry := ⟨settled.fixedNames, id⟩
    obtain skipped | ⟨holder, derives, known, skipped⟩ := settled.skipped_or_made
    · exact skipped unchanged
    · exact (skipped unchanged).mpr (plain _ _ derives known)

/-- The method makes no second bean, for the name of the first one is taken. -/
theorem Settled.eq_none (settled : Settled scopes entry registry)
    (done : (entry.2.register scopes entry.1).run registry = .ok product left) :
    product = none ∧ left = registry := by
  cases product with
  | none => exact ⟨rfl, (register_eq_none_iff.mp done).1⟩
  | some again =>
      exfalso
      obtain ⟨first, product, middle, fixedNames, before, begun⟩ := settled
      cases product with
      | none =>
          obtain ⟨rfl, _⟩ := register_eq_none_iff.mp before
          rw [register_none_of_extends before begun] at done
          cases done
      | some holder =>
          obtain ⟨_, plain, _, derives, _, registered⟩ := register_eq_some before
          obtain ⟨_, other, _, otherwise, _, registeredAgain⟩ := register_eq_some done
          exact Registry.registerScoped_once registered begun (derives.unique otherwise)
            registeredAgain

/-- Of two runs the longer one, in which methods come up again, leads to the same registry as the
shorter one if all that comes up again is skipped there. Otherwise it is refused. -/
theorem registerAll_repeats_iff
    {methods longer repeated seen : List (ConfigurationClass × BeanMethod)}
    (repeats : Repeats seen methods longer repeated)
    (fixedNames : registry.allowOverriding = false)
    (settled : ∀ entry ∈ seen, Settled scopes entry registry) :
    (∃ products, (registerAll scopes longer).run registry = .ok products last) ↔
      (∃ products, (registerAll scopes methods).run registry = .ok products last) ∧
        ∀ entry ∈ repeated, (entry.2.register scopes entry.1).run last = .ok none last := by
  induction repeats generalizing registry with
  | nil seen => exact (and_iff_left (List.forall_mem_nil _)).symm
  | @keep seen methods longer repeated entry rest inductionHypothesis =>
      have onwards {product : Option BeanDefinitionHolder} {middle : Registry}
          (begun : (entry.2.register scopes entry.1).run registry = .ok product middle) :=
        inductionHypothesis (register_extends begun fixedNames).fixedNames
          (List.forall_mem_cons.mpr ⟨settled_of_ok fixedNames begun, fun other member =>
            (settled other member).extends (register_extends begun fixedNames)⟩)
      constructor
      · rintro ⟨_, done⟩
        obtain ⟨product, middle, later, begun, ended, rfl⟩ := run_mapM_cons_eq_ok_iff.mp done
        obtain ⟨⟨products, likewise⟩, skipped⟩ := (onwards begun).mp ⟨later, ended⟩
        exact ⟨⟨_, run_mapM_cons_eq_ok_iff.mpr ⟨product, middle, products, begun, likewise, rfl⟩⟩,
          skipped⟩
      · rintro ⟨⟨_, done⟩, skipped⟩
        obtain ⟨product, middle, later, begun, ended, rfl⟩ := run_mapM_cons_eq_ok_iff.mp done
        obtain ⟨products, likewise⟩ := (onwards begun).mpr ⟨⟨later, ended⟩, skipped⟩
        exact ⟨_, run_mapM_cons_eq_ok_iff.mpr ⟨product, middle, products, begun, likewise, rfl⟩⟩
  | @again seen methods longer repeated entry member rest inductionHypothesis =>
      have onwards := inductionHypothesis fixedNames settled
      have here := settled entry member
      rw [List.forall_mem_cons]
      constructor
      · rintro ⟨_, done⟩
        obtain ⟨product, middle, later, begun, ended, rfl⟩ := run_mapM_cons_eq_ok_iff.mp done
        obtain ⟨rfl, rfl⟩ := here.eq_none begun
        obtain ⟨⟨products, likewise⟩, skipped⟩ := onwards.mp ⟨later, ended⟩
        have further := registerAll_extends likewise fixedNames
        exact ⟨⟨products, likewise⟩, register_none_of_extends begun further, skipped⟩
      · rintro ⟨⟨products, done⟩, skippedHere, skipped⟩
        obtain ⟨later, ended⟩ := onwards.mpr ⟨⟨products, done⟩, skipped⟩
        -- What is skipped at the end has been skipped here already.
        have begun := (here.skipped_iff (registerAll_extends done fixedNames)).mp skippedHere
        exact ⟨_, run_mapM_cons_eq_ok_iff.mpr ⟨none, registry, later, begun, ended, rfl⟩⟩

end BeanMethod

end BeanContainer
