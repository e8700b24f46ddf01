/-
This file compares registries that hold the same and differ in the order of their names only. Two
beans without aliases may change places: where no name may be bound anew, each of them is accepted
after the other just if it is accepted before.
-/

import BeanContainer.Proofs.Registration.Additions
import BeanContainer.Proofs.Registration.ScopedTwins
import BeanContainer.Proofs.Registration.Simulation

namespace BeanContainer.Registry

open ScopedProxy

/-- The second registry has the names of the first one in any order and is otherwise the same. -/
structure Reordered (first second : Registry) : Prop where
  definitions : second.definitions = first.definitions
  names : second.names.Perm first.names
  aliases : second.aliases = first.aliases
  allowOverriding : second.allowOverriding = first.allowOverriding

namespace Reordered

variable {first second third : Registry}

/-- A registry is a reordering of itself. -/
theorem refl (registry : Registry) : Reordered registry registry := ⟨rfl, .refl _, rfl, rfl⟩

/-- A reordering of a reordering is a reordering. -/
theorem trans (begun : Reordered first second) (ended : Reordered second third) :
    Reordered first third where
  definitions := ended.definitions.trans begun.definitions
  names := ended.names.trans begun.names
  aliases := ended.aliases.trans begun.aliases
  allowOverriding := ended.allowOverriding.trans begun.allowOverriding

/-- Reordered registries have the same definitions. -/
theorem definition?_eq (reordered : Reordered first second) (name : String) :
    second.definition? name = first.definition? name := by
  rw [definition?, definition?, reordered.definitions]

/-- Reordered registries refuse the same definitions. -/
theorem bindingFault?_eq (reordered : Reordered first second) (name : String) :
    second.bindingFault? name = first.bindingFault? name := by
  unfold bindingFault?
  rw [reordered.definition?_eq, reordered.aliases, reordered.allowOverriding]

/-- Reordered registries refuse the same aliases. -/
theorem aliasFault?_eq (reordered : Reordered first second) (name aliasName : String) :
    second.aliasFault? name aliasName = first.aliasFault? name aliasName := by
  unfold aliasFault? closesCycle canonicalName
  rw [reordered.aliases, reordered.allowOverriding]

/-- Reordered registries stay so when the same definition is bound in both. -/
theorem bind (reordered : Reordered first second) (name : String) (definition : BeanDefinition) :
    Reordered (first.bind name definition) (second.bind name definition) where
  definitions := congrArg (·.insert name definition) reordered.definitions
  names := by
    have sameContains : second.contains name = first.contains name := by
      rw [contains, contains, reordered.definition?_eq]
    unfold Registry.bind
    dsimp only
    rw [sameContains]
    split
    · exact reordered.names
    · exact reordered.names.append_right [name]
  aliases := congrArg (·.erase name) reordered.aliases
  allowOverriding := reordered.allowOverriding

/-- Reordered registries stay so when the same alias is connected in both. -/
theorem connect (reordered : Reordered first second) (name aliasName : String) :
    Reordered (first.connect name aliasName) (second.connect name aliasName) where
  definitions := reordered.definitions
  names := reordered.names
  aliases := by
    unfold Registry.connect
    rw [reordered.aliases]
  allowOverriding := reordered.allowOverriding

/-- No request of a start sees the order of the names. -/
theorem simulation : Simulation Reordered where
  definition?_eq reordered name := reordered.definition?_eq name
  register name definition := by
    intro first second left value reordered done
    rw [register_run] at done ⊢
    rw [reordered.bindingFault?_eq]
    cases fault : first.bindingFault? name with
    | some cause =>
        rw [fault] at done
        contradiction
    | none =>
        rw [fault] at done
        cases done
        exact ⟨_, rfl, reordered.bind name definition⟩
  registerAlias name aliasName := by
    intro first second left value reordered done
    rw [registerAlias_run] at done ⊢
    rw [reordered.aliasFault?_eq]
    cases fault : first.aliasFault? name aliasName with
    | some cause =>
        rw [fault] at done
        contradiction
    | none =>
        rw [fault] at done
        cases done
        exact ⟨_, rfl, reordered.connect name aliasName⟩

end Reordered

/-! Two beans without aliases. -/

section Beans

variable {first middle last : Registry} {bean : ScopedBean}

/-- A bean without aliases is accepted just if all names that it takes are free. -/
theorem registerScoped_succeeds_iff (unaliased : bean.holder.aliases = []) (registry : Registry) :
    (∃ left, (registerScoped bean.mode bean.holder).run registry =
        .ok (shown bean.mode bean.holder) left) ↔
      ∀ entry ∈ bean.entries, registry.bindingFault? entry.1 = none := by
  rw [registerScoped_run bean.mode bean.holder unaliased]
  unfold ScopedBean.entries ScopedBean.beanName shown
  by_cases plain : bean.mode = .no
  · cases fault : registry.bindingFault? bean.holder.beanName <;> simp [plain, fault]
  · cases targetFault : registry.bindingFault? (targetName bean.holder.beanName) <;>
      cases fault : registry.bindingFault? bean.holder.beanName <;>
      simp [plain, targetFault, fault]

/-- Where no name may be bound anew, an accepted definition releases no alias. -/
theorem aliases_bind_of_fixed {registry : Registry} {name : String}
    (fixedNames : registry.allowOverriding = false)
    (accepted : registry.bindingFault? name = none) (definition : BeanDefinition) :
    (registry.bind name definition).aliases = registry.aliases :=
  aliases_bind_of_free (isNameInUse_of_free fixedNames accepted) definition

/-- A bean without aliases keeps the aliases of the registry, with or without a proxy. -/
theorem aliases_registerScoped (unaliased : bean.holder.aliases = [])
    (fixedNames : first.allowOverriding = false) {visible : BeanDefinitionHolder}
    (done : (registerScoped bean.mode bean.holder).run first = .ok visible last) :
    last.aliases = first.aliases := by
  rw [registerScoped_run bean.mode bean.holder unaliased] at done
  split at done
  · split at done
    · contradiction
    · rename_i accepted
      cases done
      exact aliases_bind_of_fixed fixedNames accepted _
  · split at done
    · contradiction
    · rename_i targetAccepted
      dsimp only at done
      split at done
      · contradiction
      · rename_i accepted
        cases done
        rw [← bindingFault?_bind_of_ne first (ne_targetName bean.holder.beanName)] at accepted
        rw [aliases_bind_of_fixed _ accepted, aliases_bind_of_fixed fixedNames targetAccepted]
        exact fixedNames

/-- What has been added takes its names, and leaves all others as free as they were. -/
theorem Adds.bindingFault?_eq_none_iff {added : List (String × BeanDefinition)}
    (adds : Adds first added last) (fixedNames : first.allowOverriding = false)
    (sameAliases : last.aliases = first.aliases) (name : String) :
    last.bindingFault? name = none ↔
      first.bindingFault? name = none ∧ name ∉ added.map Prod.fst := by
  have sameAlias : last.isAlias name = first.isAlias name := by
    rw [isAlias, isAlias, sameAliases]
  have sameContains : last.contains name = false ↔
      first.contains name = false ∧ name ∉ added.map Prod.fst := by
    constructor
    · intro absent
      unfold contains at absent ⊢
      rw [Option.isSome_eq_false_iff, Option.isNone_iff_eq_none] at absent ⊢
      have unknown (definition : BeanDefinition) :
          ¬ (first.definition? name = some definition ∨ (name, definition) ∈ added) := by
        rw [← adds.definition?_eq_some_iff, absent]
        exact (Option.some_ne_none definition).symm
      constructor
      · exact Option.eq_none_iff_forall_ne_some.mpr fun definition known =>
          unknown definition (Or.inl known)
      · intro listed
        obtain ⟨entry, member, rfl⟩ := List.mem_map.mp listed
        exact unknown entry.2 (Or.inr member)
    · rintro ⟨absent, unlisted⟩
      exact adds.contains_eq_false absent unlisted
  rw [Registry.bindingFault?_eq_none_iff, Registry.bindingFault?_eq_none_iff, isNameInUse,
    isNameInUse, Bool.or_eq_false_iff, Bool.or_eq_false_iff, sameAlias, sameContains]
  simp only [adds.fixedNames, fixedNames, Bool.false_eq_true, false_or]
  tauto

/-- The order in which definitions are added does not show but in the order of the names. -/
theorem Adds.reordered {added others : List (String × BeanDefinition)} {otherLast : Registry}
    (adds : Adds first added last) (otherwise : Adds first others otherLast)
    (permuted : others.Perm added) (sameAliases : otherLast.aliases = last.aliases) :
    Reordered last otherLast where
  definitions := by
    apply SortedMap.ext_get?
    intro name
    apply Option.ext
    intro definition
    have here := adds.definition?_eq_some_iff name definition
    have there := otherwise.definition?_eq_some_iff name definition
    rw [permuted.mem_iff] at there
    exact there.trans here.symm
  names := by
    rw [adds.names, otherwise.names]
    exact (permuted.map Prod.fst).append_left first.names
  aliases := sameAliases
  allowOverriding := otherwise.fixedNames.trans adds.fixedNames.symm

/-- Two beans that are accepted one after the other are accepted in the other order as well. -/
theorem registerScoped_swap (bean other : ScopedBean) (fixedNames : first.allowOverriding = false)
    (unaliased : bean.holder.aliases = []) (otherUnaliased : other.holder.aliases = [])
    {visible otherVisible : BeanDefinitionHolder}
    (begun : (registerScoped bean.mode bean.holder).run first = .ok visible middle)
    (ended : (registerScoped other.mode other.holder).run middle = .ok otherVisible last) :
    ∃ between final, (registerScoped other.mode other.holder).run first = .ok otherVisible between ∧
      (registerScoped bean.mode bean.holder).run between = .ok visible final ∧
      Reordered last final := by
  have adds := registerScoped_adds fixedNames begun
  have further := registerScoped_adds adds.fixedNames ended
  have sameAliases := aliases_registerScoped unaliased fixedNames begun
  have stillSameAliases := aliases_registerScoped otherUnaliased adds.fixedNames ended
  obtain rfl := (registerScoped_ok begun).1
  obtain rfl := (registerScoped_ok ended).1
  have free := (registerScoped_succeeds_iff unaliased first).mp ⟨middle, begun⟩
  have otherFree (entry : String × BeanDefinition) (member : entry ∈ other.entries) :
      first.bindingFault? entry.1 = none ∧ entry.1 ∉ bean.entries.map Prod.fst := by
    rw [← adds.bindingFault?_eq_none_iff fixedNames sameAliases]
    exact (registerScoped_succeeds_iff otherUnaliased middle).mp ⟨last, ended⟩ entry member
  obtain ⟨between, begunOther⟩ := (registerScoped_succeeds_iff otherUnaliased first).mpr
    fun entry member => (otherFree entry member).1
  have addsOther := registerScoped_adds fixedNames begunOther
  have sameAliasesOther := aliases_registerScoped otherUnaliased fixedNames begunOther
  have stillFree : ∀ entry ∈ bean.entries, between.bindingFault? entry.1 = none := by
    intro entry member
    rw [addsOther.bindingFault?_eq_none_iff fixedNames sameAliasesOther]
    refine ⟨free entry member, fun taken => ?_⟩
    obtain ⟨taking, listed, same⟩ := List.mem_map.mp taken
    have apart := (otherFree taking listed).2
    rw [same] at apart
    exact apart (List.mem_map_of_mem member)
  obtain ⟨final, endedOther⟩ := (registerScoped_succeeds_iff unaliased between).mpr stillFree
  have furtherOther := registerScoped_adds addsOther.fixedNames endedOther
  have finalAliases := aliases_registerScoped unaliased addsOther.fixedNames endedOther
  refine ⟨between, final, begunOther, endedOther, ?_⟩
  apply (adds.trans further).reordered (addsOther.trans furtherOther) List.perm_append_comm
  rw [finalAliases, sameAliasesOther, stillSameAliases, sameAliases]

end Beans

end BeanContainer.Registry
