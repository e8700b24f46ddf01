/-
This file shows that the check for cycles is exact. A new binding of an alias is refused just if it
would close a cycle, also where it takes the place of an older binding that the check still sees.
-/

import BeanContainer.Proofs.Registry.AliasForest

namespace BeanContainer.AliasMap

variable {aliases : AliasMap} {name aliasName : String}

/-- A walk ends where it starts, or else it takes a path. -/
theorem follow_eq_self_or_reaches (steps : Nat) (name : String) :
    aliases.follow steps name = name ∨ Reaches aliases name (aliases.follow steps name) := by
  induction steps generalizing name with
  | zero => exact Or.inl rfl
  | succ steps inductionHypothesis =>
      rw [follow]
      cases bound : aliases.get? name with
      | none => exact Or.inl rfl
      | some target =>
          rcases inductionHypothesis target with stays | further
          · right
            dsimp only
            rw [stays]
            exact .step bound
          · exact Or.inr (.trans bound further)

/-- A name leads to its canonical name, unless it is that name. -/
theorem reaches_of_canonicalName (different : aliasName ≠ name)
    (ended : aliases.canonicalName name = aliasName) : Reaches aliases name aliasName := by
  rcases follow_eq_self_or_reaches aliases.size name with stays | path
  · exact absurd (ended.symm.trans stays) different
  · exact ended ▸ path

/-- A path without a cycle passes its last name only at its end, so what this name is bound to does
not matter. -/
theorem Acyclic.reaches_insert (acyclic : aliases.Acyclic) {first last : String}
    (path : Reaches aliases first last) (target : String) :
    Reaches (SortedMap.insert aliases last target) first last := by
  induction path with
  | @step first last bound =>
      have before : first ≠ last := by
        rintro rfl
        exact acyclic _ (.step bound)
      refine .step ?_
      rw [SortedMap.get?_insert, if_neg before]
      exact bound
  | @trans first next last bound rest inductionHypothesis =>
      have before : first ≠ last := by
        rintro rfl
        exact acyclic _ (.trans bound rest)
      refine .trans ?_ inductionHypothesis
      rw [SortedMap.get?_insert, if_neg before]
      exact bound

/-- Whatever the alias was bound to before, its new binding closes a cycle just if the new target
leads to the alias already. -/
theorem Acyclic.acyclic_insert_iff (acyclic : aliases.Acyclic) (different : aliasName ≠ name) :
    Acyclic (SortedMap.insert aliases aliasName name) ↔ ¬ Reaches aliases name aliasName := by
  constructor
  · intro stillAcyclic path
    have bound : (SortedMap.insert aliases aliasName name).get? aliasName = some name := by
      rw [SortedMap.get?_insert, if_pos rfl]
    exact stillAcyclic aliasName (.trans bound (acyclic.reaches_insert path name))
  · exact acyclic.insert different

end BeanContainer.AliasMap

namespace BeanContainer.Registry

open AliasMap

variable {registry : Registry} {name aliasName : String}

/-- The search downwards finds every path, and the walk upwards finds no others. -/
theorem closesCycle_iff (acyclic : registry.aliases.Acyclic) (different : aliasName ≠ name) :
    registry.closesCycle name aliasName = true ↔ Reaches registry.aliases name aliasName := by
  rw [closesCycle, Bool.or_eq_true, beq_iff_eq, acyclic.leadsTo_iff]
  constructor
  · rintro (path | ended)
    · exact path
    · exact reaches_of_canonicalName different ended
  · exact Or.inl

/-- An alias that may be bound to the name is refused for a cycle only. -/
theorem aliasFault?_of_permitted (named : Text.isBlank name = false)
    (aliased : Text.isBlank aliasName = false) (different : aliasName ≠ name)
    (unsettled : registry.aliases.get? aliasName ≠ some name)
    (permitted : registry.aliases.get? aliasName = none ∨ registry.allowOverriding = true) :
    registry.aliasFault? name aliasName =
      if registry.closesCycle name aliasName then
        some (.invalidBeanName (.aliasCycle aliasName name))
      else none := by
  unfold aliasFault?
  rw [if_neg (by simp [named, aliased]), if_neg (by simp [different, unsettled])]
  rcases permitted with unbound | allowed
  · rw [unbound]
  · rw [allowed]
    cases registry.aliases.get? aliasName <;> rfl

/-- Without permission an alias of another name is refused for what it is bound to. -/
theorem aliasFault?_of_bound (named : Text.isBlank name = false)
    (aliased : Text.isBlank aliasName = false) (different : aliasName ≠ name) {existing : String}
    (bound : registry.aliases.get? aliasName = some existing) (other : existing ≠ name)
    (fixedNames : registry.allowOverriding = false) :
    registry.aliasFault? name aliasName = some (.aliasConflict aliasName name existing) := by
  have unsettled : registry.aliases.get? aliasName ≠ some name := by simp [bound, other]
  unfold aliasFault?
  rw [if_neg (by simp [named, aliased]), if_neg (by simp [different, unsettled]), bound,
    fixedNames]

/-- Two solid and different names are bound to each other unless the new target leads to the alias
already, which is just when the binding would close a cycle. Without the permission to bind an alias
anew its old binding is reported, whether there is a cycle or not. -/
theorem registerAlias_decided (reachable : registry.Reachable)
    (named : Text.isBlank name = false) (aliased : Text.isBlank aliasName = false)
    (different : aliasName ≠ name) :
    (registry.aliases.get? aliasName ≠ some name →
      registry.aliases.get? aliasName = none ∨ registry.allowOverriding = true →
        ((registerAlias name aliasName).run registry =
            .error (.invalidBeanName (.aliasCycle aliasName name)) registry ↔
          Reaches registry.aliases name aliasName) ∧
        (¬ Reaches registry.aliases name aliasName →
          (registerAlias name aliasName).run registry =
            .ok () { registry with aliases := registry.aliases.insert aliasName name }) ∧
        (Reaches registry.aliases name aliasName ↔
          ¬ Acyclic (registry.aliases.insert aliasName name))) ∧
      ∀ existing, registry.aliases.get? aliasName = some existing → existing ≠ name →
        registry.allowOverriding = false →
          (registerAlias name aliasName).run registry =
            .error (.aliasConflict aliasName name existing) registry := by
  have acyclic := reachable.acyclic
  refine ⟨fun unsettled permitted => ?_, fun existing bound other fixedNames => ?_⟩
  · have check := closesCycle_iff acyclic different
    have closes : Reaches registry.aliases name aliasName ↔
        ¬ Acyclic (registry.aliases.insert aliasName name) := by
      rw [acyclic.acyclic_insert_iff different, not_not]
    rw [registerAlias_run,
      aliasFault?_of_permitted named aliased different unsettled permitted]
    cases round : registry.closesCycle name aliasName with
    | true =>
        have path := check.mp round
        exact ⟨iff_of_true rfl path, absurd path, closes⟩
    | false =>
        have noPath : ¬ Reaches registry.aliases name aliasName := by simp [← check, round]
        refine ⟨iff_of_false nofun noPath, fun _ => ?_, closes⟩
        simp [connect, different]
  · rw [registerAlias_run, aliasFault?_of_bound named aliased different bound other fixedNames]

/-- The alias is bound already, and the new target leads to it. The check finds the cycle although
the old binding is still there, and without the permission it is the old binding that is reported. -/
theorem basket_not_bound_to_trolley :
    let requests : List Request := [.registerAlias "cart" "basket", .registerAlias "basket" "trolley"]
    let fixed := Registry.empty.run requests
    let permissive := Registry.empty.run (requests ++ [.setAllowOverriding true])
    (Text.isBlank "trolley" = false ∧ Text.isBlank "basket" = false ∧ "basket" ≠ "trolley") ∧
      (permissive.Reachable ∧ permissive.aliases.get? "basket" ≠ some "trolley" ∧
        permissive.allowOverriding = true ∧
        (registerAlias "trolley" "basket").run permissive =
          .error (.invalidBeanName (.aliasCycle "basket" "trolley")) permissive) ∧
      fixed.Reachable ∧ fixed.aliases.get? "basket" = some "cart" ∧ fixed.allowOverriding = false ∧
        (registerAlias "trolley" "basket").run fixed =
          .error (.aliasConflict "basket" "trolley" "cart") fixed := by
  intro requests fixed permissive
  have named : Text.isBlank "trolley" = false := by decide +kernel
  have aliased : Text.isBlank "basket" = false := by decide +kernel
  have different : "basket" ≠ "trolley" := by decide
  have begun : permissive.Reachable := ⟨_, rfl⟩
  have unsettled : permissive.aliases.get? "basket" ≠ some "trolley" := by decide +kernel
  have allowed : permissive.allowOverriding = true := by decide +kernel
  have path : Reaches permissive.aliases "trolley" "basket" := .step (by decide +kernel)
  have fixedBegun : fixed.Reachable := ⟨requests, rfl⟩
  have bound : fixed.aliases.get? "basket" = some "cart" := by decide +kernel
  have fixedNames : fixed.allowOverriding = false := by decide +kernel
  refine ⟨⟨named, aliased, different⟩, ⟨begun, unsettled, allowed, ?_⟩, fixedBegun, bound,
    fixedNames, ?_⟩
  · have decided := (registerAlias_decided begun named aliased different).1
    exact (decided unsettled (Or.inr allowed)).1.mpr path
  · have decided := (registerAlias_decided fixedBegun named aliased different).2
    exact decided "cart" bound (by decide) fixedNames

end BeanContainer.Registry
