/-
This file shows that the two directions of alias resolution agree. The walk up from a name ends at
just that name without a binding whose alias list holds the name.
-/

import BeanContainer.Proofs.Registry.AliasLists
import BeanContainer.Proofs.Registry.CycleCheck
import BeanContainer.Proofs.Registry.SharedNames

namespace BeanContainer.AliasMap

variable {aliases : AliasMap} {name other aliasName target : String}

/-- One binding does not change where a walk ends. -/
theorem Acyclic.canonicalName_of_bound (acyclic : aliases.Acyclic)
    (bound : aliases.get? aliasName = some target) :
    aliases.canonicalName aliasName = aliases.canonicalName target := by
  have here := acyclic.walk_eq (Nat.lt_add_of_pos_right (Nat.succ_pos 1)) aliasName
  have there := acyclic.walk_eq (Nat.lt_succ_self aliases.size) target
  rw [walk, bound] at here
  exact Option.some.inj (here.symm.trans there)

/-- Names along a path have one canonical name. -/
theorem Acyclic.canonicalName_of_reaches (acyclic : aliases.Acyclic)
    (path : Reaches aliases other name) :
    aliases.canonicalName other = aliases.canonicalName name := by
  induction path with
  | step bound => exact acyclic.canonicalName_of_bound bound
  | trans bound _ inductionHypothesis =>
      exact (acyclic.canonicalName_of_bound bound).trans inductionHypothesis

/-- A walk ends at a name without a binding, and every walk that comes by such a name ends there. -/
theorem Acyclic.canonicalName_eq_iff (acyclic : aliases.Acyclic) :
    aliases.canonicalName other = name ↔
      aliases.get? name = none ∧ (other = name ∨ Reaches aliases other name) := by
  constructor
  · rintro rfl
    exact ⟨acyclic.get?_canonicalName other,
      (follow_eq_self_or_reaches aliases.size other).imp_left Eq.symm⟩
  · rintro ⟨unbound, rfl | path⟩
    · exact canonicalName_eq_self unbound
    · exact (acyclic.canonicalName_of_reaches path).trans (canonicalName_eq_self unbound)

end BeanContainer.AliasMap

namespace BeanContainer.Registry

open AliasMap

/-- After every run of requests the alias list of a name holds just the names from which bindings
lead to it, each of them once and never the name itself. A name is what others stand for just if it
is no alias, and then it stands for itself and for the names of its alias list. -/
theorem run_directions_agree (requests : List Request) :
    let registry := Registry.empty.run requests
    ∀ name,
      (∀ other, other ∈ registry.aliasesOf name ↔ Reaches registry.aliases other name) ∧
        (registry.aliasesOf name).Nodup ∧ name ∉ registry.aliasesOf name ∧
        ∀ other, registry.canonicalName other = name ↔
          registry.isAlias name = false ∧ (other = name ∨ other ∈ registry.aliasesOf name) := by
  intro registry name
  have acyclic : registry.aliases.Acyclic := Reachable.acyclic ⟨requests, rfl⟩
  have members (other : String) :
      other ∈ registry.aliasesOf name ↔ Reaches registry.aliases other name :=
    acyclic.mem_aliasesOf_iff
  refine ⟨members, acyclic.nodup_aliasesOf name, ?_, fun other => ?_⟩
  · rw [members]
    exact acyclic name
  · rw [members, ← canonicalName_eq_self_iff acyclic, canonicalName, canonicalName,
      acyclic.canonicalName_eq_iff, acyclic.canonicalName_eq_iff]
    simp [acyclic name]

example : (Registry.empty.run [.registerAlias "basket" "bag", .registerAlias "cart" "basket",
    .registerAlias "cart" "trolley"]).aliasesOf "cart" = ["basket", "bag", "trolley"] := by
  decide +kernel

end BeanContainer.Registry
