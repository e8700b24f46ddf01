/-
This file shows that the alias list of a name is complete. It holds every alias that leads to the
name, by however many bindings, and it holds each of them once.
-/

import BeanContainer.Proofs.Registry.AliasForest
import Mathlib.Data.List.Nodup

namespace BeanContainer.AliasMap

variable {aliases : AliasMap} {name aliasName : String}

/-- A binding to the name brings its alias, followed by the aliases of that alias. -/
theorem mem_group_iff {steps : Nat} {binding : String × String} :
    (aliasName ∈ if binding.2 == name then
        binding.1 :: aliases.aliasesWithin steps binding.1 else []) ↔
      binding.2 = name ∧
        (binding.1 = aliasName ∨ aliasName ∈ aliases.aliasesWithin steps binding.1) := by
  by_cases here : binding.2 = name
  · simp [here, @eq_comm _ aliasName]
  · simp [here]

/-- The list and the search take the same steps. -/
theorem mem_aliasesWithin_iff (steps : Nat) :
    aliasName ∈ aliases.aliasesWithin steps name ↔
      aliases.leadsToWithin name aliasName steps = true := by
  induction steps generalizing name with
  | zero => simp [aliasesWithin, leadsToWithin]
  | succ steps inductionHypothesis =>
      rw [aliasesWithin, leadsToWithin, List.mem_flatMap, List.any_eq_true]
      refine exists_congr fun binding => and_congr_right fun _ => ?_
      rw [mem_group_iff, inductionHypothesis, Bool.and_eq_true, Bool.or_eq_true, beq_iff_eq,
        beq_iff_eq]

/-- The alias list of a name holds what leads to the name and nothing else. -/
theorem Acyclic.mem_aliasesOf_iff (acyclic : aliases.Acyclic) :
    aliasName ∈ aliases.aliasesOf name ↔ Reaches aliases aliasName name := by
  rw [aliasesOf, mem_aliasesWithin_iff]
  exact acyclic.leadsTo_iff name aliasName

/-- A list that stops early holds fewer aliases, and no others. -/
theorem reaches_of_mem_aliasesWithin {steps : Nat}
    (member : aliasName ∈ aliases.aliasesWithin steps name) : Reaches aliases aliasName name := by
  induction steps generalizing name with
  | zero => exact absurd member List.not_mem_nil
  | succ steps inductionHypothesis =>
      rw [aliasesWithin, List.mem_flatMap] at member
      obtain ⟨binding, listed, member⟩ := member
      obtain ⟨rfl, found⟩ := mem_group_iff.mp member
      have bound := get?_of_mem listed
      rcases found with rfl | further
      · exact .step bound
      · exact (inductionHypothesis further).append (.step bound)

/-- A name has one binding at most, so two paths from it differ only in where they stop. -/
theorem Reaches.linear {start first second : String} (path : Reaches aliases start first)
    (other : Reaches aliases start second) :
    first = second ∨ Reaches aliases first second ∨ Reaches aliases second first := by
  induction path with
  | step bound =>
      cases other with
      | step otherBound => exact Or.inl (Option.some.inj (bound.symm.trans otherBound))
      | trans otherBound rest =>
          obtain rfl := Option.some.inj (bound.symm.trans otherBound)
          exact Or.inr (Or.inl rest)
  | trans bound rest inductionHypothesis =>
      cases other with
      | step otherBound =>
          obtain rfl := Option.some.inj (bound.symm.trans otherBound)
          exact Or.inr (Or.inr rest)
      | trans otherBound otherRest =>
          obtain rfl := Option.some.inj (bound.symm.trans otherBound)
          exact inductionHypothesis otherRest

/-- Of two aliases with the same binding neither leads to the other. -/
theorem Acyclic.not_reaches_sibling (acyclic : aliases.Acyclic) {first second : String}
    (bound : aliases.get? first = some name) (otherBound : aliases.get? second = some name) :
    ¬ Reaches aliases first second := by
  intro path
  cases path with
  | step same =>
      obtain rfl := Option.some.inj (bound.symm.trans same)
      exact acyclic _ (.step otherBound)
  | trans same rest =>
      obtain rfl := Option.some.inj (bound.symm.trans same)
      exact acyclic _ (rest.append (.step otherBound))

/-- Nothing leads to two aliases that have the same binding. -/
theorem Acyclic.eq_of_common_source (acyclic : aliases.Acyclic) {first second : String}
    (bound : aliases.get? first = some name) (otherBound : aliases.get? second = some name)
    (toFirst : first = aliasName ∨ Reaches aliases aliasName first)
    (toSecond : second = aliasName ∨ Reaches aliases aliasName second) : first = second := by
  have apart := acyclic.not_reaches_sibling bound otherBound
  have apartBack := acyclic.not_reaches_sibling otherBound bound
  rcases toFirst with rfl | path
  · exact toSecond.elim Eq.symm fun path => absurd path apart
  · rcases toSecond with rfl | other
    · exact absurd path apartBack
    · rcases path.linear other with same | forward | back
      · exact same
      · exact absurd forward apart
      · exact absurd back apartBack

/-- The aliases of a name fall into one group for each binding to it, and the groups share none. -/
theorem Acyclic.nodup_aliasesWithin (acyclic : aliases.Acyclic) (steps : Nat) (name : String) :
    (aliases.aliasesWithin steps name).Nodup := by
  induction steps generalizing name with
  | zero => exact List.nodup_nil
  | succ steps inductionHypothesis =>
      rw [aliasesWithin, List.nodup_flatMap]
      constructor
      · intro binding _
        split
        · have notBack : binding.1 ∉ aliases.aliasesWithin steps binding.1 := fun member =>
            acyclic _ (reaches_of_mem_aliasesWithin member)
          exact List.nodup_cons.mpr ⟨notBack, inductionHypothesis binding.1⟩
        · exact List.nodup_nil
      · -- An alias in two groups would lead to two aliases with the same binding.
        refine List.Pairwise.imp_of_mem ?_ aliases.ascending
        intro first second firstMember secondMember before aliasName inFirst inSecond
        obtain ⟨rfl, toFirst⟩ := mem_group_iff.mp inFirst
        obtain ⟨sameTarget, toSecond⟩ := mem_group_iff.mp inSecond
        have bound := get?_of_mem firstMember
        have otherBound := get?_of_mem secondMember
        rw [sameTarget] at otherBound
        have same : first.1 = second.1 :=
          acyclic.eq_of_common_source bound otherBound
            (toFirst.imp_right reaches_of_mem_aliasesWithin)
            (toSecond.imp_right reaches_of_mem_aliasesWithin)
        exact String.lt_irrefl _ (same ▸ before)

/-- The alias list of a name holds no alias twice. -/
theorem Acyclic.nodup_aliasesOf (acyclic : aliases.Acyclic) (name : String) :
    (aliases.aliasesOf name).Nodup :=
  acyclic.nodup_aliasesWithin aliases.size name

end BeanContainer.AliasMap
