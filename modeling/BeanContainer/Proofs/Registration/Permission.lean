/-
This file shows that a registration which succeeds while no name may be bound anew takes the same
course where names may be bound anew: permission is only asked for where it is needed.
-/

import BeanContainer.Proofs.Registration.Simulation

namespace BeanContainer.Registry

/-- The same registry where names may be bound anew. -/
def permissive (registry : Registry) : Registry := { registry with allowOverriding := true }

variable {registry : Registry} {name : String}

/-- A definition that is accepted without permission is accepted with it. -/
theorem bindingFault?_permissive (free : registry.bindingFault? name = none) :
    registry.permissive.bindingFault? name = none := by
  rw [bindingFault?_eq_none_iff] at free ⊢
  exact ⟨free.1, Or.inl rfl⟩

/-- An alias that is accepted without permission is accepted with it. -/
theorem aliasFault?_permissive {aliasName : String}
    (free : registry.aliasFault? name aliasName = none) :
    registry.permissive.aliasFault? name aliasName = none := by
  rw [aliasFault?_eq_none_iff] at free ⊢
  obtain ⟨solid, settled | ⟨_, acyclic⟩⟩ := free
  · exact ⟨solid, Or.inl settled⟩
  · exact ⟨solid, Or.inr ⟨Or.inr rfl, acyclic⟩⟩

/-- What is accepted without permission is accepted with it. -/
theorem permissive_simulation : Simulation fun first second => second = first.permissive where
  definition?_eq := by
    rintro first _ rfl name
    rfl
  register name definition := by
    rintro first _ left registered rfl done
    rw [register_run] at done ⊢
    cases fault : first.bindingFault? name with
    | some cause =>
        rw [fault] at done
        contradiction
    | none =>
        rw [fault] at done
        rw [bindingFault?_permissive fault]
        cases done
        exact ⟨_, rfl, rfl⟩
  registerAlias name aliasName := by
    rintro first _ left registered rfl done
    rw [registerAlias_run] at done ⊢
    cases fault : first.aliasFault? name aliasName with
    | some cause =>
        rw [fault] at done
        contradiction
    | none =>
        rw [fault] at done
        rw [aliasFault?_permissive fault]
        cases done
        exact ⟨_, rfl, rfl⟩

end BeanContainer.Registry
