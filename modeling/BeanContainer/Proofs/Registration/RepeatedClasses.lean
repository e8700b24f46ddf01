/-
This file shows that a configuration class is not registered twice where no name may be bound anew.
Its generator gives it the name that it has given it before, and that name is taken.
-/

import BeanContainer.Proofs.Registration.ClassRoutes
import BeanContainer.Proofs.Registration.Models

namespace BeanContainer

open Relation

/-! A name is generated again as long as the generator remembers what it has looked up. -/

namespace MetaTypeCache

/-- What was looked up is remembered. -/
theorem known_keep (cache : MetaTypeCache) (view : AnnotationView) (typeName : String) :
    (cache.keep view typeName).known.get? typeName = some (cache.lookUp view typeName) := by
  rw [keep, SortedMap.get?_insert, if_pos rfl]

variable {cache : MetaTypeCache} {typeName : String} {metaTypes : NameSet}

/-- A remembered type is not looked up again. -/
theorem lookUp_of_known (known : cache.known.get? typeName = some metaTypes)
    (view : AnnotationView) : cache.lookUp view typeName = metaTypes := by
  rw [lookUp, known, Option.getD_some]

/-- A remembered type is not stored again. -/
theorem keep_of_known (known : cache.known.get? typeName = some metaTypes)
    (view : AnnotationView) : cache.keep view typeName = cache := by
  rw [keep, lookUp_of_known known, SortedMap.insert_eq_self known]

end MetaTypeCache

namespace Naming

variable {cache left later : MetaTypeCache}

/-- The markers agree on the same name once more where the cache remembers all that it did. -/
theorem agreedName_again {view : AnnotationView} {types : List String}
    {found declared : Option String}
    (done : (agreedName view types found).run cache = .ok declared left)
    (remembers : left.Remembers later) :
    (agreedName view types found).run later = .ok declared later := by
  induction types generalizing found cache with
  | nil =>
      cases done
      rfl
  | cons typeName rest inductionHypothesis =>
      rw [agreedName, EStateM.run_bind, proposedName_run] at done ⊢
      cases marked : view.attributes typeName with
      | none =>
          rw [marked] at done
          exact inductionHypothesis done
      | some attributes =>
          rw [marked] at done
          dsimp only at done ⊢
          -- What is looked up for this marker is remembered from here on.
          have goesOn : ∃ found, (agreedName view rest found).run (cache.keep view typeName) =
              .ok declared left := by
            split at done
            · exact ⟨_, done⟩
            · exact ⟨_, done⟩
            · split at done
              · exact ⟨_, done⟩
              · cases done
          obtain ⟨next, ended⟩ := goesOn
          have respects : Respects MetaTypeCache.Remembers (agreedName view rest next) := by
            apply agreedName_respects
            exact fun other _ cache => cache.remembers_keep view other
          have known := remembers (respects.of_ok ended (cache.known_keep view typeName))
          rw [MetaTypeCache.lookUp_of_known known, MetaTypeCache.keep_of_known known]
          split at done
          · exact inductionHypothesis done
          · exact inductionHypothesis done
          · split at done
            · rename_i same
              rw [if_pos same]
              exact inductionHypothesis done
            · cases done

/-- A name that has been generated is generated again, and nothing more is looked up for it. -/
theorem byAnnotations_again {definition : BeanDefinition} (registry other : Registry)
    {name : String} (done : (byAnnotations definition registry).run cache = .ok name left)
    (remembers : left.Remembers later) :
    (byAnnotations definition other).run later = .ok name later := by
  rw [byAnnotations_eq] at done ⊢
  obtain ⟨declared, middle, begun, ended⟩ := run_bind_eq_ok_iff.mp done
  -- The name is chosen without a look-up, so the choice is the same in any state.
  have settled : left = middle := by
    split at ended
    · cases ended
      rfl
    · split at ended <;> cases ended
      rfl
  subst settled
  refine run_bind_eq_ok_iff.mpr ⟨declared, later, ?_, ?_⟩
  · cases annotated : definition.metadata with
    | none =>
        rw [annotated] at begun
        cases begun
        rfl
    | some metadata =>
        rw [annotated] at begun
        exact agreedName_again begun remembers
  · revert ended
    split
    · rintro ⟨⟩
      rfl
    · split
      · rintro ⟨⟩
        rfl
      · nofun

end Naming

/-! A name is given to one bean only. -/

namespace Registry

variable {mode otherMode : ScopedProxyMode} {holder other visible result : BeanDefinitionHolder}
  {first middle last left : Registry}

/-- A holder that was accepted had a free name. -/
theorem free_of_registerHolder {registered : BeanDefinition}
    (done : (registerHolder holder).run first = .ok registered last) :
    first.bindingFault? holder.beanName = none := by
  obtain ⟨cause, fault, _⟩ | ⟨free, _⟩ := registerHolder_leftBy holder first
  · rw [registerHolder, EStateM.run_bind, register_run, fault] at done
    contradiction
  · exact free

/-- A bean that was accepted had a free name, be it shown as a proxy or as itself. -/
theorem free_of_registerScoped (done : (registerScoped mode holder).run first = .ok visible last) :
    first.bindingFault? holder.beanName = none := by
  obtain ⟨_, before, registered, held, begun⟩ := registerScoped_eq_ok done
  have free := free_of_registerHolder held
  rw [ScopedProxy.beanName_shown] at free
  obtain ⟨_, rfl⟩ | ⟨_, _, rfl⟩ := begun
  · exact free
  · rwa [bindingFault?_bind_of_ne _ (ne_targetName holder.beanName)] at free

/-- A bean is refused under a name that another bean has got before. -/
theorem registerScoped_once (begun : (registerScoped mode holder).run first = .ok visible middle)
    (further : Extends middle last) (sameName : other.beanName = holder.beanName) :
    (registerScoped otherMode other).run last ≠ .ok result left := by
  intro ended
  have known := further.definition? (registerScoped_ok begun).2.1
  have unused := isNameInUse_of_free further.fixedNames (free_of_registerScoped ended)
  rw [sameName, isNameInUse, contains, known] at unused
  contradiction

end Registry

/-- The last state holds and remembers all that the first one does, where no name may be bound
anew. -/
structure RegistrationState.Grows (first last : RegistrationState MetaTypeCache) : Prop where
  registry : first.registry.allowOverriding = false → first.registry.Extends last.registry
  memory : first.memory.Remembers last.memory

instance : IsPreorder (RegistrationState MetaTypeCache) RegistrationState.Grows where
  refl _ := ⟨fun fixedNames => ⟨fixedNames, id⟩, id⟩
  trans _ _ _ begun ended :=
    ⟨fun fixedNames =>
      (begun.registry fixedNames).trans (ended.registry (begun.registry fixedNames).fixedNames),
      fun known => ended.memory (begun.memory known)⟩

namespace DefinitionReader

/-- A configuration class that is accepted has passed all its steps. -/
theorem registerConfiguration_eq_ok {Memory : Type} {reader : DefinitionReader Memory}
    {configuration : ConfigurationClass} {holder : BeanDefinitionHolder}
    {state left : RegistrationState Memory}
    (done : (reader.registerConfiguration configuration).run state = .ok holder left) :
    ∃ scope definition beanName,
      reader.scopes.resolve configuration.metadata.annotations = .ok scope ∧
        (componentDefinition configuration.metadata scope.scopeName).update
            (DefinitionUpdate.applyCommonAnnotations configuration.metadata.annotations) =
          .ok definition ∧
        (reader.generator definition state.registry).run state.memory =
          .ok beanName left.memory ∧
        (Registry.registerScoped scope.proxyMode { definition, beanName }).run state.registry =
          .ok holder left.registry := by
  rw [registerConfiguration_run] at done
  split at done
  · contradiction
  · rename_i scope resolved
    split at done
    · contradiction
    · rename_i definition updated
      split at done
      · contradiction
      · rename_i beanName memory named
        split at done
        · rename_i registered
          cases done
          exact ⟨scope, definition, beanName, resolved, updated, named, registered⟩
        · contradiction

variable {scopes : ScopeResolver} {configuration : ConfigurationClass}
  {holder again : BeanDefinitionHolder} {state left later last : RegistrationState MetaTypeCache}

/-- A configuration class that is accepted takes a name and forgets no type. -/
theorem registerConfiguration_grows
    (done : (registerConfiguration ⟨Naming.byAnnotations, scopes⟩ configuration).run state =
      .ok holder left) : state.Grows left := by
  constructor
  · intro fixedNames
    exact (registerConfiguration_places _ configuration fun _ _ => trivial).extends done fixedNames
  · intro typeName metaTypes known
    obtain ⟨_, definition, _, _, _, named, _⟩ := registerConfiguration_eq_ok done
    have respects : Respects MetaTypeCache.Remembers
        (Naming.byAnnotations definition state.registry) :=
      Naming.byAnnotations_respects definition state.registry
        fun metadata _ other _ cache => cache.remembers_keep metadata.annotations other
    exact respects.of_ok named known

/-- A configuration class that has been registered is refused from then on. -/
theorem registerConfiguration_once (fixedNames : state.registry.allowOverriding = false)
    (begun : (registerConfiguration ⟨Naming.byAnnotations, scopes⟩ configuration).run state =
      .ok holder left)
    (further : left.Grows later) :
    (registerConfiguration ⟨Naming.byAnnotations, scopes⟩ configuration).run later ≠
      .ok again last := by
  intro ended
  have fixedBetween := ((registerConfiguration_grows begun).registry fixedNames).fixedNames
  obtain ⟨scope, definition, beanName, resolved, updated, named, registered⟩ :=
    registerConfiguration_eq_ok begun
  obtain ⟨_, _, other, resolvedAgain, updatedAgain, namedAgain, registeredAgain⟩ :=
    registerConfiguration_eq_ok ended
  obtain rfl := Except.ok.inj (resolved.symm.trans resolvedAgain)
  obtain rfl := Except.ok.inj (updated.symm.trans updatedAgain)
  have sameName : other = beanName := by
    have likewise := Naming.byAnnotations_again state.registry later.registry named further.memory
    exact (EStateM.Result.ok.inj (namedAgain.symm.trans likewise)).1
  exact Registry.registerScoped_once registered (further.registry fixedBetween) sameName
    registeredAgain

end DefinitionReader

end BeanContainer
