/-
This file carries a simulation over from the parts of a request to the whole. What a request does
successfully from one state it does from every related state, with the same result.
-/

import BeanContainer.Proofs.Registration.Requests

namespace BeanContainer

section Simulations

variable {State Cause Value Next Item : Type} {related : State → State → Prop}

/-- A request that succeeds from the first of two related states succeeds likewise from the second,
and leaves related states again. -/
def Simulates (related : State → State → Prop) (request : EStateM Cause State Value) : Prop :=
  ∀ first second left value, related first second → request.run first = .ok value left →
    ∃ other, request.run second = .ok value other ∧ related left other

/-- A success is repeated from every related state, with the same result. -/
theorem Simulates.of_ok {request : EStateM Cause State Value} (simulates : Simulates related request)
    {first second left : State} {value : Value} (done : request.run first = .ok value left)
    (alike : related first second) :
    ∃ other, request.run second = .ok value other ∧ related left other :=
  simulates first second left value alike done

/-- An answer is the same from everywhere. -/
theorem Simulates.pure (value : Value) :
    Simulates related (pure value : EStateM Cause State Value) := by
  intro first second left given alike done
  cases done
  exact ⟨second, rfl, alike⟩

/-- A refusal is no success that would have to be repeated. -/
theorem Simulates.throw (cause : Cause) :
    Simulates related (throw cause : EStateM Cause State Value) := by
  intro first second left given alike done
  contradiction

/-- A change is repeated if it keeps states related. -/
theorem Simulates.modify {update : State → State}
    (updates : ∀ first second, related first second → related (update first) (update second)) :
    Simulates related (modify update : EStateM Cause State PUnit) := by
  intro first second left given alike done
  cases done
  exact ⟨update second, rfl, updates first second alike⟩

/-- Two requests in a row are repeated if each of them is. -/
theorem Simulates.bind {request : EStateM Cause State Value}
    {next : Value → EStateM Cause State Next} (simulates : Simulates related request)
    (nextSimulates : ∀ value, Simulates related (next value)) :
    Simulates related (request >>= next) := by
  intro first second left result alike done
  obtain ⟨value, middle, begun, ended⟩ := run_bind_eq_ok_iff.mp done
  obtain ⟨otherMiddle, begunLikewise, alikeBetween⟩ := simulates.of_ok begun alike
  obtain ⟨other, endedLikewise, alikeAfter⟩ := (nextSimulates value).of_ok ended alikeBetween
  exact ⟨other, run_bind_eq_ok_iff.mpr ⟨value, otherMiddle, begunLikewise, endedLikewise⟩,
    alikeAfter⟩

/-- A request may look at the state as long as it overlooks in what related states differ. -/
theorem Simulates.getBind {next : State → EStateM Cause State Value}
    (overlooks : ∀ first second, related first second → next second = next first)
    (each : ∀ state, Simulates related (next state)) : Simulates related (get >>= next) := by
  intro first second left result alike done
  rw [EStateM.run_bind] at done ⊢
  dsimp only [EStateM.run_get] at done ⊢
  rw [overlooks first second alike]
  exact each first first second left result alike done

/-- A traversal is repeated if each of its turns is. -/
theorem Simulates.mapM {request : Item → EStateM Cause State Value} {items : List Item}
    (each : ∀ item ∈ items, Simulates related (request item)) :
    Simulates related (items.mapM request) := by
  induction items with
  | nil => exact .pure []
  | cons item rest inductionHypothesis =>
      have later := inductionHypothesis fun other member =>
        each other (List.mem_cons_of_mem _ member)
      rw [List.mapM_cons]
      apply (each item List.mem_cons_self).bind
      intro value
      exact later.bind fun values => .pure (value :: values)

/-- A loop is repeated if each of its turns is. -/
theorem Simulates.forM {request : Item → EStateM Cause State PUnit} {items : List Item}
    (each : ∀ item, Simulates related (request item)) :
    Simulates related (items.forM request) := by
  induction items with
  | nil => exact .pure _
  | cons item rest inductionHypothesis => exact (each item).bind fun _ => inductionHypothesis

/-- A request to a part is repeated on related wholes if it is on their parts. -/
theorem Simulates.onPart {Part : Type} {part : State → Part} {withPart : State → Part → State}
    {partRelated : Part → Part → Prop} {request : EStateM Cause Part Value}
    (simulates : Simulates partRelated request)
    (read : ∀ first second, related first second → partRelated (part first) (part second))
    (written : ∀ first second left right, related first second → partRelated left right →
      related (withPart first left) (withPart second right)) :
    Simulates related (BeanContainer.onPart part withPart request) := by
  intro first second left value alike done
  obtain ⟨changed, begun, rfl⟩ := onPart_eq_ok_iff.mp done
  obtain ⟨other, likewise, alikeAfter⟩ := simulates.of_ok begun (read first second alike)
  exact ⟨withPart second other, onPart_eq_ok_iff.mpr ⟨other, likewise, rfl⟩,
    written first second changed other alike alikeAfter⟩

/-- From equal states every request does the same. -/
theorem simulates_eq (request : EStateM Cause State Value) : Simulates Eq request := by
  rintro first _ left value rfl done
  exact ⟨left, done, rfl⟩

end Simulations

/-! The registry. -/

/-- Related registries show the same definitions, and what changes one of them changes the other
likewise. -/
structure Registry.Simulation (related : Registry → Registry → Prop) : Prop where
  definition?_eq : ∀ {first second : Registry}, related first second → ∀ name,
    second.definition? name = first.definition? name
  register : ∀ name definition, Simulates related (Registry.register name definition)
  registerAlias : ∀ name aliasName, Simulates related (Registry.registerAlias name aliasName)

namespace Registry.Simulation

variable {related : Registry → Registry → Prop}

/-- A holder is registered from every related registry in which it can be from one. -/
theorem registerHolder (simulation : Simulation related) (holder : BeanDefinitionHolder) :
    Simulates related (Registry.registerHolder holder) := by
  apply (simulation.register _ _).bind
  intro registered
  exact (Simulates.forM fun _ => simulation.registerAlias _ _).bind fun _ => .pure registered

/-- A bean under its scope is registered from every related registry. -/
theorem registerScoped (simulation : Simulation related) (mode : ScopedProxyMode)
    (holder : BeanDefinitionHolder) : Simulates related (Registry.registerScoped mode holder) := by
  apply Simulates.bind
  · unfold ScopedProxy.apply
    split
    · exact .pure holder
    · exact (simulation.register _ _).bind fun _ => .pure _
  · intro visible
    exact (simulation.registerHolder visible).bind fun _ => .pure visible

/-- The same infrastructure is supplied to every related registry. -/
theorem registerInfrastructure (simulation : Simulation related) (source : Option SourceLocation)
    (isPresent : String → Bool) :
    Simulates related (Registry.registerInfrastructure source isPresent) := by
  apply Simulates.bind
  · apply Simulates.mapM
    intro bean _
    apply Simulates.getBind
    · intro first second alike
      rw [contains, contains, simulation.definition?_eq alike]
    · intro registry
      split
      · exact .pure none
      · exact (simulation.register _ _).bind fun _ => .pure _
  · intro registered
    exact .pure _

/-- A method adds the same bean to every related registry, or is skipped in all of them. -/
theorem registerMethod (simulation : Simulation related) (scopes : ScopeResolver)
    (configuration : ConfigurationClass) (method : BeanMethod) :
    Simulates related (method.register scopes configuration) := by
  have ofExcept {Value : Type} (result : Except DefinitionError Value) :
      Simulates related (BeanMethod.register.ofExcept result) := by
    cases result with
    | ok value => exact .pure value
    | error cause => exact .throw cause
  unfold BeanMethod.register
  split
  · exact .pure none
  · apply (ofExcept _).bind
    intro names
    generalize BeanMethod.splitNames method.name names = given
    obtain ⟨beanName, aliases⟩ := given
    apply Simulates.getBind
    · intro first second alike
      dsimp only
      unfold BeanMethod.isOverridden
      rw [simulation.definition?_eq alike]
    · intro registry
      dsimp only
      split
      · exact .pure none
      · apply (ofExcept _).bind
        intro common
        apply (ofExcept _).bind
        intro scope
        exact (simulation.registerScoped _ _).bind fun _ => .pure _

end Registry.Simulation

/-! Components, configuration classes and whole models. -/

section Registrations

variable {Memory Value : Type} {related : Registry → Registry → Prop}
  {alike : Memory → Memory → Prop}

/-- The registries are related, and so is what is remembered. -/
def RegistrationState.Pairs (related : Registry → Registry → Prop)
    (alike : Memory → Memory → Prop) (first second : RegistrationState Memory) : Prop :=
  related first.registry second.registry ∧ alike first.memory second.memory

def LoadingState.Pairs (related : Registry → Registry → Prop) (alike : Memory → Memory → Prop)
    (first second : LoadingState Memory) : Prop :=
  first.registration.Pairs related alike second.registration ∧ second.model = first.model

/-- A request that is repeated on registries is repeated within a registration. -/
theorem RegistrationM.onRegistry_simulates {request : RegistryM Value}
    (simulates : Simulates related request) :
    Simulates (RegistrationState.Pairs related alike) (onRegistry request) := by
  rw [onRegistry_eq_onPart]
  exact simulates.onPart (fun _ _ pairs => pairs.1) fun _ _ _ _ pairs left => ⟨left, pairs.2⟩

/-- A result that is known beforehand is the same from everywhere. -/
theorem RegistrationM.ofExcept_simulates {pairs : RegistrationState Memory → _ → Prop}
    (result : Except DefinitionError Value) : Simulates pairs (ofExcept result) := by
  cases result with
  | ok value => exact .pure value
  | error cause => exact .throw cause

/-- A registration that is repeated by itself is repeated within loading. -/
theorem LoadingM.onRegistration_simulates {request : RegistrationM Memory Value}
    (simulates : Simulates (RegistrationState.Pairs related alike) request) :
    Simulates (LoadingState.Pairs related alike) (onRegistration request) := by
  rw [onRegistration_eq_onPart]
  exact simulates.onPart (fun _ _ pairs => pairs.1) fun _ _ _ _ pairs left => ⟨left, pairs.2⟩

/-- A name may depend on what is remembered, but not on that in which related registries differ. -/
theorem RegistrationM.generateName_simulates {generator : NameGenerator Memory}
    {definition : BeanDefinition}
    (overlooks : ∀ first second, related first second →
      generator definition second = generator definition first)
    (named : ∀ registry, Simulates alike (generator definition registry)) :
    Simulates (RegistrationState.Pairs related alike) (generateName generator definition) := by
  intro first second left name pairs done
  rw [EStateM.run, generateName] at done ⊢
  rw [overlooks _ _ pairs.1]
  cases outcome : generator definition first.registry first.memory with
  | error cause memory =>
      rw [outcome] at done
      contradiction
  | ok given memory =>
      rw [outcome] at done
      cases done
      obtain ⟨other, likewise, alikeAfter⟩ := (named first.registry).of_ok outcome pairs.2
      rw [EStateM.run] at likewise
      rw [likewise]
      exact ⟨_, rfl, pairs.1, alikeAfter⟩

namespace DefinitionReader

variable {reader : DefinitionReader Memory}

/-- A component class is read alike if its names are made up alike. -/
theorem readComponent_simulates {pairs : RegistrationState Memory → _ → Prop}
    {metadata : ClassMetadata}
    (named : ∀ scopeName, Simulates pairs
      (RegistrationM.generateName reader.generator (componentDefinition metadata scopeName)))
    (name : Option String) : Simulates pairs (reader.readComponent metadata name) := by
  apply (RegistrationM.ofExcept_simulates _).bind
  intro scope
  cases name with
  | some name =>
      exact (Simulates.pure name).bind fun _ =>
        (RegistrationM.ofExcept_simulates _).bind fun _ => .pure _
  | none => exact (named _).bind fun _ => (RegistrationM.ofExcept_simulates _).bind fun _ => .pure _

/-- A component is registered alike if its names are made up alike. -/
theorem registerComponent_simulates (simulation : Registry.Simulation related)
    {metadata : ClassMetadata}
    (named : ∀ scopeName, Simulates (RegistrationState.Pairs related alike)
      (RegistrationM.generateName reader.generator (componentDefinition metadata scopeName)))
    (name : Option String) :
    Simulates (RegistrationState.Pairs related alike) (reader.registerComponent metadata name) := by
  apply (readComponent_simulates named name).bind
  intro component
  exact RegistrationM.onRegistry_simulates (simulation.registerScoped _ _)

/-- A configuration class is registered alike if its names are made up alike. -/
theorem registerConfiguration_simulates (simulation : Registry.Simulation related)
    (named : ∀ definition, Simulates (RegistrationState.Pairs related alike)
      (RegistrationM.generateName reader.generator definition))
    (configuration : ConfigurationClass) :
    Simulates (RegistrationState.Pairs related alike)
      (reader.registerConfiguration configuration) := by
  apply (RegistrationM.ofExcept_simulates _).bind
  intro scope
  apply (RegistrationM.ofExcept_simulates _).bind
  intro definition
  apply (named definition).bind
  intro beanName
  exact RegistrationM.onRegistry_simulates (simulation.registerScoped _ _)

/-- A model is loaded alike if its names are made up alike. -/
theorem loadModel_simulates (simulation : Registry.Simulation related)
    (named : ∀ definition, Simulates (RegistrationState.Pairs related alike)
      (RegistrationM.generateName reader.generator definition)) :
    Simulates (LoadingState.Pairs related alike) reader.loadModel := by
  unfold loadModel
  apply Simulates.getBind
  · intro first second pairs
    rw [pairs.2]
  intro state
  apply Simulates.bind
  · apply Simulates.mapM
    intro configuration _
    apply (LoadingM.onRegistration_simulates
      (registerConfiguration_simulates simulation named configuration)).bind
    intro holder
    apply Simulates.bind
    · apply Simulates.modify
      intro first second pairs
      exact ⟨pairs.1, congrArg (·.setBeanName configuration.id holder.beanName) pairs.2⟩
    · intro _
      exact .pure holder
  · intro classes
    apply Simulates.getBind
    · intro first second pairs
      rw [pairs.2]
    intro named
    apply Simulates.bind
    · apply Simulates.mapM
      intro entry _
      exact LoadingM.onRegistration_simulates
        (RegistrationM.onRegistry_simulates (simulation.registerMethod _ _ entry.2))
    · intro products
      exact .pure _

end DefinitionReader

end Registrations

end BeanContainer
