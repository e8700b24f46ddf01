/-
This file says what a start ends in, apart from the steps that it puts on record: the phases one
after the other, each of which may fail.
-/

import BeanContainer.Bootstrap.Builder

namespace BeanContainer

namespace BootstrapM

variable {Value Next : Type}

def resultOf (work : BootstrapM Value) (recorder : StartupRecorder) :
    Except InfrastructureError Value :=
  match work.run recorder with
  | .ok value _ => .ok value
  | .error cause _ => .error cause

/-- Whatever is on record before, the work ends in this result. -/
def EndsIn (work : BootstrapM Value) (result : Except DefinitionError Value) : Prop :=
  ∀ recorder, work.resultOf recorder = result.mapError .definition

/-- An answer ends in itself. -/
theorem EndsIn.pure (value : Value) : EndsIn (pure value) (.ok value) := fun _ => rfl

/-- A result that is known beforehand is what the work ends in. -/
theorem EndsIn.ofExcept (result : Except DefinitionError Value) :
    EndsIn (ofExcept result) result := by
  intro recorder
  cases result <;> rfl

/-- Two phases in a row end in what their results come to. -/
theorem EndsIn.bind {work : BootstrapM Value} {next : Value → BootstrapM Next}
    {result : Except DefinitionError Value} {later : Value → Except DefinitionError Next}
    (ends : EndsIn work result) (nextEnds : ∀ value, EndsIn (next value) (later value)) :
    EndsIn (work >>= next) (result >>= later) := by
  intro recorder
  have ended := ends recorder
  unfold resultOf at ended ⊢
  rw [EStateM.run_bind]
  cases outcome : work.run recorder with
  | error cause left =>
      rw [outcome] at ended
      cases result with
      | error given =>
          cases ended
          rfl
      | ok value => contradiction
  | ok value left =>
      rw [outcome] at ended
      cases result with
      | error given => contradiction
      | ok given =>
          cases ended
          exact nextEnds value left

/-- What the work ends in may be written in another way. -/
theorem EndsIn.of_eq {work : BootstrapM Value} {result other : Except DefinitionError Value}
    (ends : EndsIn work result) (same : result = other) : EndsIn work other :=
  same ▸ ends

/-- A stage only adds to the record. -/
theorem EndsIn.stage {work : BootstrapM (Value × List (String × String))}
    {result : Except DefinitionError (Value × List (String × String))} (name : String)
    (ends : EndsIn work result) : EndsIn (stage name work) (result.map Prod.fst) := by
  intro recorder
  have ended := ends (recorder.start name).2
  unfold resultOf at ended ⊢
  have begun : (BootstrapM.stage name work).run recorder =
      (do
        let worked ← work
        finishStep (worked.2.foldl (fun step tag => step.tag tag.1 tag.2) (recorder.start name).1)
        return worked.1 : BootstrapM Value).run (recorder.start name).2 := rfl
  rw [begun, EStateM.run_bind]
  cases outcome : work.run (recorder.start name).2 with
  | error cause left =>
      rw [outcome] at ended
      cases result with
      | error given =>
          cases ended
          rfl
      | ok value => contradiction
  | ok value left =>
      rw [outcome] at ended
      cases result with
      | error given => contradiction
      | ok given =>
          cases ended
          rfl

end BootstrapM

namespace Bootstrap

/-- The components are registered, the model is assembled and checked, and its beans are loaded. -/
def outcome (input : BootstrapInput) : Except DefinitionError Context := do
  let (factory, componentNames) ← componentFactory input
  let (_, reporter) ← (input.model componentNames).validate (reporter input.failFast)
  let (factory, _) ← loadModel factory (input.model componentNames)
  return { factory, problems := reporter.problems }

/-- A start succeeds if each of its phases does. -/
theorem outcome_eq_ok_iff {input : BootstrapInput} {context : Context} :
    outcome input = .ok context ↔
      ∃ factory names count checked last holders,
        componentFactory input = .ok (factory, names) ∧
          (input.model names).validate (reporter input.failFast) = .ok (count, checked) ∧
          loadModel factory (input.model names) = .ok (last, holders) ∧
          context = { factory := last, problems := checked.problems } := by
  unfold outcome
  constructor
  · intro started
    cases components : componentFactory input with
    | error cause =>
        rw [components] at started
        contradiction
    | ok registered =>
        obtain ⟨factory, names⟩ := registered
        rw [components] at started
        dsimp only [bind, Except.bind] at started
        split at started
        · contradiction
        · rename_i result checked
          split at started
          · contradiction
          · rename_i loaded done
            cases started
            exact ⟨factory, names, result.1, result.2, loaded.1, loaded.2, rfl, checked, done, rfl⟩
  · rintro ⟨factory, names, count, checked, last, holders, components, valid, done, rfl⟩
    rw [components]
    dsimp only [bind, Except.bind]
    rw [valid]
    dsimp only
    rw [done]
    rfl

/-- The record has no bearing on the outcome. -/
theorem run_endsIn (input : BootstrapInput) :
    BootstrapM.EndsIn (Bootstrap.run input) (outcome input) := by
  apply BootstrapM.EndsIn.of_eq
  · apply BootstrapM.EndsIn.bind (.stage _ (.pure _))
    intro created
    apply BootstrapM.EndsIn.bind (.stage _ (.bind (.ofExcept _) fun _ => .pure _))
    intro components
    apply BootstrapM.EndsIn.bind (.stage _ (.pure _))
    intro model
    apply BootstrapM.EndsIn.bind (.stage _ (.bind (.ofExcept _) fun _ => .pure _))
    intro problems
    apply BootstrapM.EndsIn.bind (.stage _ (.bind (.ofExcept _) fun _ => .pure _))
    intro factory
    exact .pure _
  · unfold outcome
    cases componentFactory input with
    | error cause => rfl
    | ok components =>
        obtain ⟨factory, names⟩ := components
        change (((input.model names).validate (reporter input.failFast) >>= _).map _ >>= _) =
          ((input.model names).validate (reporter input.failFast) >>= _)
        cases (input.model names).validate (reporter input.failFast) with
        | error cause => rfl
        | ok checked =>
            change ((loadModel factory (input.model names) >>= _).map _ >>= _) =
              (loadModel factory (input.model names) >>= _)
            cases loadModel factory (input.model names) <;> rfl

end Bootstrap

namespace ContainerBuilder

variable {builder : ContainerBuilder} {shared : ContainerProperties}

/-- A build ends in the outcome of its start, with the faults of definitions marked as such. -/
theorem build_fst :
    (builder.build shared).1 =
      (Bootstrap.outcome (builder.input shared)).mapError InfrastructureError.definition := by
  rw [← Bootstrap.run_endsIn (builder.input shared) builder.startup]
  unfold ContainerBuilder.build BootstrapM.resultOf EStateM.run
  cases Bootstrap.run (builder.input shared) builder.startup <;> rfl

/-- A build succeeds just if its start does, with the same container. -/
theorem build_eq_ok_iff {context : Context} :
    (builder.build shared).1 = .ok context ↔
      Bootstrap.outcome (builder.input shared) = .ok context := by
  rw [build_fst]
  cases Bootstrap.outcome (builder.input shared) with
  | error cause => exact iff_of_false nofun nofun
  | ok given =>
      constructor
      · intro same
        cases same
        rfl
      · intro same
        cases same
        rfl

/-- A build fails just if its start does, for the same cause. -/
theorem build_eq_error_iff {cause : InfrastructureError} :
    (builder.build shared).1 = .error cause ↔
      ∃ given, Bootstrap.outcome (builder.input shared) = .error given ∧
        cause = .definition given := by
  rw [build_fst]
  cases Bootstrap.outcome (builder.input shared) with
  | ok given =>
      constructor
      · intro failed
        contradiction
      · rintro ⟨_, failed, _⟩
        contradiction
  | error given =>
      constructor
      · intro same
        cases same
        exact ⟨given, rfl, rfl⟩
      · rintro ⟨_, same, rfl⟩
        cases same
        rfl

/-! What is seen of a start. -/

/-- A view of the container can only be had of a build that succeeded. -/
theorem exists_of_seen {Value : Type} {result : Except InfrastructureError Context}
    {view : Context → Value} {given : Value} (seen : result.toOption.map view = some given) :
    ∃ context, result = .ok context ∧ view context = given := by
  cases result with
  | error cause => contradiction
  | ok context => exact ⟨context, rfl, Option.some.inj seen⟩

/-- A build without a container has failed. -/
theorem exists_of_unseen {result : Except InfrastructureError Context}
    (unseen : result.toOption.isNone = true) : ∃ cause, result = .error cause := by
  cases result with
  | error cause => exact ⟨cause, rfl⟩
  | ok context => contradiction

end ContainerBuilder

end BeanContainer
