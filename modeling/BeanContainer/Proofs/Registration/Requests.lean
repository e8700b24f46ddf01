/-
This file carries a relation between the states before and after a request over from the parts of
the request to the whole. A refused request has to respect the relation too.
-/

import BeanContainer.Proofs.Registration.Scoped
import BeanContainer.Registration.Configuration
import BeanContainer.Registration.Infrastructure
import Mathlib.Order.RelClasses

namespace BeanContainer

section Requests

variable {State Cause Value Next Item : Type} {related : State → State → Prop}

/-- The state after the request, whether it is refused or not. -/
def stateAfter (request : EStateM Cause State Value) (state : State) : State :=
  match request.run state with
  | .ok _ left => left
  | .error _ left => left

/-- What the request answers, apart from the state that it leaves. -/
def resultOf (request : EStateM Cause State Value) (state : State) : Except Cause Value :=
  match request.run state with
  | .ok value _ => .ok value
  | .error cause _ => .error cause

/-- Whether it is refused or not, the request leads from each state to a related one. -/
def Respects (related : State → State → Prop) (request : EStateM Cause State Value) : Prop :=
  ∀ state, related state (stateAfter request state)

/-- What holds of the first state holds of the last. -/
def Keeps (Holds : State → Prop) (first last : State) : Prop := Holds first → Holds last

instance (Holds : State → Prop) : IsPreorder State (Keeps Holds) where
  refl _ := id
  trans _ _ _ begun ended := ended ∘ begun

/-- From some state the request succeeds with this value. -/
def Yields (request : EStateM Cause State Value) (value : Value) : Prop :=
  ∃ state left, request.run state = .ok value left

/-- The second request starts from what the first one left, and only if that one succeeded. -/
theorem stateAfter_bind (first : EStateM Cause State Value)
    (next : Value → EStateM Cause State Next) (state : State) :
    stateAfter (first >>= next) state =
      match first.run state with
      | .ok value left => stateAfter (next value) left
      | .error _ left => left := by
  unfold stateAfter
  rw [EStateM.run_bind]
  cases first.run state <;> rfl

/-- The second request has the last word unless the first one was refused. -/
theorem resultOf_bind (first : EStateM Cause State Value)
    (next : Value → EStateM Cause State Next) (state : State) :
    resultOf (first >>= next) state =
      match first.run state with
      | .ok value left => resultOf (next value) left
      | .error cause _ => .error cause := by
  unfold resultOf
  rw [EStateM.run_bind]
  cases first.run state <;> rfl

/-- A course whose further results do not depend on the state goes on without one. -/
theorem resultOf_bind_of_answers {first : EStateM Cause State Value}
    {next : Value → EStateM Cause State Next} {answer : Value → Except Cause Next}
    (answers : ∀ value left, resultOf (next value) left = answer value) (state : State) :
    resultOf (first >>= next) state = resultOf first state >>= answer := by
  rw [resultOf_bind]
  unfold resultOf at answers ⊢
  cases first.run state with
  | ok value left => exact answers value left
  | error cause left => rfl

/-- Where the further course does not depend on the state, only the first results have to agree. -/
theorem resultOf_bind_congr {one other : EStateM Cause State Value}
    {next later : Value → EStateM Cause State Next} {first second : State}
    (same : resultOf one first = resultOf other second)
    (onwards : ∀ value left right, resultOf (next value) left = resultOf (later value) right) :
    resultOf (one >>= next) first = resultOf (other >>= later) second := by
  rw [resultOf_bind, resultOf_bind]
  unfold resultOf at same
  cases begun : one.run first <;> cases likewise : other.run second <;>
    simp only [begun, likewise] at same <;> cases same
  · exact onwards _ _ _
  · rfl

/-- Two requests in a row succeed just if each of them does where it starts. -/
theorem run_bind_eq_ok_iff {first : EStateM Cause State Value}
    {next : Value → EStateM Cause State Next} {state left : State} {result : Next} :
    (first >>= next).run state = .ok result left ↔
      ∃ value middle, first.run state = .ok value middle ∧
        (next value).run middle = .ok result left := by
  rw [EStateM.run_bind]
  constructor
  · intro done
    cases outcome : first.run state with
    | error cause middle => simp [outcome] at done
    | ok value middle =>
        rw [outcome] at done
        exact ⟨value, middle, rfl, done⟩
  · rintro ⟨value, middle, begun, ended⟩
    rw [begun]
    exact ended

/-! The result alone. -/

/-- A request has a result just if it succeeds in some state. -/
theorem resultOf_eq_ok_iff {request : EStateM Cause State Value} {state : State} {value : Value} :
    resultOf request state = .ok value ↔ ∃ left, request.run state = .ok value left := by
  unfold resultOf
  cases request.run state <;> simp

/-- A request has some answer just if it succeeds. -/
theorem run'_eq_some_iff {request : EStateM Cause State Value} {state : State} {value : Value} :
    request.run' state = some value ↔ ∃ left, request.run state = .ok value left := by
  unfold EStateM.run'
  cases request.run state <;> simp

/-- A request has no answer just if it is refused. -/
theorem run'_eq_none_iff {request : EStateM Cause State Value} {state : State} :
    request.run' state = none ↔ ∃ cause left, request.run state = .error cause left := by
  unfold EStateM.run'
  cases request.run state <;> simp

/-- A traversal succeeds just if its first turn does and the rest does from there. -/
theorem run_mapM_cons_eq_ok_iff {request : Item → EStateM Cause State Value} {item : Item}
    {rest : List Item} {state left : State} {values : List Value} :
    ((item :: rest).mapM request).run state = .ok values left ↔
      ∃ value middle later, (request item).run state = .ok value middle ∧
        (rest.mapM request).run middle = .ok later left ∧ values = value :: later := by
  rw [List.mapM_cons, run_bind_eq_ok_iff]
  refine exists_congr fun value => exists_congr fun middle => ?_
  rw [run_bind_eq_ok_iff]
  constructor
  · rintro ⟨begun, later, last, ended, done⟩
    cases done
    exact ⟨later, begun, ended, rfl⟩
  · rintro ⟨later, begun, ended, rfl⟩
    exact ⟨begun, later, left, ended, rfl⟩

/-- What becomes of the result does not matter to the state. -/
theorem stateAfter_bind_pure (request : EStateM Cause State Value) (result : Value → Next)
    (state : State) :
    stateAfter (request >>= fun value => pure (result value)) state = stateAfter request state := by
  rw [stateAfter_bind, stateAfter]
  cases request.run state <;> rfl

/-- A request that respects a relation does so where it succeeds. -/
theorem Respects.of_ok {request : EStateM Cause State Value} (respects : Respects related request)
    {state left : State} {value : Value} (done : request.run state = .ok value left) :
    related state left := by
  have after := respects state
  rwa [stateAfter, done] at after

/-- A change that keeps to the relation respects it. -/
theorem Respects.modify {change : State → State} (changes : ∀ state, related state (change state)) :
    Respects related (modify change : EStateM Cause State PUnit) :=
  changes

variable [IsPreorder State related]

/-- An answer respects every relation that holds of equal states. -/
theorem Respects.pure (value : Value) :
    Respects related (pure value : EStateM Cause State Value) :=
  fun state => refl_of related state

/-- A refusal without a change respects every such relation. -/
theorem Respects.throw (cause : Cause) :
    Respects related (throw cause : EStateM Cause State Value) :=
  fun state => refl_of related state

/-- Looking at the state respects every such relation. -/
theorem Respects.get : Respects related (get : EStateM Cause State State) :=
  fun state => refl_of related state

/-- Two requests in a row respect a relation if the second one does for each result of the first. -/
theorem Respects.bind {first : EStateM Cause State Value}
    {next : Value → EStateM Cause State Next} (firstRespects : Respects related first)
    (nextRespects : ∀ value, Yields first value → Respects related (next value)) :
    Respects related (first >>= next) := by
  intro state
  have begun := firstRespects state
  rw [stateAfter] at begun
  rw [stateAfter_bind]
  cases outcome : first.run state with
  | error cause left => simpa only [outcome] using begun
  | ok value left =>
      rw [outcome] at begun
      exact trans_of related begun (nextRespects value ⟨state, left, outcome⟩ left)

/-- A traversal respects a relation if each of its turns does. -/
theorem Respects.mapM {request : Item → EStateM Cause State Value} {items : List Item}
    (each : ∀ item ∈ items, Respects related (request item)) :
    Respects related (items.mapM request) := by
  induction items with
  | nil => exact .pure []
  | cons item rest inductionHypothesis =>
      have later := inductionHypothesis fun other member =>
        each other (List.mem_cons_of_mem _ member)
      rw [List.mapM_cons]
      refine (each item List.mem_cons_self).bind fun value _ => ?_
      exact later.bind fun values _ => .pure (value :: values)

end Requests

/-! Requests for the items of a list. -/

section Traversals

variable {State Cause Value Item : Type} {request : Item → EStateM Cause State Value}

/-- A traversal of two lists in a row is a traversal of the first and then of the second. -/
theorem run_mapM_append_eq_ok_iff {first second : List Item} {state left : State}
    {values : List Value} :
    ((first ++ second).mapM request).run state = .ok values left ↔
      ∃ begun middle ended, (first.mapM request).run state = .ok begun middle ∧
        (second.mapM request).run middle = .ok ended left ∧ values = begun ++ ended := by
  induction first generalizing state values with
  | nil =>
      constructor
      · intro done
        exact ⟨[], state, values, rfl, done, rfl⟩
      · rintro ⟨_, _, _, begun, done, rfl⟩
        cases begun
        exact done
  | cons item rest inductionHypothesis =>
      rw [List.cons_append]
      simp only [run_mapM_cons_eq_ok_iff, inductionHypothesis]
      constructor
      · rintro ⟨value, next, _, here, ⟨begun, middle, ended, there, last, rfl⟩, rfl⟩
        exact ⟨_, middle, ended, ⟨value, next, begun, here, there, rfl⟩, last, rfl⟩
      · rintro ⟨_, middle, ended, ⟨value, next, begun, here, there, rfl⟩, last, rfl⟩
        exact ⟨value, next, _, here, ⟨begun, middle, ended, there, last, rfl⟩, rfl⟩

/-- A traversal has one result for each item. -/
theorem length_of_mapM {items : List Item} {state left : State} {values : List Value}
    (done : (items.mapM request).run state = .ok values left) : values.length = items.length := by
  induction items generalizing state values with
  | nil =>
      cases done
      rfl
  | cons item rest inductionHypothesis =>
      obtain ⟨_, _, _, _, ended, rfl⟩ := run_mapM_cons_eq_ok_iff.mp done
      rw [List.length_cons, List.length_cons, inductionHypothesis ended]

variable {related : State → State → Prop} [IsPreorder State related]
  (steps : ∀ item {state left : State} {value : Value},
    (request item).run state = .ok value left → related state left)

include steps

/-- A traversal that succeeds relates its first state to its last. -/
theorem related_of_mapM {items : List Item} {state left : State} {values : List Value}
    (done : (items.mapM request).run state = .ok values left) : related state left := by
  induction items generalizing state values with
  | nil =>
      cases done
      exact refl_of related _
  | cons item rest inductionHypothesis =>
      obtain ⟨_, _, _, begun, ended, rfl⟩ := run_mapM_cons_eq_ok_iff.mp done
      exact trans_of related (steps item begun) (inductionHypothesis ended)

/-- Somewhere on the way through a list each of its items has its turn. -/
theorem exists_turn_of_mapM {items : List Item} {state left : State} {values : List Value}
    (done : (items.mapM request).run state = .ok values left) {item : Item} (member : item ∈ items) :
    ∃ before value after, related state before ∧ (request item).run before = .ok value after ∧
      related after left := by
  induction items generalizing state values with
  | nil => contradiction
  | cons first rest inductionHypothesis =>
      obtain ⟨value, middle, _, begun, ended, rfl⟩ := run_mapM_cons_eq_ok_iff.mp done
      obtain rfl | later := List.mem_cons.mp member
      · exact ⟨state, value, middle, refl_of related state, begun, related_of_mapM steps ended⟩
      · obtain ⟨before, other, after, earlier, here, further⟩ := inductionHypothesis ended later
        exact ⟨before, other, after, trans_of related (steps first begun) earlier, here, further⟩

end Traversals

/-! Requests to a part of a larger state. -/

section Parts

variable {Whole Part Cause Value : Type}

/-- The request sees and changes nothing but a part of the state. -/
def onPart (part : Whole → Part) (withPart : Whole → Part → Whole)
    (request : EStateM Cause Part Value) : EStateM Cause Whole Value := fun whole =>
  match request (part whole) with
  | .ok value left => .ok value (withPart whole left)
  | .error cause left => .error cause (withPart whole left)

/-- A request to a part changes that part of the whole and nothing else. -/
theorem stateAfter_onPart (part : Whole → Part) (withPart : Whole → Part → Whole)
    (request : EStateM Cause Part Value) (whole : Whole) :
    stateAfter (onPart part withPart request) whole =
      withPart whole (stateAfter request (part whole)) := by
  unfold stateAfter
  rw [EStateM.run, EStateM.run, onPart]
  cases request (part whole) <;> rfl

/-- A request to a part succeeds just if it does on that part. -/
theorem onPart_eq_ok_iff {part : Whole → Part} {withPart : Whole → Part → Whole}
    {request : EStateM Cause Part Value} {whole left : Whole} {value : Value} :
    (onPart part withPart request).run whole = .ok value left ↔
      ∃ changed, request.run (part whole) = .ok value changed ∧ left = withPart whole changed := by
  rw [EStateM.run, EStateM.run, onPart]
  cases request (part whole) with
  | error cause left => simp
  | ok given left =>
      constructor
      · intro done
        cases done
        exact ⟨left, rfl, rfl⟩
      · rintro ⟨_, same, rfl⟩
        cases same
        rfl

end Parts

section Lifts

variable {Memory Value : Type} {related : Registry → Registry → Prop}

/-- The registry is a part of what a registration changes. -/
theorem RegistrationM.onRegistry_eq_onPart (request : RegistryM Value) :
    (RegistrationM.onRegistry request : RegistrationM Memory Value) =
      onPart RegistrationState.registry (fun state registry => { state with registry }) request := by
  funext state
  unfold RegistrationM.onRegistry onPart
  cases request state.registry <;> rfl

/-- The registration is a part of what loading changes. -/
theorem LoadingM.onRegistration_eq_onPart (request : RegistrationM Memory Value) :
    LoadingM.onRegistration request =
      onPart LoadingState.registration (fun state registration => { state with registration })
        request := by
  funext state
  unfold LoadingM.onRegistration onPart
  cases request state.registration <;> rfl

/-- The registry is a part of the factory. -/
theorem FactoryM.onRegistry_eq_onPart (request : RegistryM Value) :
    FactoryM.onRegistry request =
      onPart BeanFactory.registry (fun factory registry => { factory with registry }) request := by
  funext factory
  unfold FactoryM.onRegistry onPart
  cases request factory.registry <;> rfl

/-- Within a registration a request to the registry succeeds just if it does on the registry. -/
theorem RegistrationM.onRegistry_eq_ok_iff {request : RegistryM Value}
    {state left : RegistrationState Memory} {value : Value} :
    (RegistrationM.onRegistry request).run state = .ok value left ↔
      ∃ registry, request.run state.registry = .ok value registry ∧
        left = { state with registry } := by
  rw [onRegistry_eq_onPart, onPart_eq_ok_iff]

/-- Within loading a registration succeeds just if it does by itself. -/
theorem LoadingM.onRegistration_eq_ok_iff {request : RegistrationM Memory Value}
    {state left : LoadingState Memory} {value : Value} :
    (LoadingM.onRegistration request).run state = .ok value left ↔
      ∃ registration, request.run state.registration = .ok value registration ∧
        left = { state with registration } := by
  rw [onRegistration_eq_onPart, onPart_eq_ok_iff]

/-- A result that is known beforehand comes back with the state unchanged. -/
theorem RegistrationM.ofExcept_eq_ok_iff {result : Except DefinitionError Value}
    {state left : RegistrationState Memory} {value : Value} :
    (RegistrationM.ofExcept result).run state = .ok value left ↔
      result = .ok value ∧ left = state := by
  cases result with
  | error cause => exact iff_of_false nofun nofun
  | ok given =>
      constructor
      · intro done
        cases done
        exact ⟨rfl, rfl⟩
      · rintro ⟨same, rfl⟩
        cases same
        rfl

/-- What a request to the registry respects is respected within a registration. -/
theorem Respects.onRegistry {request : RegistryM Value} (respects : Respects related request) :
    Respects (Order.Preimage RegistrationState.registry related)
      (RegistrationM.onRegistry request : RegistrationM Memory Value) := by
  intro state
  rw [RegistrationM.onRegistry_eq_onPart, stateAfter_onPart]
  exact respects state.registry

/-- What a registration respects is respected within loading. -/
theorem Respects.onRegistration {request : RegistrationM Memory Value}
    (respects : Respects (Order.Preimage RegistrationState.registry related) request) :
    Respects (Order.Preimage (fun state => state.registration.registry) related)
      (LoadingM.onRegistration request : LoadingM Memory Value) := by
  intro state
  rw [LoadingM.onRegistration_eq_onPart, stateAfter_onPart]
  exact respects state.registration

/-- A registration that leaves the registry alone respects every reflexive relation. -/
theorem RegistrationM.KeepsRegistry.respects [IsPreorder Registry related]
    {request : RegistrationM Memory Value} (keeps : KeepsRegistry request) :
    Respects (Order.Preimage RegistrationState.registry related) request := by
  intro state
  have kept := keeps state
  unfold stateAfter Order.Preimage
  cases outcome : request.run state <;>
  · simp only [outcome] at kept
    rw [kept]
    exact refl_of related state.registry

end Lifts

end BeanContainer
