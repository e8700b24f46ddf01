/-
This file compares a start that ends at the first problem with one that collects all problems.
Apart from the problems both do the same work, and the check of the model stands between the
components and the beans that the model adds.
-/

import BeanContainer.Proofs.Bootstrap.Outcome
import BeanContainer.Proofs.Configuration.Validation

namespace BeanContainer

namespace Bootstrap

/-- The problems of the model that is checked. There is no such model where a component is
refused. -/
def problemsFound (input : BootstrapInput) : List Problem :=
  match componentFactory input with
  | .ok (_, componentNames) => (input.model componentNames).problems
  | .error _ => []

/-- What a start does besides the check. -/
def loadedFactory (input : BootstrapInput) : Except DefinitionError BeanFactory := do
  let (factory, componentNames) ← componentFactory input
  let (factory, _) ← loadModel factory (input.model componentNames)
  return factory

/-! The two ways to treat problems. -/

/-- The problems are handed over with the container. -/
def collected (work : Except DefinitionError BeanFactory) (found : List Problem) :
    Except DefinitionError Context :=
  work.map fun factory =>
    { factory, problems := found.map fun problem => (Severity.error, problem) }

/-- The first problem stands in for whatever the work leads to. -/
def stopped (work : Except DefinitionError BeanFactory) (found : List Problem) :
    Except DefinitionError Context :=
  match found with
  | [] => collected work []
  | problem :: _ => .error problem.asError

/-- The cause of a refusal, which is the first problem if there is one. -/
def foremost (found : List Problem) (cause : DefinitionError) : DefinitionError :=
  match found with
  | [] => cause
  | problem :: _ => problem.asError

section Treatments

variable {work : Except DefinitionError BeanFactory} {found : List Problem} {context : Context}

/-- A patient start lists all that was found, as errors. -/
theorem problems_of_collected (started : collected work found = .ok context) :
    context.problems = found.map fun problem => (Severity.error, problem) := by
  cases work with
  | error cause => contradiction
  | ok factory =>
      cases started
      rfl

/-- The start that stops succeeds just if the patient one does without a problem. -/
theorem stopped_eq_ok_iff :
    stopped work found = .ok context ↔
      collected work found = .ok context ∧ context.problems = [] := by
  cases found with
  | nil =>
      constructor
      · intro started
        exact ⟨started, problems_of_collected started⟩
      · exact And.left
  | cons problem rest =>
      constructor
      · intro started
        contradiction
      · rintro ⟨started, none⟩
        rw [problems_of_collected started] at none
        contradiction

/-- The start that stops is refused for the first problem that the patient one lists. -/
theorem stopped_of_problem {severity : Severity} {problem : Problem}
    {rest : List (Severity × Problem)} (started : collected work found = .ok context)
    (first : context.problems = (severity, problem) :: rest) :
    stopped work found = .error problem.asError := by
  rw [problems_of_collected started] at first
  cases found with
  | nil => contradiction
  | cons other later =>
      cases first
      rfl

/-- Where the patient start fails, the other one fails for the first problem or for the same
cause. -/
theorem stopped_of_error {cause : DefinitionError} (failed : collected work found = .error cause) :
    stopped work found = .error (foremost found cause) := by
  cases found with
  | nil => exact failed
  | cons problem rest => rfl

end Treatments

variable {input : BootstrapInput}

/-- A start that does not fail fast collects. -/
theorem outcome_collecting (patient : input.failFast = false) :
    outcome input = collected (loadedFactory input) (problemsFound input) := by
  unfold outcome loadedFactory problemsFound reporter
  rw [patient]
  cases componentFactory input with
  | error cause => rfl
  | ok components =>
      obtain ⟨factory, names⟩ := components
      simp only [bind, Except.bind, Bool.false_eq_true, ↓reduceIte, ProblemReporter.collector]
      rw [ConfigurationModel.validate_collecting]
      dsimp only
      cases loadModel factory (input.model names) <;> rfl

/-- A start that fails fast stops. -/
theorem outcome_failFast (failFast : input.failFast = true) :
    outcome input = stopped (loadedFactory input) (problemsFound input) := by
  unfold outcome loadedFactory problemsFound reporter
  rw [failFast]
  cases componentFactory input with
  | error cause => rfl
  | ok components =>
      obtain ⟨factory, names⟩ := components
      simp only [bind, Except.bind, ↓reduceIte]
      rw [ConfigurationModel.validate_failFast]
      cases (input.model names).problems with
      | nil =>
          dsimp only
          cases loadModel factory (input.model names) <;> rfl
      | cons problem rest => rfl

end Bootstrap

namespace ContainerBuilder

def withFailFast (builder : ContainerBuilder) (failFast : Bool) : ContainerBuilder :=
  { builder with failFast := some failFast }

/-- Failing fast only changes when problems are reported. Without problems both starts lead to the
same container, and otherwise the first problem takes the place of the container or of a later
failure. -/
theorem build_failFast_iff (builder : ContainerBuilder) (shared : ContainerProperties) :
    let start (failFast : Bool) := ((builder.withFailFast failFast).build shared).1
    (∀ context, start true = .ok context ↔ start false = .ok context ∧ context.problems = []) ∧
      (∀ context severity problem rest, start false = .ok context →
        context.problems = (severity, problem) :: rest →
        start true =
          .error (.definition (.problemReported problem.message problem.location.text))) ∧
      ∀ cause, start false = .error cause →
        start true =
          .error
            (match Bootstrap.problemsFound (builder.input shared) with
            | [] => cause
            | problem :: _ =>
                .definition (.problemReported problem.message problem.location.text)) := by
  dsimp only
  have patient : Bootstrap.outcome ((builder.withFailFast false).input shared) =
      Bootstrap.collected (Bootstrap.loadedFactory (builder.input shared))
        (Bootstrap.problemsFound (builder.input shared)) :=
    Bootstrap.outcome_collecting rfl
  have hasty : Bootstrap.outcome ((builder.withFailFast true).input shared) =
      Bootstrap.stopped (Bootstrap.loadedFactory (builder.input shared))
        (Bootstrap.problemsFound (builder.input shared)) :=
    Bootstrap.outcome_failFast rfl
  refine ⟨fun context => ?_, fun context severity problem rest started first => ?_,
    fun cause failed => ?_⟩
  · rw [build_eq_ok_iff, build_eq_ok_iff, hasty, patient]
    exact Bootstrap.stopped_eq_ok_iff
  · rw [build_eq_ok_iff, patient] at started
    rw [build_eq_error_iff, hasty]
    exact ⟨_, Bootstrap.stopped_of_problem started first, rfl⟩
  · rw [build_eq_error_iff, patient] at failed
    obtain ⟨given, failed, rfl⟩ := failed
    rw [build_eq_error_iff, hasty]
    refine ⟨_, Bootstrap.stopped_of_error failed, ?_⟩
    cases Bootstrap.problemsFound (builder.input shared) <;> rfl

/-- No subclass can intercept the methods of this shop. -/
def finalShop : ContainerBuilder :=
  let shop : ClassMetadata :=
    { className := "shop.Config"
      annotations := .ofDescriptors [.configuration none true]
      isFinal := true }
  let cart : MethodMetadata :=
    { methodName := "cart"
      declaringClassName := "shop.Config"
      annotations := .ofDescriptors [.bean []] }
  { ({} : ContainerBuilder).addConfiguration shop [cart] with allowOverriding := some false }

/-- Here a component has the name of the cart that the shop makes. -/
def crowdedShop : ContainerBuilder :=
  finalShop.addComponent { className := "shop.Cart", annotations := .bare }

/-- The problem of the shop is on the list of its container, ends a hasty start, and comes before the
failure of the cart. -/
theorem final_shop_reported :
    let shared : ContainerProperties := { systemTier := fun _ => none }
    (∃ context problem,
      ((finalShop.withFailFast false).build shared).1 = .ok context ∧
        context.problems = [(Severity.error, problem)] ∧
        ((finalShop.withFailFast true).build shared).1 =
          .error (.definition (.problemReported problem.message problem.location.text))) ∧
    ∃ cause problem rest,
      ((crowdedShop.withFailFast false).build shared).1 = .error cause ∧
        Bootstrap.problemsFound (crowdedShop.input shared) = problem :: rest ∧
        ((crowdedShop.withFailFast true).build shared).1 =
          .error (.definition (.problemReported problem.message problem.location.text)) := by
  intro shared
  constructor
  · have seen : ((finalShop.withFailFast false).build shared).1.toOption.map
        (fun context => context.problems.map Prod.fst) = some [Severity.error] := by
      decide +kernel
    obtain ⟨context, started, listed⟩ := exists_of_seen seen
    obtain ⟨⟨severity, problem⟩, same, isError⟩ := List.map_eq_singleton_iff.mp listed
    cases isError
    have stopped := (build_failFast_iff finalShop shared).2.1 context _ problem [] started same
    exact ⟨context, problem, started, same, stopped⟩
  · have unseen : ((crowdedShop.withFailFast false).build shared).1.toOption.isNone = true := by
      decide +kernel
    have located : (Bootstrap.problemsFound (crowdedShop.input shared)).head?.map
        (fun problem => problem.location.text) = some "shop.Config" := by
      decide +kernel
    obtain ⟨cause, ended⟩ := exists_of_unseen unseen
    obtain ⟨problem, first, _⟩ := Option.map_eq_some_iff.mp located
    obtain ⟨rest, found⟩ := List.head?_eq_some_iff.mp first
    have replaced := (build_failFast_iff crowdedShop shared).2.2 cause ended
    rw [found] at replaced
    exact ⟨cause, problem, rest, ended, found, replaced⟩

end ContainerBuilder

end BeanContainer
