/-
This file says which classes of a model have a problem, and what each kind of reporter makes of the
problems.
-/

import BeanContainer.Configuration.Model

namespace BeanContainer

namespace ProblemReporter

/-- The first problem is the cause of the refusal, and no other is looked at. -/
theorem reportAll_failFast (found : List Problem) :
    ProblemReporter.failFast.reportAll found =
      match found with
      | [] => .ok .failFast
      | problem :: _ => .error problem.asError := by
  cases found <;> rfl

/-- All problems are kept as errors, after those that the reporter holds already. -/
theorem reportAll_collecting (held : List (Severity × Problem)) (found : List Problem) :
    (ProblemReporter.collecting held).reportAll found =
      .ok (.collecting (held ++ found.map fun problem => (Severity.error, problem))) := by
  induction found generalizing held with
  | nil => simp [reportAll, pure, Except.pure]
  | cons problem rest inductionHypothesis =>
      have later := inductionHypothesis (held ++ [(Severity.error, problem)])
      rw [List.append_assoc] at later
      exact later

end ProblemReporter

namespace ConfigurationModel

/-- A reporter that fails fast ends the check at the first problem. -/
theorem validate_failFast (model : ConfigurationModel) :
    model.validate .failFast =
      match model.problems with
      | [] => .ok (0, .failFast)
      | problem :: _ => .error problem.asError := by
  unfold validate
  dsimp only
  rw [ProblemReporter.reportAll_failFast]
  cases model.problems <;> rfl

/-- A collecting reporter takes in all problems behind those that it holds, and counts them. -/
theorem validate_collecting (model : ConfigurationModel) (held : List (Severity × Problem)) :
    model.validate (.collecting held) =
      .ok (model.problems.length,
        .collecting (held ++ model.problems.map fun problem => (Severity.error, problem))) := by
  unfold validate
  dsimp only
  rw [ProblemReporter.reportAll_collecting]
  rfl

end ConfigurationModel

/-! Where the problems are located. -/

/-- A class is reported itself just if it is full and final. -/
theorem ConfigurationClass.reports_iff {configuration : ConfigurationClass}
    {location : SourceLocation} :
    (∃ problem ∈ configuration.problems, problem.location = location) ↔
      (configuration.isFull = true ∧ configuration.metadata.isFinal = true) ∧
        location = { resource := configuration.className } := by
  unfold problems
  rw [← Bool.and_eq_true]
  split <;> simp [*, eq_comm]

/-- A problem of a method is not one of its class. -/
theorem BeanMethod.element_of_problem {method : BeanMethod} {model : ConfigurationModel}
    {problem : Problem} (member : problem ∈ method.problems model) :
    problem.location.element = some method.name := by
  unfold problems at member
  split at member
  · cases member
  · split at member
    · cases member
    · split at member
      · rw [List.mem_singleton.mp member]
        rfl
      · cases member

/-- Just the final full classes of a model are reported under their names. -/
theorem ConfigurationModel.reports_iff {model : ConfigurationModel} {className : String} :
    (∃ problem ∈ model.problems, problem.location = { resource := className }) ↔
      ∃ metadata ∈ model.classes.map ConfigurationClass.metadata, metadata.className = className ∧
        metadata.isFullConfiguration = true ∧ metadata.isFinal = true := by
  constructor
  · rintro ⟨problem, member, located⟩
    obtain ⟨configuration, listed, found⟩ := List.mem_flatMap.mp member
    obtain ofClass | ofMethod := List.mem_append.mp found
    · obtain ⟨⟨full, final⟩, same⟩ :=
        ConfigurationClass.reports_iff.mp ⟨problem, ofClass, located⟩
      obtain rfl := (SourceLocation.mk.inj same).1
      exact ⟨configuration.metadata, List.mem_map_of_mem listed, rfl, full, final⟩
    · obtain ⟨method, _, atMethod⟩ := List.mem_flatMap.mp ofMethod
      have element := BeanMethod.element_of_problem atMethod
      rw [located] at element
      contradiction
  · rintro ⟨_, listed, rfl, full, final⟩
    obtain ⟨configuration, ofModel, rfl⟩ := List.mem_map.mp listed
    obtain ⟨problem, found, located⟩ :=
      ConfigurationClass.reports_iff.mpr ⟨⟨full, final⟩, rfl⟩
    exact ⟨problem, List.mem_flatMap.mpr ⟨configuration, ofModel, List.mem_append_left _ found⟩,
      located⟩

end BeanContainer
