/-
This file describes configuration problems and configuration models as JSON.
-/

import BeanContainer.Configuration.Model
import BeanContainer.Report.Fault

namespace BeanContainer

def Problem.report (problem : Problem) : Json :=
  .object [
    ("message", .string problem.message),
    ("location", .string problem.location.text),
    ("text", .string problem.text)]

def Json.ofProblems (problems : List Problem) : Json := .array (problems.map (·.report))

/-- The problems that the reporter holds, each after its severity. -/
def ProblemReporter.problemReport (reporter : ProblemReporter) : Json :=
  .array (reporter.problems.map fun (severity, problem) =>
    .array [.string severity.name, problem.report])

namespace BeanMethod

/-- The method is described within the model and, beside it, without one. -/
def report (method : BeanMethod) (model : ConfigurationModel) : Json :=
  .object [
    ("name", .string method.name),
    ("configuration_class", .ofNat method.configurationClass),
    ("location", .string (method.location model).text),
    ("orphan_location", .string (method.location {}).text),
    ("orphan_problems", .ofProblems (method.problems {})),
    ("problems", .ofProblems (method.problems model)),
    ("validate", .ofOutcome (fun _ => .null) (method.validate model .failFast))]

end BeanMethod

def ConfigurationClass.report (configuration : ConfigurationClass) (model : ConfigurationModel) :
    Json :=
  .object [
    ("id", .ofNat configuration.id),
    ("class_name", .string configuration.className),
    ("bean_name", .ofText? configuration.beanName),
    ("full", .bool configuration.isFull),
    ("problems", .ofProblems configuration.problems),
    ("methods", .array (configuration.beanMethods.map fun method => method.report model))]

namespace ConfigurationModel

/-- The number of problems that the reporter lets through. -/
def countReport (model : ConfigurationModel) (reporter : ProblemReporter) : Json :=
  .ofOutcome (fun found => .ofNat found.1) (model.validate reporter)

/-- The collector after the model is validated; it refuses nothing. -/
def collected (model : ConfigurationModel) : ProblemReporter :=
  match model.validate .collector with
  | .ok (_, reporter) => reporter
  | .error _ => .collector

def report (model : ConfigurationModel) : Json :=
  .object [
    ("len", .ofNat model.classes.length),
    ("empty", .bool model.classes.isEmpty),
    ("classes", .array (model.classes.map fun configuration => configuration.report model)),
    ("problems", .ofProblems model.problems),
    ("collecting", model.countReport .collector),
    ("has_errors", .bool model.collected.hasErrors),
    ("collected", .ofNat model.collected.problems.length),
    ("fail_fast", model.countReport .failFast)]

end ConfigurationModel

end BeanContainer
