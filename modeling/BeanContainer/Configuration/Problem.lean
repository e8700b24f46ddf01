/-
This file holds configuration problems and the reporters that receive them.
-/

import BeanContainer.Definition.Bean

namespace BeanContainer

inductive Severity where
  | warning
  | error
  | fatal
deriving DecidableEq

def Severity.name : Severity → String
  | .warning => "Warning"
  | .error => "Error"
  | .fatal => "Fatal"

def Severity.ofName? (name : String) : Option Severity :=
  [Severity.warning, .error, .fatal].find? fun severity => severity.name == name

structure Problem where
  message : String
  location : SourceLocation
deriving DecidableEq

def Problem.text (problem : Problem) : String :=
  s!"配置问题: {problem.message} (位置: {problem.location.text})"

def Problem.asError (problem : Problem) : DefinitionError :=
  .problemReported problem.message problem.location.text

/-- A reporter either stops at the first problem above a warning or keeps all problems. -/
inductive ProblemReporter where
  | failFast
  | collecting (problems : List (Severity × Problem))
deriving DecidableEq

namespace ProblemReporter

def collector : ProblemReporter := .collecting []

/-- The problems that the reporter holds, in the order of their reports. -/
def problems : ProblemReporter → List (Severity × Problem)
  | .failFast => []
  | .collecting problems => problems

def hasErrors (reporter : ProblemReporter) : Bool :=
  reporter.problems.any fun entry => entry.1 != .warning

def report (reporter : ProblemReporter) (severity : Severity) (problem : Problem) :
    Except DefinitionError ProblemReporter :=
  match reporter, severity with
  | .failFast, .warning => .ok .failFast
  | .failFast, _ => .error problem.asError
  | .collecting problems, severity => .ok (.collecting (problems ++ [(severity, problem)]))

/-- Reports each problem as an error until the reporter refuses one. -/
def reportAll (reporter : ProblemReporter) (found : List Problem) :
    Except DefinitionError ProblemReporter :=
  found.foldlM (fun current problem => current.report .error problem) reporter

end ProblemReporter

end BeanContainer
