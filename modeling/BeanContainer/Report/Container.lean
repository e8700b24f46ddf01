/-
This file describes a started container, its record and its settings as JSON.
-/

import BeanContainer.Bootstrap.Context
import BeanContainer.Bootstrap.Logging
import BeanContainer.Properties.Store
import BeanContainer.Report.Configuration
import BeanContainer.Report.Naming
import BeanContainer.Startup

namespace BeanContainer

def StartupStep.report (step : StartupStep) : Json :=
  .object [("id", .ofNat step.id.toNat), ("name", .string step.name)]

def StartupRecorder.report (recorder : StartupRecorder) : Json :=
  .array (recorder.steps.map fun step =>
    .object [
      ("id", .ofNat step.id.toNat),
      ("name", .string step.name),
      ("tags", .array (step.tags.map fun (key, value) => .ofTexts [key, value]))])

def LoggingConfig.report (config : LoggingConfig) : Json :=
  .object [
    ("level", .string config.level.name),
    ("target", .bool config.showTarget),
    ("thread_ids", .bool config.showThreadIds),
    ("file", .bool config.showFile),
    ("line", .bool config.showLineNumber),
    ("json", .bool config.json)]

def LocalProperties.report (properties : LocalProperties) : Json :=
  .object [
    ("all", .object (properties.entries.entries.map fun (key, value) => (key, .string value))),
    ("len", .ofNat properties.size),
    ("empty", .bool (properties.size == 0)),
    ("origin", .ofText? properties.origin)]

/-- The text of a setting and whether it switches a flag on. -/
def ContainerProperties.settingReport (properties : ContainerProperties) (key : String) : Json :=
  .array [.ofText? (properties.get? key), .bool (properties.flag key)]

namespace Context

def lookUpReport (context : Context) (name : String) : Json :=
  .array [.bool (context.contains name),
    match context.definition name with
    | .ok definition => .string definition.resourceDescription
    | .error cause => cause.report]

def ensureReport (context : Context) : Json :=
  match context.ensureNoProblems with
  | .ok () => .object [("ok", .null)]
  | .error cause => cause.report

def members (context : Context) : List (String × Json) := [
  ("user", .ofTexts context.userBeanNames),
  ("infrastructure", .ofTexts context.infrastructureBeanNames),
  ("count", .ofNat context.count),
  ("has_problems", .bool context.hasProblems),
  ("problems", (ProblemReporter.collecting context.problems).problemReport),
  ("ensure", context.ensureReport),
  ("debug", .string context.text),
  ("state", context.factory.registry.report context.userBeanNames)]

end Context

end BeanContainer
