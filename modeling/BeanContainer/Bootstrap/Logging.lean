/-
This file holds the logging presets of a container.
-/

namespace BeanContainer

inductive LogLevel where
  | info
  | debug
deriving DecidableEq

def LogLevel.name : LogLevel → String
  | .info => "INFO"
  | .debug => "DEBUG"

structure LoggingConfig where
  level : LogLevel := .info
  showTarget : Bool := true
  showThreadIds : Bool := false
  showFile : Bool := false
  showLineNumber : Bool := false
  json : Bool := false
deriving DecidableEq

namespace LoggingConfig

/-- Development shows where each line comes from. -/
def development : LoggingConfig :=
  { level := .debug, showThreadIds := true, showFile := true, showLineNumber := true }

/-- Production writes for machines. -/
def production : LoggingConfig := { showTarget := false, json := true }

end LoggingConfig

end BeanContainer
