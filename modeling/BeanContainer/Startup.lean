/-
This file records the steps of a start. A step belongs to whoever began it and enters the record
when it is first ended.
-/

namespace BeanContainer

structure RecordedStep where
  id : UInt64
  name : String
  tags : List (String × String) := []
deriving DecidableEq

/-- The record holds ended steps in the order of their ends. -/
inductive StartupRecorder where
  | silent
  | recording (lastId : UInt64) (steps : List RecordedStep)
deriving DecidableEq

inductive StartupStep where
  | silent
  | running (record : RecordedStep)
  | ended (record : RecordedStep)
deriving DecidableEq

namespace StartupStep

def id : StartupStep → UInt64
  | .silent => 0
  | .running record => record.id
  | .ended record => record.id

def name : StartupStep → String
  | .silent => ""
  | .running record => record.name
  | .ended record => record.name

/-- A tag on an ended step no longer reaches the record. -/
def tag (step : StartupStep) (key value : String) : StartupStep :=
  match step with
  | .silent => .silent
  | .running record => .running { record with tags := record.tags ++ [(key, value)] }
  | .ended record => .ended { record with tags := record.tags ++ [(key, value)] }

end StartupStep

namespace StartupRecorder

def new : StartupRecorder := .recording 0 []

def steps : StartupRecorder → List RecordedStep
  | .silent => []
  | .recording _ steps => steps

/-- Identifiers count up from one. -/
def start (recorder : StartupRecorder) (name : String) : StartupStep × StartupRecorder :=
  match recorder with
  | .silent => (.silent, .silent)
  | .recording lastId steps =>
      (.running { id := lastId + 1, name }, .recording (lastId + 1) steps)

/-- Ending a step again changes nothing. -/
def finish (recorder : StartupRecorder) (step : StartupStep) : StartupStep × StartupRecorder :=
  match recorder, step with
  | .recording lastId steps, .running record =>
      (.ended record, .recording lastId (steps ++ [record]))
  | recorder, step => (step, recorder)

end StartupRecorder

/-- A recorder and the steps begun with it, in the order of their starts. -/
structure StartupRun where
  recorder : StartupRecorder
  steps : List StartupStep := []
deriving DecidableEq

namespace StartupRun

def start (run : StartupRun) (name : String) : StartupRun :=
  let (step, recorder) := run.recorder.start name
  { recorder, steps := run.steps ++ [step] }

/-- A place without a step is left alone. -/
def tag (run : StartupRun) (place : Nat) (key value : String) : StartupRun :=
  { run with steps := run.steps.modify place fun step => step.tag key value }

/-- A place without a step is left alone. -/
def finish (run : StartupRun) (place : Nat) : StartupRun :=
  match run.steps[place]? with
  | some step =>
      let (ended, recorder) := run.recorder.finish step
      { recorder, steps := run.steps.set place ended }
  | none => run

end StartupRun

end BeanContainer
