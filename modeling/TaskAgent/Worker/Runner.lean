import TaskAgent.Job.Registry
import TaskAgent.Message.Command
import TaskAgent.Task.Signal

/-!
# Runners

A runner takes one accepted task from the queue to its end. It waits for a slot, starts, works,
commits itself to report how the task ended, reports it and leaves. At two of these steps the
signal of its task decides whether it goes on: an interruption before the start makes it leave at
once, one before the commitment makes it leave without a report.
-/

namespace TaskAgent

/-- What is asked of an agent when it is given a task. -/
structure Submission where
  /-- The task. -/
  key : TaskKey
  /-- Its job. -/
  config : JobConfig
  /-- Its arguments. -/
  arguments : Json
  /-- The directory for its temporary files. -/
  scratch : String

/-- How far a runner has come. -/
inductive Stage where
  /-- It waits for a slot. -/
  | waiting
  /-- It was given a slot. -/
  | admitted
  /-- It was turned away from a closed pool. -/
  | refused
  /-- It does its job. -/
  | working (definition : Definition)
  /-- It knows how the task ended. -/
  | ended (outcome : Outcome)
  /-- It is bound to report how the task ended. -/
  | reporting (outcome : Outcome)
  /-- It has nothing left to do but to leave. -/
  | leaving
  /-- It has left. -/
  | gone

/-- A runner of one task. -/
structure Runner where
  /-- The task and what is to be done. -/
  submission : Submission
  /-- Where the task stands towards interruptions. -/
  signal : Signal
  /-- How far it has come. -/
  stage : Stage
  /-- Whether it holds a slot. -/
  slot : Bool

namespace Runner

/-- The runner of a task just accepted. -/
def ofSubmission (submission : Submission) : Runner := ⟨submission, .queued, .waiting, false⟩

/-- Whether it waits for a slot. -/
def isWaiting (runner : Runner) : Bool :=
  match runner.stage with
  | .waiting => true
  | _ => false

/-- What a runner with a slot does first: its job, if the job is known. -/
def beginning (registry : Registry) (config : JobConfig) : Stage :=
  match registry.find? config.name with
  | some definition => .working definition
  | none => .ended (.error (.unknownJob config.name))

/-- The runner after its start, if it is about to start. -/
def start? (registry : Registry) (runner : Runner) : Option Runner :=
  match runner.stage, runner.signal.start? with
  | .admitted, some signal =>
    some { runner with signal, stage := beginning registry runner.submission.config }
  | .refused, some signal => some { runner with signal, stage := .ended (.error .poolClosed) }
  | .admitted, none => some { runner with stage := .leaving }
  | .refused, none => some { runner with stage := .leaving }
  | _, _ => none

/-- The runner after its job entered or left a shielded section. -/
def change? (change : Signal → Signal) (runner : Runner) : Option Runner :=
  match runner.stage with
  | .working _ => some { runner with signal := change runner.signal }
  | _ => none

/-- The runner after its job ended. -/
def finish? (outcome : Outcome) (runner : Runner) : Option Runner :=
  match runner.stage with
  | .working _ => some { runner with stage := .ended outcome }
  | _ => none

/-- The runner after it tried to commit itself to its report. -/
def commit? (runner : Runner) : Option Runner :=
  match runner.stage with
  | .ended outcome =>
    match runner.signal.commit? with
    | some signal => some { runner with signal, stage := .reporting outcome }
    | none => some { runner with stage := .leaving }
  | _ => none

end Runner

end TaskAgent
