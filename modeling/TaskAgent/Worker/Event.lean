import TaskAgent.Worker.State

/-!
# Events

Everything that can happen to a worker, and what comes of any sequence of it. Runners move
independently of each other, so a run is any sequence of events of which each can happen where it
stands (`Worker.run?`).
-/

namespace TaskAgent

/-- A single step in the life of a worker. -/
inductive Event where
  /-- A task is submitted. -/
  | submit (submission : Submission)
  /-- A task is called off. -/
  | cancel (key : TaskKey)
  /-- A task is said from outside to have completed. -/
  | complete (key : TaskKey) (result : Json)
  /-- A task is said from outside to have failed. -/
  | fail (key : TaskKey) (message : String)
  /-- The records that changed are handed over. -/
  | drain
  /-- Records are taken back. -/
  | restore (records : List TaskRecord)
  /-- The pool is closed. -/
  | close
  /-- A job is made known. -/
  | register (name : String) (definition : Definition)
  /-- A runner is given a slot. -/
  | grant (number : Nat)
  /-- A runner is turned away. -/
  | refuse (number : Nat)
  /-- A runner starts. -/
  | start (number : Nat)
  /-- A job enters a shielded section. -/
  | enter (number : Nat)
  /-- A job leaves its shielded section. -/
  | leave (number : Nat)
  /-- A job ends. -/
  | finish (number : Nat) (outcome : Outcome)
  /-- A runner tries to commit itself to its report. -/
  | commit (number : Nat)
  /-- A runner reports. -/
  | report (number : Nat)
  /-- A runner leaves. -/
  | exit (number : Nat)

namespace Worker

/-- The worker after an event, if the event can happen. -/
def step? (worker : Worker) : Event → Option Worker
  | .submit submission => some (worker.submit submission)
  | .cancel key => some (worker.cancel key)
  | .complete key result =>
    match worker.complete key result with
    | .ok changed => some changed
    | .error _ => some worker
  | .fail key message =>
    match worker.fail key message with
    | .ok changed => some changed
    | .error _ => some worker
  | .drain => some worker.drain.2
  | .restore records => some (worker.restore records)
  | .close => some worker.close
  | .register name definition => some (worker.register name definition)
  | .grant number => worker.grant? number
  | .refuse number => worker.refuse? number
  | .start number => worker.start? number
  | .enter number => worker.enter? number
  | .leave number => worker.leave? number
  | .finish number outcome => worker.finish? number outcome
  | .commit number => worker.commit? number
  | .report number => worker.report? number
  | .exit number => worker.exit? number

/-- The worker after a sequence of events, if they can happen one after the other. -/
def run? (worker : Worker) : List Event → Option Worker
  | [] => some worker
  | event :: rest =>
    match worker.step? event with
    | some changed => changed.run? rest
    | none => none

end Worker

end TaskAgent
