import TaskAgent.Worker.Pool
import TaskAgent.Worker.Runner
import TaskAgent.Worker.Tracker

/-!
# Workers

A worker is a pool, a tracker, the known jobs and the runners of all tasks that were ever
accepted, in order of acceptance; a runner is known by its place in that order. What can happen
to a worker happens in single steps, each of which is a function here; those that need a runner
at a certain stage give nothing when it is not there.
-/

namespace TaskAgent

/-- The part of an agent that runs tasks. -/
structure Worker where
  /-- The known jobs. -/
  registry : Registry
  /-- The slots. -/
  pool : Pool
  /-- The records. -/
  tracker : Tracker
  /-- The runners, in order of acceptance. -/
  runners : List Runner

/-- What is said of a task that was called off while it could not be interrupted. -/
def refusedCancelMessage : String := "Failed to cancel the task"

namespace Worker

/-- A worker without tasks. -/
def make (pool : Pool) (registry : Registry) (address : Address) : Worker :=
  ⟨registry, pool, .ofAddress address, []⟩

/-- The worker with another runner in a place. -/
def setRunner (worker : Worker) (number : Nat) (runner : Runner) : Worker :=
  { worker with runners := worker.runners.set number runner }

/-! ### What is asked from outside -/

/-- A task is submitted; one in flight is left alone. -/
def submit (worker : Worker) (submission : Submission) : Worker :=
  if worker.tracker.isInFlight submission.key then worker
  else
    { worker with
      pool := worker.pool.enqueue
      tracker := worker.tracker.accept submission.key worker.runners.length
      runners := worker.runners ++ [.ofSubmission submission] }

/-- A task is called off. It ends at once, canceled or, out of a shielded section, failed, unless
its end was decided before. -/
def cancel (worker : Worker) (key : TaskKey) : Worker :=
  match worker.tracker.handles.find? key, worker.tracker.unfinished.find? key with
  | some number, some record =>
    match worker.runners[number]? with
    | some runner =>
      let (interruption, signal) := runner.signal.interrupt
      let changed := worker.setRunner number { runner with signal }
      match interruption with
      | .accepted => { changed with tracker := worker.tracker.finish key record.cancel }
      | .refused =>
        { changed with tracker := worker.tracker.finish key (record.fail refusedCancelMessage) }
      | .tooLate => changed
    | none => worker
  | _, _ => worker

/-- A task is said to have completed. -/
def complete (worker : Worker) (key : TaskKey) (result : Json) : Except Violation Worker :=
  (worker.tracker.complete key result).map fun tracker => { worker with tracker }

/-- A task is said to have failed. -/
def fail (worker : Worker) (key : TaskKey) (message : String) : Except Violation Worker :=
  (worker.tracker.fail key message).map fun tracker => { worker with tracker }

/-- The records that changed are handed over. -/
def drain (worker : Worker) : List TaskRecord × Worker :=
  let (records, tracker) := worker.tracker.drain
  (records, { worker with tracker })

/-- Records that did not arrive are taken back. -/
def restore (worker : Worker) (records : List TaskRecord) : Worker :=
  { worker with tracker := worker.tracker.restore records }

/-- The pool is closed. -/
def close (worker : Worker) : Worker := { worker with pool := worker.pool.close }

/-- A job is made known. -/
def register (worker : Worker) (name : String) (definition : Definition) : Worker :=
  { worker with registry := worker.registry.insert name definition }

/-! ### What the runners do -/

/-- A waiting runner is given a slot. -/
def grant? (worker : Worker) (number : Nat) : Option Worker :=
  match worker.runners[number]? with
  | some runner =>
    if runner.isWaiting && !worker.pool.closed && decide (0 < worker.pool.available) then
      some { worker.setRunner number { runner with stage := .admitted, slot := true } with
        pool := worker.pool.grant }
    else none
  | none => none

/-- A waiting runner is turned away from a closed pool. -/
def refuse? (worker : Worker) (number : Nat) : Option Worker :=
  match worker.runners[number]? with
  | some runner =>
    if runner.isWaiting && worker.pool.closed then
      some { worker.setRunner number { runner with stage := .refused } with
        pool := worker.pool.refuse }
    else none
  | none => none

/-- A step that concerns one runner alone. -/
def changeRunner? (worker : Worker) (number : Nat) (change : Runner → Option Runner) :
    Option Worker :=
  match worker.runners[number]? with
  | some runner => (change runner).map (worker.setRunner number)
  | none => none

/-- A runner starts. -/
def start? (worker : Worker) (number : Nat) : Option Worker :=
  worker.changeRunner? number (Runner.start? worker.registry)

/-- The job of a runner enters a shielded section. -/
def enter? (worker : Worker) (number : Nat) : Option Worker :=
  worker.changeRunner? number (Runner.change? Signal.enter)

/-- The job of a runner leaves the shielded section. -/
def leave? (worker : Worker) (number : Nat) : Option Worker :=
  worker.changeRunner? number (Runner.change? Signal.leave)

/-- The job of a runner ends. -/
def finish? (worker : Worker) (number : Nat) (outcome : Outcome) : Option Worker :=
  worker.changeRunner? number (Runner.finish? outcome)

/-- A runner tries to commit itself to its report. -/
def commit? (worker : Worker) (number : Nat) : Option Worker :=
  worker.changeRunner? number Runner.commit?

/-- The tracker after the report of how a task ended; a task that is not in flight any more is
left alone. -/
def reported (tracker : Tracker) (key : TaskKey) (outcome : Outcome) : Tracker :=
  let after :=
    match outcome with
    | .ok result => tracker.complete key result
    | .error failure => tracker.fail key failure.message
  match after with
  | .ok changed => changed
  | .error _ => tracker

/-- A runner that committed itself reports. -/
def report? (worker : Worker) (number : Nat) : Option Worker :=
  match worker.runners[number]? with
  | some runner =>
    match runner.stage with
    | .reporting outcome =>
      some { worker.setRunner number { runner with stage := .leaving } with
        tracker := reported worker.tracker runner.submission.key outcome }
    | _ => none
  | none => none

/-- A runner leaves and gives back its slot. -/
def exit? (worker : Worker) (number : Nat) : Option Worker :=
  match worker.runners[number]? with
  | some runner =>
    match runner.stage with
    | .leaving =>
      some { worker.setRunner number { runner with stage := .gone, slot := false } with
        pool := if runner.slot then worker.pool.release else worker.pool }
    | _ => none
  | none => none

end Worker

end TaskAgent
