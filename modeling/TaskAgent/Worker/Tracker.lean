import TaskAgent.Task.Record

/-!
# Trackers

A tracker knows which tasks are in flight and which records changed since they were last handed
over. A task is in flight from its acceptance until it has a final record: `finish` is the only
way out, and it leaves the final record among the changes, in place of an older one.

Changes that did not arrive are restored without touching the newer ones.
-/

namespace TaskAgent

/-- The records of an agent's tasks. -/
structure Tracker where
  /-- Where the agent can be reached; every record carries it. -/
  address : Address
  /-- The runner of every task in flight, by its number. -/
  handles : Ledger TaskKey Nat
  /-- The record of every task in flight. -/
  unfinished : Ledger TaskKey TaskRecord
  /-- The records that changed. -/
  updates : Ledger TaskKey TaskRecord

/-- A report about a task that is not in flight. -/
inductive Violation where
  /-- It is said to have completed. -/
  | complete (key : TaskKey)
  /-- It is said to have failed. -/
  | fail (key : TaskKey)
deriving DecidableEq

/-- The message for a violation. -/
def Violation.message : Violation → String
  | complete key => "complete para " ++ key.display ++ " que no está en vuelo"
  | fail key => "fail para " ++ key.display ++ " que no está en vuelo"

namespace Tracker

/-- A tracker without tasks. -/
def ofAddress (address : Address) : Tracker := ⟨address, ∅, ∅, ∅⟩

/-- Whether a task is in flight. -/
def isInFlight (tracker : Tracker) (key : TaskKey) : Bool := tracker.unfinished.contains key

/-- A task is accepted and given to a runner. -/
def accept (tracker : Tracker) (key : TaskKey) (runner : Nat) : Tracker :=
  let record := TaskRecord.running key tracker.address
  { tracker with
    handles := tracker.handles.insert key runner
    unfinished := tracker.unfinished.insert key record
    updates := tracker.updates.insert key record }

/-- A task in flight ends with a final record. -/
def finish (tracker : Tracker) (key : TaskKey) (record : TaskRecord) : Tracker :=
  { tracker with
    handles := tracker.handles.erase key
    unfinished := tracker.unfinished.erase key
    updates := tracker.updates.insert key record }

/-- A task completed. -/
def complete (tracker : Tracker) (key : TaskKey) (result : Json) : Except Violation Tracker :=
  match tracker.unfinished.find? key with
  | some record => .ok (tracker.finish key (record.complete result))
  | none => .error (.complete key)

/-- A task failed. -/
def fail (tracker : Tracker) (key : TaskKey) (message : String) : Except Violation Tracker :=
  match tracker.unfinished.find? key with
  | some record => .ok (tracker.finish key (record.fail message))
  | none => .error (.fail key)

/-- Hands over the records that changed. -/
def drain (tracker : Tracker) : List TaskRecord × Tracker :=
  (tracker.updates.values, { tracker with updates := ∅ })

/-- Takes back records that did not arrive. -/
def restore (tracker : Tracker) (records : List TaskRecord) : Tracker :=
  { tracker with
    updates := records.foldl (fun updates record => updates.insertNew record.key record)
      tracker.updates }

/-- The number of tasks in flight. -/
def unfinishedCount (tracker : Tracker) : Nat := tracker.unfinished.size

/-- The number of records that changed. -/
def pendingCount (tracker : Tracker) : Nat := tracker.updates.size

/-- The records of the tasks in flight. -/
def unfinishedTasks (tracker : Tracker) : List TaskRecord := tracker.unfinished.values

end Tracker

end TaskAgent
