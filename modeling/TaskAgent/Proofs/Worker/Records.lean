import TaskAgent.Proofs.Ledger
import TaskAgent.Proofs.Worker.Steps

/-!
# What events do to records

A tracker is changed in four ways only: a task is accepted, a task ends, the changed records are
handed over, or records are taken back. Every event of a worker comes down to one of them or to
none (`Worker.effect`), whatever else it does to runners and slots, so a law of the records needs
a proof for these four and not for every event.

The look-ups of a tracker after each of the four are simplification rules. From them follows that
every record stands under its own key, which is why records that were handed over and taken back
land where they came from.
-/

namespace TaskAgent

namespace TaskRecord

/-- The final record that an interruption leads to; none when it comes too late. -/
def calledOff? (record : TaskRecord) : Interruption → Option TaskRecord
  | .accepted => some record.cancel
  | .refused => some (record.fail refusedCancelMessage)
  | .tooLate => none

/-- The final record of a task that ended by itself. -/
def ended (record : TaskRecord) : Outcome → TaskRecord
  | .ok result => record.complete result
  | .error failure => record.fail failure.message

/-- What a record in flight may become at the end of its task. -/
inductive EndsAs (record : TaskRecord) : TaskRecord → Prop where
  | completed (result : Json) : EndsAs record (record.complete result)
  | failed (message : String) : EndsAs record (record.fail message)
  | canceled : EndsAs record record.cancel

@[simp]
theorem key_running (key : TaskKey) (address : Address) : (running key address).key = key := rfl

variable {record final : TaskRecord}

theorem EndsAs.key_eq (ends : record.EndsAs final) : final.key = record.key := by
  cases ends <;> rfl

theorem EndsAs.isFinal (ends : record.EndsAs final) : final.status.isFinal = true := by
  cases ends <;> rfl

theorem endsAs_ended (record : TaskRecord) (outcome : Outcome) :
    record.EndsAs (record.ended outcome) := by
  cases outcome with
  | ok result => exact .completed result
  | error failure => exact .failed failure.message

theorem endsAs_of_calledOff? {interruption : Interruption}
    (called : record.calledOff? interruption = some final) : record.EndsAs final := by
  cases interruption with
  | accepted =>
      cases called
      exact .canceled
  | refused =>
      cases called
      exact .failed refusedCancelMessage
  | tooLate => cases called

theorem calledOff?_eq_none_iff {interruption : Interruption} :
    record.calledOff? interruption = none ↔ interruption = .tooLate := by
  cases interruption <;> simp [calledOff?]

end TaskRecord

/-- What an event does to the records of a worker. -/
inductive Effect where
  | nothing
  | accept (key : TaskKey) (number : Nat)
  | finish (key : TaskKey) (record : TaskRecord)
  | handOver
  | takeBack (records : List TaskRecord)

/-- The end of a task, if there is a final record for it. -/
def Effect.ending (key : TaskKey) : Option TaskRecord → Effect
  | some record => finish key record
  | none => nothing

theorem Effect.ending_eq_finish {key task : TaskKey} {final : Option TaskRecord}
    {record : TaskRecord} :
    ending key final = .finish task record ↔ key = task ∧ final = some record := by
  cases final <;> simp [ending]

theorem Effect.ending_ne_accept {key task : TaskKey} {final : Option TaskRecord} {number : Nat} :
    ending key final ≠ .accept task number := by
  cases final <;> simp [ending]

namespace Tracker

variable {tracker : Tracker} {key other : TaskKey} {record : TaskRecord}

theorem isInFlight_eq_false_iff :
    tracker.isInFlight key = false ↔ tracker.unfinished.find? key = none := by
  simp [isInFlight, Ledger.contains]

theorem isInFlight_eq_true_iff :
    tracker.isInFlight key = true ↔ ∃ record, tracker.unfinished.find? key = some record := by
  simp [isInFlight, Ledger.contains, Option.isSome_iff_exists]

/-- The tracker after an effect. -/
def apply (tracker : Tracker) : Effect → Tracker
  | .nothing => tracker
  | .accept key number => tracker.accept key number
  | .finish key record => tracker.finish key record
  | .handOver => tracker.drain.2
  | .takeBack records => tracker.restore records

@[simp]
theorem apply_nothing (tracker : Tracker) : tracker.apply .nothing = tracker := rfl

@[simp]
theorem apply_accept (tracker : Tracker) (key : TaskKey) (number : Nat) :
    tracker.apply (.accept key number) = tracker.accept key number := rfl

@[simp]
theorem apply_finish (tracker : Tracker) (key : TaskKey) (record : TaskRecord) :
    tracker.apply (.finish key record) = tracker.finish key record := rfl

@[simp]
theorem address_apply (tracker : Tracker) (effect : Effect) :
    (tracker.apply effect).address = tracker.address := by
  cases effect <;> rfl

@[simp]
theorem address_accept (tracker : Tracker) (key : TaskKey) (number : Nat) :
    (tracker.accept key number).address = tracker.address := rfl

@[simp]
theorem address_finish (tracker : Tracker) (key : TaskKey) (record : TaskRecord) :
    (tracker.finish key record).address = tracker.address := rfl

@[simp]
theorem find?_handles_accept (number : Nat) :
    (tracker.accept key number).handles.find? other =
      if key = other then some number else tracker.handles.find? other :=
  Ledger.find?_insert ..

@[simp]
theorem find?_unfinished_accept (number : Nat) :
    (tracker.accept key number).unfinished.find? other =
      if key = other then some (.running key tracker.address)
      else tracker.unfinished.find? other :=
  Ledger.find?_insert ..

@[simp]
theorem find?_updates_accept (number : Nat) :
    (tracker.accept key number).updates.find? other =
      if key = other then some (.running key tracker.address)
      else tracker.updates.find? other :=
  Ledger.find?_insert ..

@[simp]
theorem find?_handles_finish :
    (tracker.finish key record).handles.find? other =
      if key = other then none else tracker.handles.find? other :=
  Ledger.find?_erase ..

@[simp]
theorem find?_unfinished_finish :
    (tracker.finish key record).unfinished.find? other =
      if key = other then none else tracker.unfinished.find? other :=
  Ledger.find?_erase ..

@[simp]
theorem find?_updates_finish :
    (tracker.finish key record).updates.find? other =
      if key = other then some record else tracker.updates.find? other :=
  Ledger.find?_insert ..

@[simp]
theorem handles_drain (tracker : Tracker) : tracker.drain.2.handles = tracker.handles := rfl

@[simp]
theorem unfinished_drain (tracker : Tracker) :
    tracker.drain.2.unfinished = tracker.unfinished := rfl

@[simp]
theorem find?_updates_drain (tracker : Tracker) (key : TaskKey) :
    tracker.drain.2.updates.find? key = none := rfl

@[simp]
theorem handles_restore (tracker : Tracker) (records : List TaskRecord) :
    (tracker.restore records).handles = tracker.handles := rfl

@[simp]
theorem unfinished_restore (tracker : Tracker) (records : List TaskRecord) :
    (tracker.restore records).unfinished = tracker.unfinished := rfl

/-- A key that has a changed record keeps it, a key without one receives the first that is taken
back. -/
@[simp]
theorem find?_updates_restore (tracker : Tracker) (records : List TaskRecord) (key : TaskKey) :
    (tracker.restore records).updates.find? key =
      (tracker.updates.find? key).or (records.find? fun record => decide (record.key = key)) :=
  Ledger.find?_foldl_insertNew TaskRecord.key records tracker.updates key

@[simp]
theorem find?_updates_ofAddress (address : Address) (key : TaskKey) :
    (ofAddress address).updates.find? key = none := rfl

@[simp]
theorem find?_handles_ofAddress (address : Address) (key : TaskKey) :
    (ofAddress address).handles.find? key = none := rfl

@[simp]
theorem find?_unfinished_ofAddress (address : Address) (key : TaskKey) :
    (ofAddress address).unfinished.find? key = none := rfl

/-- Every record stands under its own key. -/
structure Keyed (tracker : Tracker) : Prop where
  unfinished : ∀ {key record}, tracker.unfinished.find? key = some record → record.key = key
  updates : ∀ {key record}, tracker.updates.find? key = some record → record.key = key

theorem keyed_ofAddress (address : Address) : (ofAddress address).Keyed := by
  constructor
  · intro key record found
    simp at found
  · intro key record found
    simp at found

theorem Keyed.accept (keyed : tracker.Keyed) (key : TaskKey) (number : Nat) :
    (tracker.accept key number).Keyed := by
  constructor
  · intro other record found
    rw [find?_unfinished_accept] at found
    split at found
    · next same =>
        cases found
        exact same
    · exact keyed.unfinished found
  · intro other record found
    rw [find?_updates_accept] at found
    split at found
    · next same =>
        cases found
        exact same
    · exact keyed.updates found

theorem Keyed.finish (keyed : tracker.Keyed) (own : record.key = key) :
    (tracker.finish key record).Keyed := by
  constructor
  · intro other found inFlight
    rw [find?_unfinished_finish] at inFlight
    split at inFlight
    · cases inFlight
    · exact keyed.unfinished inFlight
  · intro other found changed
    rw [find?_updates_finish] at changed
    split at changed
    · next same =>
        cases changed
        exact own.trans same
    · exact keyed.updates changed

theorem Keyed.drain (keyed : tracker.Keyed) : tracker.drain.2.Keyed := by
  constructor
  · intro key record found
    exact keyed.unfinished found
  · intro key record found
    simp at found

theorem Keyed.restore (keyed : tracker.Keyed) (records : List TaskRecord) :
    (tracker.restore records).Keyed := by
  constructor
  · intro key record found
    exact keyed.unfinished found
  · intro key record found
    rw [find?_updates_restore, Option.or_eq_some_iff] at found
    rcases found with kept | ⟨-, restored⟩
    · exact keyed.updates kept
    · simpa using List.find?_some restored

end Tracker

namespace Worker

variable {worker changed : Worker} {event : Event} {key : TaskKey} {number : Nat}

/-- What an interruption of the task in flight under a key would come to. -/
def interruption? (worker : Worker) (key : TaskKey) : Option Interruption :=
  (worker.tracker.handles.find? key).bind fun number =>
    worker.runners[number]?.map fun runner => runner.signal.interrupt.1

/-- The task that a runner is bound to report, and how it ended. -/
def reporting? (worker : Worker) (number : Nat) : Option (TaskKey × Outcome) :=
  match worker.runners[number]? with
  | some runner =>
    match runner.stage with
    | .reporting outcome => some (runner.submission.key, outcome)
    | _ => none
  | none => none

/-- What an event does to the records. -/
def effect (worker : Worker) : Event → Effect
  | .submit submission =>
    if worker.tracker.isInFlight submission.key then .nothing
    else .accept submission.key worker.runners.length
  | .cancel key =>
    .ending key <| (worker.tracker.unfinished.find? key).bind fun record =>
      (worker.interruption? key).bind record.calledOff?
  | .complete key result =>
    .ending key <| (worker.tracker.unfinished.find? key).map (·.complete result)
  | .fail key message => .ending key <| (worker.tracker.unfinished.find? key).map (·.fail message)
  | .report number =>
    match worker.reporting? number with
    | some (key, outcome) =>
      .ending key <| (worker.tracker.unfinished.find? key).map (·.ended outcome)
    | none => .nothing
  | .drain => .handOver
  | .restore records => .takeBack records
  | _ => .nothing

@[simp]
theorem tracker_setRunner (worker : Worker) (number : Nat) (runner : Runner) :
    (worker.setRunner number runner).tracker = worker.tracker := rfl

theorem tracker_of_changeRunner? {change : Runner → Option Runner}
    (stepped : worker.changeRunner? number change = some changed) :
    changed.tracker = worker.tracker := by
  rcases exists_of_changeRunner? stepped with ⟨runner, moved, -, -, rfl⟩
  rfl

theorem tracker_cancel (worker : Worker) (key : TaskKey) :
    (worker.cancel key).tracker = worker.tracker.apply (worker.effect (.cancel key)) := by
  simp only [cancel, effect, interruption?]
  cases handle : worker.tracker.handles.find? key with
  | none => cases worker.tracker.unfinished.find? key <;> rfl
  | some number =>
      cases unfinished : worker.tracker.unfinished.find? key with
      | none => rfl
      | some record =>
          simp only [Option.bind_some]
          cases worker.runners[number]? with
          | none => rfl
          | some runner =>
              rcases runner with ⟨submission, signal, stage, slot⟩
              cases signal <;> rfl

theorem reported_eq (tracker : Tracker) (key : TaskKey) (outcome : Outcome) :
    reported tracker key outcome =
      tracker.apply (.ending key ((tracker.unfinished.find? key).map (·.ended outcome))) := by
  cases outcome <;> cases unfinished : tracker.unfinished.find? key <;>
    simp [reported, Tracker.complete, Tracker.fail, TaskRecord.ended, Effect.ending, unfinished]

/-- The records change as the effect of the event tells, and in no other way. -/
theorem tracker_of_step? (stepped : worker.step? event = some changed) :
    changed.tracker = worker.tracker.apply (worker.effect event) := by
  cases event with
  | submit submission =>
      cases stepped
      simp only [submit, effect]
      split <;> rfl
  | cancel key =>
      cases stepped
      exact tracker_cancel worker key
  | complete key result =>
      cases unfinished : worker.tracker.unfinished.find? key <;>
        simp [step?, complete, Tracker.complete, unfinished, Except.map] at stepped <;>
        simp [← stepped, effect, Effect.ending, unfinished]
  | fail key message =>
      cases unfinished : worker.tracker.unfinished.find? key <;>
        simp [step?, fail, Tracker.fail, unfinished, Except.map] at stepped <;>
        simp [← stepped, effect, Effect.ending, unfinished]
  | drain =>
      cases stepped
      rfl
  | restore records =>
      cases stepped
      rfl
  | close =>
      cases stepped
      rfl
  | register name definition =>
      cases stepped
      rfl
  | grant number =>
      rcases exists_of_grant? stepped with ⟨runner, -, -, -, -, rfl⟩
      rfl
  | refuse number =>
      rcases exists_of_refuse? stepped with ⟨runner, -, -, -, rfl⟩
      rfl
  | start number => exact tracker_of_changeRunner? stepped
  | enter number => exact tracker_of_changeRunner? stepped
  | leave number => exact tracker_of_changeRunner? stepped
  | finish number outcome => exact tracker_of_changeRunner? stepped
  | commit number => exact tracker_of_changeRunner? stepped
  | report number =>
      rcases exists_of_report? stepped with ⟨runner, outcome, found, stage, rfl⟩
      simp [effect, reporting?, found, stage, reported_eq]
  | exit number =>
      rcases exists_of_exit? stepped with ⟨runner, -, -, rfl⟩
      rfl

/-- A task is accepted only on its submission, and only when it is not in flight. -/
theorem submit_of_effect (accepts : worker.effect event = .accept key number) :
    number = worker.runners.length ∧ worker.tracker.unfinished.find? key = none ∧
      ∃ submission, event = .submit submission ∧ submission.key = key := by
  cases event with
  | submit submission =>
      simp only [effect] at accepts
      split at accepts
      · cases accepts
      · next fresh =>
          cases accepts
          have fresh : worker.tracker.isInFlight submission.key = false := by simpa using fresh
          exact ⟨rfl, Tracker.isInFlight_eq_false_iff.mp fresh, submission, rfl, rfl⟩
  | cancel task => exact absurd accepts Effect.ending_ne_accept
  | complete task result => exact absurd accepts Effect.ending_ne_accept
  | fail task message => exact absurd accepts Effect.ending_ne_accept
  | report place =>
      simp only [effect] at accepts
      split at accepts
      · exact absurd accepts Effect.ending_ne_accept
      · cases accepts
  | _ => cases accepts

/-- What ends has been in flight, and ends in one of the ways a record can. -/
theorem exists_endsAs_of_effect {record : TaskRecord}
    (finishes : worker.effect event = .finish key record) :
    ∃ old, worker.tracker.unfinished.find? key = some old ∧ old.EndsAs record := by
  cases event with
  | submit submission =>
      simp only [effect] at finishes
      split at finishes <;> cases finishes
  | cancel task =>
      rcases Effect.ending_eq_finish.mp finishes with ⟨rfl, final⟩
      rcases Option.bind_eq_some_iff.mp final with ⟨old, unfinished, called⟩
      rcases Option.bind_eq_some_iff.mp called with ⟨interruption, -, called⟩
      exact ⟨old, unfinished, TaskRecord.endsAs_of_calledOff? called⟩
  | complete task result =>
      rcases Effect.ending_eq_finish.mp finishes with ⟨rfl, final⟩
      rcases Option.map_eq_some_iff.mp final with ⟨old, unfinished, rfl⟩
      exact ⟨old, unfinished, .completed result⟩
  | fail task message =>
      rcases Effect.ending_eq_finish.mp finishes with ⟨rfl, final⟩
      rcases Option.map_eq_some_iff.mp final with ⟨old, unfinished, rfl⟩
      exact ⟨old, unfinished, .failed message⟩
  | report number =>
      simp only [effect] at finishes
      split at finishes
      · next task outcome reporting =>
          rcases Effect.ending_eq_finish.mp finishes with ⟨rfl, final⟩
          rcases Option.map_eq_some_iff.mp final with ⟨old, unfinished, rfl⟩
          exact ⟨old, unfinished, old.endsAs_ended outcome⟩
      · cases finishes
  | _ => cases finishes

theorem exists_unfinished_of_effect {record : TaskRecord}
    (finishes : worker.effect event = .finish key record) :
    ∃ old, worker.tracker.unfinished.find? key = some old ∧ record.key = old.key ∧
      record.status.isFinal = true := by
  rcases exists_endsAs_of_effect finishes with ⟨old, unfinished, ends⟩
  exact ⟨old, unfinished, ends.key_eq, ends.isFinal⟩

theorem keyed_of_step? (stepped : worker.step? event = some changed)
    (keyed : worker.tracker.Keyed) : changed.tracker.Keyed := by
  rw [tracker_of_step? stepped]
  cases effect : worker.effect event with
  | nothing => exact keyed
  | accept key number => exact keyed.accept key number
  | finish key record =>
      rcases exists_unfinished_of_effect effect with ⟨old, unfinished, own, -⟩
      exact keyed.finish (own.trans (keyed.unfinished unfinished))
  | handOver => exact keyed.drain
  | takeBack records => exact keyed.restore records

end Worker

end TaskAgent
