import TaskAgent.Proofs.Worker.Restore

/-!
# Well-kept trackers

The three ledgers of a tracker belong together: a task has a handle just if it has a record in
flight, that record is the one it was accepted with, and what changed is a proper report of the
agent (`Tracker.WellKept`). Every effect keeps this, whoever causes it, as long as what is taken
back are reports of the agent too.
-/

namespace TaskAgent

/-- Keys are ordered by job, and by task within a job. -/
def TaskKey.Precedes (first second : TaskKey) : Prop :=
  first.job < second.job ∨ first.job = second.job ∧ first.task < second.task

theorem TaskKey.compare_eq_lt_iff {first second : TaskKey} :
    compare first second = .lt ↔ first.Precedes second := by
  have lexicographic : compare first second =
      (compare first.job second.job).then (compare first.task second.task) := rfl
  rw [lexicographic, Ordering.then_eq_lt, Std.LawfulEqCmp.compare_eq_iff_eq]
  simp only [Std.compare_eq_lt, Precedes]

namespace TaskRecord

variable {key : TaskKey} {address : Address} {record final : TaskRecord}

/-- The record is one that the agent at this address may hand over: it has a result just if its
task completed, and an error only if it failed. -/
structure IsReport (address : Address) (record : TaskRecord) : Prop where
  address_eq : record.address = address
  result_iff : record.result.isSome = true ↔ record.status = .completed
  failed_of_error : record.errorMessage.isSome = true → record.status = .failed

theorem isReport_running (key : TaskKey) (address : Address) :
    (running key address).IsReport address := by
  constructor <;> simp [running]

theorem EndsAs.isReport (ends : (running key address).EndsAs final) : final.IsReport address := by
  cases ends with
  | completed result => constructor <;> simp [running, complete]
  | failed message => constructor <;> simp [running, fail]
  | canceled => constructor <;> simp [running, cancel]

end TaskRecord

namespace Tracker

variable {tracker : Tracker} {key : TaskKey} {record : TaskRecord}

/-- The ledgers of the tracker belong together. -/
structure WellKept (tracker : Tracker) : Prop where
  contains_handles : ∀ key, tracker.handles.contains key = tracker.unfinished.contains key
  unfinished : ∀ {key record}, tracker.unfinished.find? key = some record →
    record = .running key tracker.address
  updates : ∀ {key record}, tracker.updates.find? key = some record →
    record.key = key ∧ record.IsReport tracker.address

theorem wellKept_ofAddress (address : Address) : (ofAddress address).WellKept := by
  constructor
  · intro key
    rfl
  · intro key record found
    simp at found
  · intro key record found
    simp at found

namespace WellKept

theorem keyed (wellKept : tracker.WellKept) : tracker.Keyed := by
  constructor
  · intro key record found
    rw [wellKept.unfinished found, TaskRecord.key_running]
  · intro key record found
    exact (wellKept.updates found).1

theorem accept (wellKept : tracker.WellKept) (key : TaskKey) (number : Nat) :
    (tracker.accept key number).WellKept := by
  constructor
  · intro other
    have same := wellKept.contains_handles other
    simp only [Ledger.contains] at same
    simp only [Ledger.contains, find?_handles_accept, find?_unfinished_accept]
    split
    · rfl
    · exact same
  · intro other record found
    rw [find?_unfinished_accept] at found
    split at found
    · next here =>
        cases found
        rw [here, address_accept]
    · exact wellKept.unfinished found
  · intro other record found
    rw [find?_updates_accept] at found
    split at found
    · next here =>
        cases found
        exact ⟨here, TaskRecord.isReport_running key tracker.address⟩
    · exact wellKept.updates found

theorem finish (wellKept : tracker.WellKept) {old : TaskRecord}
    (inFlight : tracker.unfinished.find? key = some old) (ends : old.EndsAs record) :
    (tracker.finish key record).WellKept := by
  cases wellKept.unfinished inFlight
  constructor
  · intro other
    have same := wellKept.contains_handles other
    simp only [Ledger.contains] at same
    simp only [Ledger.contains, find?_handles_finish, find?_unfinished_finish]
    split
    · rfl
    · exact same
  · intro other found unfinished
    rw [find?_unfinished_finish] at unfinished
    split at unfinished
    · cases unfinished
    · exact wellKept.unfinished unfinished
  · intro other found changed
    rw [find?_updates_finish] at changed
    split at changed
    · next here =>
        cases changed
        exact ⟨ends.key_eq.trans here, ends.isReport⟩
    · exact wellKept.updates changed

theorem drain (wellKept : tracker.WellKept) : tracker.drain.2.WellKept := by
  constructor
  · exact wellKept.contains_handles
  · exact wellKept.unfinished
  · intro key record found
    simp at found

theorem restore (wellKept : tracker.WellKept) {records : List TaskRecord}
    (reports : ∀ record ∈ records, record.IsReport tracker.address) :
    (tracker.restore records).WellKept := by
  constructor
  · exact wellKept.contains_handles
  · exact wellKept.unfinished
  · intro key record found
    rw [find?_updates_restore, Option.or_eq_some_iff] at found
    rcases found with kept | ⟨-, restored⟩
    · exact wellKept.updates kept
    · exact ⟨by simpa using List.find?_some restored,
        reports record (List.mem_of_find?_eq_some restored)⟩

theorem keys_handles (wellKept : tracker.WellKept) :
    tracker.handles.keys = tracker.unfinished.keys :=
  Ledger.keys_eq_of_contains wellKept.contains_handles

theorem keys_unfinishedTasks (wellKept : tracker.WellKept) :
    tracker.unfinishedTasks.map TaskRecord.key = tracker.unfinished.keys :=
  Ledger.map_values_eq_keys wellKept.keyed.unfinished

end WellKept

theorem complete_eq_error_iff {violation : Violation} (result : Json) :
    tracker.complete key result = .error violation ↔
      tracker.isInFlight key = false ∧ violation = .complete key := by
  rw [isInFlight_eq_false_iff, complete]
  cases tracker.unfinished.find? key <;> simp [eq_comm]

theorem fail_eq_error_iff {violation : Violation} (message : String) :
    tracker.fail key message = .error violation ↔
      tracker.isInFlight key = false ∧ violation = .fail key := by
  rw [isInFlight_eq_false_iff, fail]
  cases tracker.unfinished.find? key <;> simp [eq_comm]

end Tracker

namespace Worker

variable {worker changed : Worker} {event : Event} {key : TaskKey}

theorem wellKept_of_step? (single : event.isTransfer = false)
    (stepped : worker.step? event = some changed) (wellKept : worker.tracker.WellKept) :
    changed.tracker.WellKept := by
  have alone := (worker.isTransfer_effect event).trans single
  rw [tracker_of_step? stepped]
  cases effect : worker.effect event with
  | nothing => exact wellKept
  | accept key number => exact wellKept.accept key number
  | finish key record =>
      rcases exists_endsAs_of_effect effect with ⟨old, inFlight, ends⟩
      exact wellKept.finish inFlight ends
  | handOver =>
      rw [effect] at alone
      cases alone
  | takeBack records =>
      rw [effect] at alone
      cases alone

/-- A report about a task that is not in flight changes nothing, whoever makes it. -/
theorem ignores_of_isInFlight_eq_false (absent : worker.tracker.isInFlight key = false) :
    (∀ result, worker.step? (.complete key result) = some worker) ∧
    (∀ message, worker.step? (.fail key message) = some worker) ∧
    ∀ outcome, reported worker.tracker key outcome = worker.tracker := by
  rw [Tracker.isInFlight_eq_false_iff] at absent
  refine ⟨?_, ?_, ?_⟩
  · intro result
    simp [step?, complete, Tracker.complete, absent, Except.map]
  · intro message
    simp [step?, fail, Tracker.fail, absent, Except.map]
  · intro outcome
    rw [reported_eq, absent]
    rfl

end Worker

end TaskAgent
