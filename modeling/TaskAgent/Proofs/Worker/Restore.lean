import TaskAgent.Proofs.Worker.Change

/-!
# Records that are taken back

Records that were handed over and are taken back at once leave no trace (`Worker.restore_drain`).
Nor does it matter when they are taken back, as long as nobody else hands over or takes back:
every other event only writes records or leaves them alone, so what it writes stands over what is
taken back, before or after (`Worker.step?_restore`). A run in between may therefore be replaced
by the same run without them (`Worker.run?_restore`).
-/

namespace TaskAgent

/-- Whether records are handed over or taken back. -/
def Event.isTransfer : Event → Bool
  | drain | restore _ => true
  | _ => false

/-- Whether an effect is on single tasks. -/
def Effect.isTransfer : Effect → Bool
  | handOver | takeBack _ => true
  | _ => false

theorem Effect.isTransfer_ending (key : TaskKey) (final : Option TaskRecord) :
    (ending key final).isTransfer = false := by
  cases final <;> rfl

namespace Tracker

variable {tracker : Tracker} {effect : Effect}

theorem eq_of_updates {first second : Tracker} (address : first.address = second.address)
    (handles : first.handles = second.handles)
    (unfinished : first.unfinished = second.unfinished)
    (updates : ∀ key, first.updates.find? key = second.updates.find? key) : first = second := by
  rcases first with ⟨firstAddress, firstHandles, firstUnfinished, firstUpdates⟩
  rcases second with ⟨secondAddress, secondHandles, secondUnfinished, secondUpdates⟩
  cases address
  cases handles
  cases unfinished
  cases Ledger.ext_find? updates
  rfl

theorem accept_restore (tracker : Tracker) (records : List TaskRecord) (key : TaskKey)
    (number : Nat) :
    (tracker.restore records).accept key number = (tracker.accept key number).restore records := by
  refine eq_of_updates rfl rfl rfl ?_
  intro other
  simp only [find?_updates_accept, find?_updates_restore]
  split
  · rfl
  · rfl

theorem finish_restore (tracker : Tracker) (records : List TaskRecord) (key : TaskKey)
    (record : TaskRecord) :
    (tracker.restore records).finish key record = (tracker.finish key record).restore records := by
  refine eq_of_updates rfl rfl rfl ?_
  intro other
  simp only [find?_updates_finish, find?_updates_restore]
  split
  · rfl
  · rfl

theorem apply_restore (single : effect.isTransfer = false) (tracker : Tracker)
    (records : List TaskRecord) :
    (tracker.restore records).apply effect = (tracker.apply effect).restore records := by
  cases effect with
  | nothing => rfl
  | accept key number => exact accept_restore tracker records key number
  | finish key record => exact finish_restore tracker records key record
  | handOver => cases single
  | takeBack others => cases single

/-- What is handed over finds its way back to where it stood, in whatever order. -/
theorem find?_of_perm {records : List TaskRecord} (keyed : tracker.Keyed)
    (same : records.Perm tracker.updates.values) (key : TaskKey) :
    (records.find? fun record => decide (record.key = key)) = tracker.updates.find? key := by
  cases found : records.find? fun record => decide (record.key = key) with
  | some record =>
      have own : record.key = key := by simpa using List.find?_some found
      have member := same.mem_iff.mp (List.mem_of_find?_eq_some found)
      rcases Ledger.mem_values.mp member with ⟨place, stands⟩
      rw [← own, keyed.updates stands, stands]
  | none =>
      cases stands : tracker.updates.find? key with
      | none => rfl
      | some record =>
          have member := same.mem_iff.mpr (Ledger.mem_values.mpr ⟨key, stands⟩)
          have absent := List.find?_eq_none.mp found record member
          simp [keyed.updates stands] at absent

theorem Keyed.keys_drain (keyed : tracker.Keyed) :
    tracker.drain.1.map TaskRecord.key = tracker.updates.keys :=
  Ledger.map_values_eq_keys keyed.updates

theorem Keyed.nodup_drain (keyed : tracker.Keyed) :
    (tracker.drain.1.map TaskRecord.key).Nodup := by
  rw [keyed.keys_drain]
  exact Ledger.nodup_keys _

/-- What is handed over are the changes, each with the key under which it stands. -/
theorem Keyed.find?_updates_iff {record : TaskRecord} (keyed : tracker.Keyed) :
    tracker.updates.find? key = some record ↔ record ∈ tracker.drain.1 ∧ record.key = key := by
  constructor
  · intro stands
    exact ⟨Ledger.mem_values.mpr ⟨key, stands⟩, keyed.updates stands⟩
  · rintro ⟨member, rfl⟩
    rcases Ledger.mem_values.mp member with ⟨key, stands⟩
    rwa [keyed.updates stands]

theorem restore_of_perm {records : List TaskRecord} (keyed : tracker.Keyed)
    (same : records.Perm tracker.drain.1) : tracker.drain.2.restore records = tracker := by
  refine eq_of_updates rfl rfl rfl ?_
  intro key
  rw [find?_updates_restore, find?_updates_drain, Option.none_or]
  exact find?_of_perm keyed same key

theorem restore_drain (keyed : tracker.Keyed) :
    tracker.drain.2.restore tracker.drain.1 = tracker :=
  restore_of_perm keyed (.refl _)

end Tracker

namespace Worker

variable {worker : Worker} {event : Event} {events : List Event}

theorem restore_of_perm {records : List TaskRecord} (keyed : worker.tracker.Keyed)
    (same : records.Perm worker.drain.1) : worker.drain.2.restore records = worker := by
  have tracker := Tracker.restore_of_perm keyed same
  rcases worker with ⟨registry, pool, ⟨address, handles, unfinished, updates⟩, runners⟩
  simp only [drain, restore]
  rw [tracker]

theorem restore_drain (keyed : worker.tracker.Keyed) :
    worker.drain.2.restore worker.drain.1 = worker :=
  restore_of_perm keyed (.refl _)

theorem isTransfer_effect (worker : Worker) (event : Event) :
    (worker.effect event).isTransfer = event.isTransfer := by
  cases event with
  | submit submission =>
      simp only [effect]
      split
      · rfl
      · rfl
  | cancel key => exact Effect.isTransfer_ending ..
  | complete key result => exact Effect.isTransfer_ending ..
  | fail key message => exact Effect.isTransfer_ending ..
  | report number =>
      simp only [effect]
      split
      · exact Effect.isTransfer_ending ..
      · rfl
  | _ => rfl

theorem submit_restore (worker : Worker) (records : List TaskRecord) (submission : Submission) :
    (worker.restore records).submit submission = (worker.submit submission).restore records := by
  have inFlight : (worker.tracker.restore records).isInFlight submission.key =
      worker.tracker.isInFlight submission.key := rfl
  simp only [submit, restore, inFlight, Tracker.accept_restore]
  split
  · rfl
  · rfl

theorem cancel_restore (worker : Worker) (records : List TaskRecord) (key : TaskKey) :
    (worker.restore records).cancel key = (worker.cancel key).restore records := by
  simp only [cancel, restore, Tracker.handles_restore, Tracker.unfinished_restore]
  split
  · next number record handle unfinished =>
      split
      · next runner found =>
          cases interruption : runner.signal.interrupt.1 with
          | accepted => simp only [Tracker.finish_restore, setRunner]
          | refused => simp only [Tracker.finish_restore, setRunner]
          | tooLate => rfl
      · rfl
  · rfl

theorem changeRunner?_restore (worker : Worker) (records : List TaskRecord) (number : Nat)
    (change : Runner → Option Runner) :
    (worker.restore records).changeRunner? number change =
      (worker.changeRunner? number change).map (·.restore records) := by
  simp only [changeRunner?, restore]
  split
  · next runner found =>
      cases change runner with
      | none => rfl
      | some moved => rfl
  · rfl

theorem reported_restore (tracker : Tracker) (records : List TaskRecord) (key : TaskKey)
    (outcome : Outcome) :
    reported (tracker.restore records) key outcome =
      (reported tracker key outcome).restore records := by
  rw [reported_eq, reported_eq, Tracker.unfinished_restore]
  exact Tracker.apply_restore (Effect.isTransfer_ending ..) tracker records

/-- Taking records back early or late is the same to every other event. -/
theorem step?_restore (single : event.isTransfer = false) (worker : Worker)
    (records : List TaskRecord) :
    (worker.restore records).step? event = (worker.step? event).map (·.restore records) := by
  cases event with
  | submit submission => exact congrArg some (submit_restore worker records submission)
  | cancel key => exact congrArg some (cancel_restore worker records key)
  | complete key result =>
      cases unfinished : worker.tracker.unfinished.find? key <;>
        simp [step?, complete, Tracker.complete, restore, unfinished, Except.map,
          Tracker.finish_restore]
  | fail key message =>
      cases unfinished : worker.tracker.unfinished.find? key <;>
        simp [step?, fail, Tracker.fail, restore, unfinished, Except.map, Tracker.finish_restore]
  | drain => cases single
  | restore others => cases single
  | close => rfl
  | register name definition => rfl
  | grant number =>
      simp only [step?, grant?, restore]
      split
      · rw [Option.map_if]
        rfl
      · rfl
  | refuse number =>
      simp only [step?, refuse?, restore]
      split
      · rw [Option.map_if]
        rfl
      · rfl
  | start number => exact changeRunner?_restore ..
  | enter number => exact changeRunner?_restore ..
  | leave number => exact changeRunner?_restore ..
  | finish number outcome => exact changeRunner?_restore ..
  | commit number => exact changeRunner?_restore ..
  | report number =>
      simp only [step?, report?, restore, reported_restore]
      split
      · split
        · rfl
        · rfl
      · rfl
  | exit number =>
      simp only [step?, exit?, restore]
      split
      · split
        · rfl
        · rfl
      · rfl

theorem run?_restore (single : ∀ event ∈ events, event.isTransfer = false) (worker : Worker)
    (records : List TaskRecord) :
    (worker.restore records).run? events = (worker.run? events).map (·.restore records) := by
  induction events generalizing worker with
  | nil => rfl
  | cons event rest ih =>
      have here := step?_restore (single event List.mem_cons_self) worker records
      have later := ih fun event member => single event (List.mem_cons_of_mem _ member)
      cases stepped : worker.step? event with
      | none => simp [run?, here, stepped]
      | some changed => simp [run?, here, stepped, later]

/-- Records that were handed over and are taken back after a run are as good as never moved. -/
theorem run?_drain (keyed : worker.tracker.Keyed)
    (single : ∀ event ∈ events, event.isTransfer = false) :
    (worker.drain.2.run? events).map (·.restore worker.drain.1) = worker.run? events := by
  rw [← run?_restore single, restore_drain keyed]

end Worker

end TaskAgent
