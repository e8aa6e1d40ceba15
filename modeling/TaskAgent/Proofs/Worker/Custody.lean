import TaskAgent.Proofs.Worker.Chronicle
import TaskAgent.Proofs.Worker.WellKept

/-!
# Records in custody

What a worker hands over may come back to it, but nothing else may. `Custody` puts the lists that
were handed over beside the worker, so that a run takes back one of them and never a list made up
(`Custody.Move`). Any number of them may be out at once, and they may come back in any order, late
and more than once.

The records in custody are remembered as the entries that made them, with the handles that their
tasks had then. The worker knows nothing of this: the entries that are held are behind the records
that changed (`Custody.Faithful`), and a worker hands over and takes back the records alone.
-/

namespace TaskAgent

/-- A worker with the lists that it has handed over. -/
structure Custody where
  worker : Worker
  /-- The entries behind the records that changed. -/
  held : Ledger TaskKey Entry
  /-- The entries behind every list that was handed over, in order. -/
  handed : List (List Entry)

namespace Custody

/-- A step of a run in which only what was handed over comes back. -/
inductive Move where
  | work (event : Event)
  | drain
  | restore (place : Nat)

def make (pool : Pool) (registry : Registry) (address : Address) : Custody :=
  ⟨.make pool registry address, ∅, []⟩

/-- The lists that were handed over. -/
def lists (custody : Custody) : List (List TaskRecord) :=
  custody.handed.map fun entries => entries.map Entry.record

/-- The entries that are held, with one more if there is one. -/
def keep (held : Ledger TaskKey Entry) : Option Entry → Ledger TaskKey Entry
  | some entry => held.insert entry.record.key entry
  | none => held

/-- The entries that are held, with others that come back. -/
def keepNew (held : Ledger TaskKey Entry) (entries : List Entry) : Ledger TaskKey Entry :=
  entries.foldl (fun held entry => held.insertNew entry.record.key entry) held

def step? (custody : Custody) : Move → Option Custody
  | .work event =>
    if event.isTransfer then none
    else (custody.worker.step? event).map fun worker =>
      { custody with worker, held := keep custody.held (custody.worker.made? event) }
  | .drain => some ⟨custody.worker.drain.2, ∅, custody.handed ++ [custody.held.values]⟩
  | .restore place => custody.handed[place]?.map fun entries =>
    { custody with
      worker := custody.worker.restore (entries.map Entry.record)
      held := keepNew custody.held entries }

def run? (custody : Custody) : List Move → Option Custody
  | [] => some custody
  | move :: rest => (custody.step? move).bind (·.run? rest)

variable {custody changed : Custody} {move : Move} {moves : List Move} {event : Event}
  {place : Nat} {entry : Entry} {key : TaskKey}

theorem exists_of_work? (stepped : custody.step? (.work event) = some changed) :
    ∃ worker, event.isTransfer = false ∧ custody.worker.step? event = some worker ∧
      changed = { custody with
        worker, held := keep custody.held (custody.worker.made? event) } := by
  simp only [step?] at stepped
  split at stepped
  · cases stepped
  · next single =>
      rcases Option.map_eq_some_iff.mp stepped with ⟨worker, moved, rfl⟩
      exact ⟨worker, by simpa using single, moved, rfl⟩

theorem exists_of_restore? (stepped : custody.step? (.restore place) = some changed) :
    ∃ entries, custody.handed[place]? = some entries ∧
      changed = { custody with
        worker := custody.worker.restore (entries.map Entry.record)
        held := keepNew custody.held entries } := by
  rcases Option.map_eq_some_iff.mp stepped with ⟨entries, returned, rfl⟩
  exact ⟨entries, returned, rfl⟩

theorem exists_of_run?_cons {rest : List Move} {final : Custody}
    (ran : custody.run? (move :: rest) = some final) :
    ∃ changed, custody.step? move = some changed ∧ changed.run? rest = some final :=
  Option.bind_eq_some_iff.mp ran

/-- What holds at first and is kept by every move of a sequence holds at its end. -/
theorem keeps_of_run? {motive : Custody → Prop} {final : Custody}
    (ran : custody.run? moves = some final) (initially : motive custody)
    (kept : ∀ move ∈ moves, ∀ before after : Custody,
      before.step? move = some after → motive before → motive after) :
    motive final := by
  induction moves generalizing custody with
  | nil =>
      cases ran
      exact initially
  | cons move rest ih =>
      rcases exists_of_run?_cons ran with ⟨changed, stepped, ran⟩
      apply ih ran
      · exact kept move List.mem_cons_self custody changed stepped initially
      · intro later member
        exact kept later (List.mem_cons_of_mem _ member)

@[simp]
theorem find?_keep_some (held : Ledger TaskKey Entry) (entry : Entry) (key : TaskKey) :
    (keep held (some entry)).find? key =
      if entry.record.key = key then some entry else held.find? key :=
  Ledger.find?_insert ..

theorem find?_keepNew (held : Ledger TaskKey Entry) (entries : List Entry) (key : TaskKey) :
    (keepNew held entries).find? key =
      (held.find? key).or (entries.find? fun entry => decide (entry.record.key = key)) :=
  Ledger.find?_foldl_insertNew (fun entry : Entry => entry.record.key) entries held key

theorem address_of_step? (stepped : custody.step? move = some changed) :
    changed.worker.tracker.address = custody.worker.tracker.address := by
  cases move with
  | work event =>
      rcases exists_of_work? stepped with ⟨worker, single, moved, rfl⟩
      rw [Worker.tracker_of_step? moved, Tracker.address_apply]
  | drain =>
      cases stepped
      rfl
  | restore place =>
      rcases exists_of_restore? stepped with ⟨entries, returned, rfl⟩
      rfl

/-- The records that changed are those of the entries that are held. -/
def Faithful (custody : Custody) : Prop :=
  ∀ key, custody.worker.tracker.updates.find? key = (custody.held.find? key).map Entry.record

namespace Faithful

theorem updates_eq (faithful : custody.Faithful) :
    custody.worker.tracker.updates = custody.held.map Entry.record := by
  apply Ledger.ext_find?
  intro key
  rw [faithful key, Ledger.find?_map]

theorem drain_eq (faithful : custody.Faithful) :
    custody.worker.tracker.drain.1 = custody.held.values.map Entry.record := by
  rw [Tracker.drain, faithful.updates_eq, Ledger.values_map]

theorem work (faithful : custody.Faithful) (keyed : custody.worker.tracker.Keyed)
    {worker : Worker} (single : event.isTransfer = false)
    (stepped : custody.worker.step? event = some worker) :
    Faithful { custody with
      worker, held := keep custody.held (custody.worker.made? event) } := by
  -- records come and go in custody only, never by an event of the worker
  have alone := (custody.worker.isTransfer_effect event).trans single
  intro key
  simp only [Worker.tracker_of_step? stepped, Worker.made?]
  cases effect : custody.worker.effect event with
  | nothing => exact faithful key
  | accept task number =>
      rw [Tracker.apply_accept, Tracker.find?_updates_accept, faithful key, find?_keep_some,
        apply_ite (Option.map Entry.record)]
      rfl
  | finish task record =>
      rcases Worker.exists_unfinished_of_effect effect with ⟨old, inFlight, own, -⟩
      have own : record.key = task := own.trans (keyed.unfinished inFlight)
      rw [Tracker.apply_finish, Tracker.find?_updates_finish, faithful key, find?_keep_some,
        own, apply_ite (Option.map Entry.record)]
      rfl
  | handOver =>
      rw [effect] at alone
      cases alone
  | takeBack records =>
      rw [effect] at alone
      cases alone

theorem restore (faithful : custody.Faithful) (entries : List Entry) :
    Faithful { custody with
      worker := custody.worker.restore (entries.map Entry.record)
      held := keepNew custody.held entries } := by
  intro key
  simp only [Worker.restore, Tracker.find?_updates_restore, faithful key, find?_keepNew,
    List.find?_map]
  cases custody.held.find? key with
  | some entry => rfl
  | none => rfl

end Faithful

/-- The tracker is well kept, and all that may come back to it are its own reports. -/
structure WellKept (custody : Custody) : Prop where
  tracker : custody.worker.tracker.WellKept
  faithful : custody.Faithful
  lists : ∀ records ∈ custody.lists, (records.map TaskRecord.key).Nodup ∧
    ∀ record ∈ records, record.IsReport custody.worker.tracker.address

theorem wellKept_make (pool : Pool) (registry : Registry) (address : Address) :
    (make pool registry address).WellKept := by
  constructor
  · exact Tracker.wellKept_ofAddress address
  · intro key
    rfl
  · intro records member
    cases member

namespace WellKept

theorem drain (wellKept : custody.WellKept) :
    (custody.worker.tracker.drain.1.map TaskRecord.key).Nodup ∧
      ∀ record ∈ custody.worker.tracker.drain.1,
        record.IsReport custody.worker.tracker.address := by
  refine ⟨wellKept.tracker.keyed.nodup_drain, ?_⟩
  intro record member
  rcases Ledger.mem_values.mp member with ⟨key, found⟩
  exact (wellKept.tracker.updates found).2

theorem lists_drain (wellKept : custody.WellKept)
    (stepped : custody.step? .drain = some changed) :
    changed.lists = custody.lists ++ [custody.worker.tracker.drain.1] := by
  cases stepped
  simp [Custody.lists, wellKept.faithful.drain_eq]

theorem step (wellKept : custody.WellKept) (stepped : custody.step? move = some changed) :
    changed.WellKept := by
  cases move with
  | work event =>
      rcases exists_of_work? stepped with ⟨worker, single, moved, rfl⟩
      constructor
      · exact Worker.wellKept_of_step? single moved wellKept.tracker
      · exact wellKept.faithful.work wellKept.tracker.keyed single moved
      · rw [address_of_step? stepped]
        exact wellKept.lists
  | drain =>
      have lists := wellKept.lists_drain stepped
      cases stepped
      constructor
      · exact wellKept.tracker.drain
      · intro key
        rfl
      · intro records member
        rw [lists] at member
        rcases List.mem_append.mp member with old | new
        · exact wellKept.lists records old
        · rw [List.mem_singleton.mp new]
          exact wellKept.drain
  | restore place =>
      rcases exists_of_restore? stepped with ⟨entries, returned, rfl⟩
      have listed : entries.map Entry.record ∈ custody.lists :=
        List.mem_map_of_mem (List.mem_of_getElem? returned)
      constructor
      · exact wellKept.tracker.restore (wellKept.lists _ listed).2
      · exact wellKept.faithful.restore entries
      · exact wellKept.lists

end WellKept

theorem wellKept_of_run? {address : Address} (ran : custody.run? moves = some changed)
    (wellKept : custody.WellKept) (initially : custody.worker.tracker.address = address) :
    changed.WellKept ∧ changed.worker.tracker.address = address := by
  refine keeps_of_run? ran ⟨wellKept, initially⟩ (motive := fun custody =>
    custody.WellKept ∧ custody.worker.tracker.address = address) ?_
  rintro move - before after stepped ⟨wellKept, same⟩
  exact ⟨wellKept.step stepped, (address_of_step? stepped).trans same⟩

/-- After every run the ledgers of the tracker belong together, everything that was or would be
handed over is a list of proper reports without repetition, and a report about a task is refused
just if the task is not in flight. -/
theorem tracker_is_well_kept {pool : Pool} {registry : Registry} {address : Address}
    (ran : (make pool registry address).run? moves = some custody) :
    let tracker := custody.worker.tracker
    tracker.handles.keys = tracker.unfinished.keys ∧
    (∀ key record, tracker.unfinished.find? key = some record →
      record = .running key address) ∧
    (∀ key record, tracker.updates.find? key = some record →
      record.key = key ∧ record.IsReport address) ∧
    (∀ later, custody.step? .drain = some later →
      later.lists = custody.lists ++ [tracker.drain.1]) ∧
    (∀ records ∈ custody.lists ++ [tracker.drain.1], (records.map TaskRecord.key).Nodup ∧
      ∀ record ∈ records, record.IsReport address) ∧
    (tracker.unfinishedTasks.map TaskRecord.key).Pairwise TaskKey.Precedes ∧
    (∀ key, key ∈ tracker.unfinishedTasks.map TaskRecord.key ↔ tracker.isInFlight key = true) ∧
    ∀ key,
      (∀ result violation, tracker.complete key result = .error violation ↔
        tracker.isInFlight key = false ∧ violation = .complete key) ∧
      (∀ message violation, tracker.fail key message = .error violation ↔
        tracker.isInFlight key = false ∧ violation = .fail key) ∧
      (tracker.isInFlight key = false →
        (∀ result, custody.worker.step? (.complete key result) = some custody.worker) ∧
        (∀ message, custody.worker.step? (.fail key message) = some custody.worker) ∧
        ∀ outcome, Worker.reported tracker key outcome = tracker) := by
  rcases wellKept_of_run? ran (wellKept_make pool registry address) rfl with ⟨wellKept, rfl⟩
  have tracker := wellKept.tracker
  refine ⟨tracker.keys_handles, fun _ _ => tracker.unfinished, fun _ _ => tracker.updates,
    fun _ => wellKept.lists_drain, ?_, ?_, ?_, ?_⟩
  · intro records member
    rcases List.mem_append.mp member with old | new
    · exact wellKept.lists records old
    · rw [List.mem_singleton.mp new]
      exact wellKept.drain
  · rw [tracker.keys_unfinishedTasks]
    refine (Ledger.ordered_keys _).imp ?_
    intro before after smaller
    exact TaskKey.compare_eq_lt_iff.mp smaller
  · intro key
    rw [tracker.keys_unfinishedTasks, Ledger.mem_keys, Tracker.isInFlight_eq_true_iff]
  · intro key
    exact ⟨fun result _ => Tracker.complete_eq_error_iff result,
      fun message _ => Tracker.fail_eq_error_iff message, Worker.ignores_of_isInFlight_eq_false⟩

/-- A task is said from outside to have completed after its first record was handed over, another
one is accepted, and both lists that were handed over come back, the second one twice. -/
def lateReturns : List Move :=
  let task (number : Int64) : Submission := ⟨⟨1, number⟩, ⟨"job"⟩, .null, "scratch"⟩
  [.work (.submit (task 1)), .drain, .work (.complete ⟨1, 1⟩ .null), .work (.submit (task 2)),
    .drain, .restore 1, .restore 0, .restore 1, .work (.complete ⟨1, 1⟩ .null)]

theorem tracker_is_well_kept_lateReturns :
    ∃ custody, (make (.ofSize 1) .empty ⟨"host", 1, 2⟩).run? lateReturns = some custody ∧
      custody.worker.tracker.unfinished.keys = [⟨1, 2⟩] ∧
      custody.worker.tracker.handles.keys = custody.worker.tracker.unfinished.keys ∧
      (custody.worker.tracker.drain.1.map TaskRecord.key).Nodup ∧
      custody.worker.tracker.complete ⟨1, 1⟩ .null = .error (.complete ⟨1, 1⟩) := by
  have facts : ∀ custody,
      (make (.ofSize 1) .empty ⟨"host", 1, 2⟩).run? lateReturns = some custody →
        custody.worker.tracker.handles.keys = custody.worker.tracker.unfinished.keys ∧
        (custody.worker.tracker.drain.1.map TaskRecord.key).Nodup ∧
        (custody.worker.tracker.isInFlight ⟨1, 1⟩ = false →
          custody.worker.tracker.complete ⟨1, 1⟩ .null = .error (.complete ⟨1, 1⟩)) := by
    intro custody ran
    rcases tracker_is_well_kept ran with ⟨keys, -, -, -, lists, -, -, reports⟩
    have next := List.mem_append_right custody.lists
      (List.mem_singleton_self custody.worker.tracker.drain.1)
    refine ⟨keys, (lists _ next).1, ?_⟩
    intro absent
    exact ((reports ⟨1, 1⟩).1 .null _).mpr ⟨absent, rfl⟩
  rcases facts _ rfl with ⟨keys, distinct, refused⟩
  exact ⟨_, rfl, rfl, keys, distinct, refused rfl⟩

end Custody

end TaskAgent
