import Mathlib.Data.List.Find
import Mathlib.Data.List.Nodup
import TaskAgent.Proofs.Worker.Restore

/-!
# The algebra of taking records back

Of all the records that are taken back under one key, with what stood there before, the first one
stays (`Tracker.find?_updates_restore`). Everything else follows from looking up a key: lists may
be taken back in one go or one after the other, a second time changes nothing, and their order
matters only where they name a key twice. So what was handed over can come back in whatever order
it arrives (`Tracker.restore_algebra`).
-/

namespace TaskAgent

namespace Tracker

variable {tracker : Tracker} {records : List TaskRecord} {key : TaskKey}

theorem restore_append (tracker : Tracker) (records later : List TaskRecord) :
    tracker.restore (records ++ later) = (tracker.restore records).restore later := by
  simp [restore, List.foldl_append]

theorem find?_restore_of_held {held : TaskRecord}
    (stands : tracker.updates.find? key = some held) :
    (tracker.restore records).updates.find? key = some held := by
  rw [find?_updates_restore, stands, Option.some_or]

/-- A key that was missing receives the first record of the list that names it. -/
theorem find?_restore_of_first {before after : List TaskRecord} {record : TaskRecord}
    (absent : record.key ∉ tracker.updates.keys)
    (first : ∀ earlier ∈ before, earlier.key ≠ record.key) :
    (tracker.restore (before ++ record :: after)).updates.find? record.key = some record := by
  have missing : tracker.updates.find? record.key = none := by
    refine Option.eq_none_iff_forall_ne_some.mpr ?_
    intro held stands
    exact absent (Ledger.mem_keys.mpr ⟨held, stands⟩)
  have passed : (before.find? fun earlier => decide (earlier.key = record.key)) = none := by
    refine List.find?_eq_none.mpr ?_
    intro earlier member
    simpa using first earlier member
  rw [find?_updates_restore, missing, Option.none_or, List.find?_append, passed]
  simp

theorem mem_keys_restore :
    key ∈ (tracker.restore records).updates.keys ↔
      key ∈ tracker.updates.keys ∨ ∃ record ∈ records, record.key = key := by
  simp only [Ledger.mem_keys, find?_updates_restore, ← Option.isSome_iff_exists, Option.isSome_or,
    Bool.or_eq_true, List.find?_isSome, decide_eq_true_eq]

/-- Records whose keys all have an entry come back for nothing. -/
theorem restore_of_listed (listed : ∀ record ∈ records, record.key ∈ tracker.updates.keys) :
    tracker.restore records = tracker := by
  refine eq_of_updates rfl rfl rfl ?_
  intro key
  rw [find?_updates_restore]
  cases stands : tracker.updates.find? key with
  | some held => exact Option.some_or
  | none =>
      refine (Option.none_or).trans (List.find?_eq_none.mpr ?_)
      intro record member same
      have own : record.key = key := by simpa using same
      rcases Ledger.mem_keys.mp (listed record member) with ⟨held, found⟩
      simp [own, stands] at found

theorem restore_restore (tracker : Tracker) (records : List TaskRecord) :
    (tracker.restore records).restore records = tracker.restore records := by
  apply restore_of_listed
  intro record member
  exact mem_keys_restore.mpr (Or.inr ⟨record, member, rfl⟩)

/-- The order of a list decides only between records under one key. -/
theorem restore_eq_of_perm {other : List TaskRecord}
    (distinct : (records.map TaskRecord.key).Nodup) (same : other.Perm records) :
    tracker.restore other = tracker.restore records := by
  refine eq_of_updates rfl rfl rfl ?_
  intro key
  have found := List.find?_eq_find?_of_perm (p := fun record => decide (record.key = key))
    same.symm ?_
  · rw [find?_updates_restore, find?_updates_restore, found]
  · rintro first ⟨inFirst, ofFirst⟩ second ⟨inSecond, ofSecond⟩
    have ofFirst : first.key = key := by simpa using ofFirst
    have ofSecond : second.key = key := by simpa using ofSecond
    exact List.inj_on_of_nodup_map distinct inFirst inSecond (ofFirst.trans ofSecond.symm)

/-- Taking records back never changes what stands among the changes and nothing else of the
tracker. Afterwards there are changes under the old keys and the keys of the list, a new one being
the first record of the list under its key. Two lists come back as one list would, a list that
comes back twice as if it came once, and a list of different keys in whatever order. The tracker of
any worker hands over its changes, one record for each key, and keeps none of them; they come back
to where they stood, again in whatever order. -/
theorem restore_algebra (tracker : Tracker) (records later : List TaskRecord) :
    ((∀ key held, tracker.updates.find? key = some held →
        (tracker.restore records).updates.find? key = some held) ∧
      (tracker.restore records).handles = tracker.handles ∧
      (tracker.restore records).unfinished = tracker.unfinished ∧
      (tracker.restore records).address = tracker.address) ∧
    ((∀ key, key ∈ (tracker.restore records).updates.keys ↔
        key ∈ tracker.updates.keys ∨ ∃ record ∈ records, record.key = key) ∧
      (∀ before record after, records = before ++ record :: after →
        record.key ∉ tracker.updates.keys → (∀ earlier ∈ before, earlier.key ≠ record.key) →
        (tracker.restore records).updates.find? record.key = some record)) ∧
    (tracker.restore records).restore later = tracker.restore (records ++ later) ∧
    (tracker.restore records).restore records = tracker.restore records ∧
    (∀ other, other.Perm records → (records.map TaskRecord.key).Nodup →
      tracker.restore other = tracker.restore records) ∧
    ∀ pool registry address events worker,
      (Worker.make pool registry address).run? events = some worker → worker.tracker = tracker →
      ((∀ key record, tracker.updates.find? key = some record ↔
          record ∈ tracker.drain.1 ∧ record.key = key) ∧
        (tracker.drain.1.map TaskRecord.key).Nodup ∧ tracker.drain.2.updates.keys = []) ∧
      ∀ other, other.Perm tracker.drain.1 → tracker.drain.2.restore other = tracker := by
  refine ⟨⟨?_, rfl, rfl, rfl⟩, ⟨?_, ?_⟩, ?_, ?_, ?_, ?_⟩
  · intro key held stands
    exact find?_restore_of_held stands
  · intro key
    exact mem_keys_restore
  · intro before record after split absent first
    rw [split]
    exact find?_restore_of_first absent first
  · exact (restore_append tracker records later).symm
  · exact restore_restore tracker records
  · intro other same distinct
    exact restore_eq_of_perm distinct same
  · intro pool registry address events worker ran reached
    have keyed : tracker.Keyed := reached ▸ Worker.keyed_of_run? ran (keyed_ofAddress address)
    refine ⟨⟨fun key record => keyed.find?_updates_iff, keyed.nodup_drain, rfl⟩, ?_⟩
    intro other same
    exact restore_of_perm keyed same

/-- Two tasks are accepted. -/
def twoSubmissions : List Event :=
  [.submit ⟨⟨1, 1⟩, ⟨"job"⟩, .null, "scratch"⟩, .submit ⟨⟨1, 2⟩, ⟨"job"⟩, .null, "scratch"⟩]

/-- The records of one of them and of a third task. -/
def twoRecords : List TaskRecord :=
  [⟨⟨1, 2⟩, .completed, some .null, none, ⟨"host", 1, 2⟩⟩,
    ⟨⟨1, 3⟩, .canceled, none, none, ⟨"host", 1, 2⟩⟩]

/-- The task in flight keeps its record, the third one receives its own, in either order, and both
tasks in flight come back after they were handed over. -/
theorem restore_algebra_twoRecords :
    ∃ worker, (Worker.make (.ofSize 1) .empty ⟨"host", 1, 2⟩).run? twoSubmissions = some worker ∧
      (worker.tracker.restore twoRecords).updates.find? ⟨1, 2⟩ =
        some (.running ⟨1, 2⟩ ⟨"host", 1, 2⟩) ∧
      (worker.tracker.restore twoRecords).updates.find? ⟨1, 3⟩ =
        some ⟨⟨1, 3⟩, .canceled, none, none, ⟨"host", 1, 2⟩⟩ ∧
      worker.tracker.restore twoRecords.reverse = worker.tracker.restore twoRecords ∧
      worker.tracker.drain.2.restore worker.tracker.drain.1.reverse = worker.tracker := by
  refine ⟨_, rfl, ?_⟩
  rcases restore_algebra _ twoRecords [] with
    ⟨⟨kept, -⟩, ⟨-, first⟩, -, -, reordered, returned⟩
  refine ⟨?_, ?_, ?_, ?_⟩
  · exact kept ⟨1, 2⟩ _ rfl
  · exact first twoRecords.dropLast ⟨⟨1, 3⟩, .canceled, none, none, ⟨"host", 1, 2⟩⟩ [] rfl
      (by decide) (by decide)
  · exact reordered twoRecords.reverse (List.reverse_perm _) (by decide)
  · rcases returned (.ofSize 1) .empty ⟨"host", 1, 2⟩ twoSubmissions _ rfl rfl with ⟨-, back⟩
    exact back _ (List.reverse_perm _)

end Tracker

end TaskAgent
