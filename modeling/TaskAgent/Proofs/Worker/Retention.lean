import TaskAgent.Proofs.Worker.Restore

/-!
# How long a final record waits

The changed records of a worker are one per task. A final record among them waits to be handed
over, and nothing but a drain takes it away without a successor. A successor belongs to another
life of the same task, and there are two of them (`Worker.Supersedes`): a task that has ended may
be accepted once more, which starts a fresh record; and when an older final record was taken back
while the task is in flight again, the end of that later life takes its place.

The second needs such a record to come back: as long as none does, a task with a final record
among the changes is not in flight (`Worker.EndsApart`).
-/

namespace TaskAgent

namespace Worker

variable {worker changed : Worker} {event : Event} {events : List Event} {key : TaskKey}
  {record : TaskRecord}

/-- What may come in the place of the changed record of a task. -/
inductive Supersedes (worker : Worker) (key : TaskKey) : Event → TaskRecord → Prop where
  /-- The task is not in flight and is accepted once more. -/
  | accepted {submission : Submission} (own : submission.key = key)
      (fresh : worker.tracker.unfinished.find? key = none) :
      Supersedes worker key (.submit submission) (.running key worker.tracker.address)
  /-- The task is in flight and ends. -/
  | ended {event : Event} {old final : TaskRecord}
      (inFlight : worker.tracker.unfinished.find? key = some old)
      (finishes : worker.effect event = .finish key final) (ends : old.EndsAs final) :
      Supersedes worker key event final

theorem drain_of_effect (hands : worker.effect event = .handOver) : event = .drain := by
  have transfers := isTransfer_effect worker event
  rw [hands] at transfers
  cases event with
  | drain => rfl
  | restore records => cases hands
  | _ => cases transfers

theorem restore_of_effect {records : List TaskRecord}
    (takes : worker.effect event = .takeBack records) : event = .restore records := by
  have transfers := isTransfer_effect worker event
  rw [takes] at transfers
  cases event with
  | drain => cases takes
  | restore others =>
      cases takes
      rfl
  | _ => cases transfers

/-- Only a drain takes a changed record away; whatever else happens, it stays or is superseded. -/
theorem retained_of_step? (stepped : worker.step? event = some changed)
    (held : worker.tracker.updates.find? key = some record) (undrained : event ≠ .drain) :
    changed.tracker.updates.find? key = some record ∨
      ∃ next, worker.Supersedes key event next ∧
        changed.tracker.updates.find? key = some next := by
  rw [tracker_of_step? stepped]
  cases effect : worker.effect event with
  | nothing => exact Or.inl held
  | accept task number =>
      rw [Tracker.apply_accept, Tracker.find?_updates_accept]
      split
      · next same =>
          subst same
          rcases submit_of_effect effect with ⟨-, fresh, submission, rfl, own⟩
          exact Or.inr ⟨_, .accepted own fresh, rfl⟩
      · exact Or.inl held
  | finish task final =>
      rw [Tracker.apply_finish, Tracker.find?_updates_finish]
      split
      · next same =>
          subst same
          rcases exists_endsAs_of_effect effect with ⟨old, inFlight, ends⟩
          exact Or.inr ⟨final, .ended inFlight effect ends, rfl⟩
      · exact Or.inl held
  | handOver => exact absurd (drain_of_effect effect) undrained
  | takeBack records =>
      refine Or.inl ?_
      rw [Tracker.apply, Tracker.find?_updates_restore, held, Option.some_or]

/-- Until the next drain something stands among the changes for the task, and it is final unless
the task was submitted once more. -/
theorem waits_of_run? (ran : worker.run? events = some changed) (undrained : .drain ∉ events)
    (held : worker.tracker.updates.find? key = some record)
    (final : record.status.isFinal = true) :
    ∃ next, changed.tracker.updates.find? key = some next ∧
      ((∀ submission, .submit submission ∈ events → submission.key ≠ key) →
        next.status.isFinal = true) := by
  let motive := fun worker : Worker => ∃ next, worker.tracker.updates.find? key = some next ∧
    ((∀ submission, .submit submission ∈ events → submission.key ≠ key) →
      next.status.isFinal = true)
  refine keeps_of_run? ran (motive := motive) ⟨record, held, fun _ => final⟩ ?_
  rintro event member before after stepped ⟨next, held, final⟩
  have differs : event ≠ .drain := fun drains => undrained (drains ▸ member)
  rcases retained_of_step? stepped held differs with kept | ⟨later, supersedes, stands⟩
  · exact ⟨next, kept, final⟩
  · refine ⟨later, stands, fun spared => ?_⟩
    cases supersedes with
    | accepted own fresh => exact absurd own (spared _ member)
    | ended inFlight finishes ends => exact ends.isFinal

/-- While the task is not in flight and not submitted, its changed record waits unchanged. -/
theorem unchanged_of_run? (ran : worker.run? events = some changed) (undrained : .drain ∉ events)
    (spared : ∀ submission, .submit submission ∈ events → submission.key ≠ key)
    (held : worker.tracker.updates.find? key = some record)
    (ended : worker.tracker.unfinished.find? key = none) :
    changed.tracker.updates.find? key = some record := by
  let motive := fun worker : Worker => worker.tracker.updates.find? key = some record ∧
    worker.tracker.unfinished.find? key = none
  refine (keeps_of_run? ran (motive := motive) ⟨held, ended⟩ ?_).1
  rintro event member before after stepped ⟨held, ended⟩
  have differs : event ≠ .drain := fun drains => undrained (drains ▸ member)
  have remains : after.tracker.unfinished.find? key = none := by
    rw [tracker_of_step? stepped]
    cases effect : before.effect event with
    | nothing => exact ended
    | accept task number =>
        rcases submit_of_effect effect with ⟨-, -, submission, rfl, own⟩
        have other : task ≠ key := own ▸ spared submission member
        rw [Tracker.apply_accept, Tracker.find?_unfinished_accept, if_neg other, ended]
    | finish task final =>
        rw [Tracker.apply_finish, Tracker.find?_unfinished_finish, ended, ite_self]
    | handOver => exact ended
    | takeBack records => exact ended
  rcases retained_of_step? stepped held differs with kept | ⟨next, supersedes, -⟩
  · exact ⟨kept, remains⟩
  · cases supersedes with
    | accepted own fresh => exact absurd own (spared _ member)
    | ended inFlight finishes ends => simp [ended] at inFlight

/-- A task with a final record among the changes is not in flight. -/
def EndsApart (worker : Worker) (key : TaskKey) : Prop :=
  ∀ record, worker.tracker.updates.find? key = some record → record.status.isFinal = true →
    worker.tracker.unfinished.find? key = none

theorem EndsApart.step (apart : worker.EndsApart key)
    (stepped : worker.step? event = some changed)
    (harmless : ∀ records, event = .restore records →
      ∀ back ∈ records, back.key = key → back.status.isFinal = false) :
    changed.EndsApart key := by
  intro record held final
  rw [tracker_of_step? stepped] at held ⊢
  cases effect : worker.effect event with
  | nothing =>
      rw [effect] at held
      exact apart record held final
  | accept task number =>
      rw [effect, Tracker.apply_accept, Tracker.find?_updates_accept] at held
      rw [Tracker.apply_accept, Tracker.find?_unfinished_accept]
      split at held
      · cases held
        cases final
      · next differs =>
          rw [if_neg differs]
          exact apart record held final
  | finish task ending =>
      rw [effect, Tracker.apply_finish, Tracker.find?_updates_finish] at held
      rw [Tracker.apply_finish, Tracker.find?_unfinished_finish]
      split at held
      · next same => rw [if_pos same]
      · next differs =>
          rw [if_neg differs]
          exact apart record held final
  | handOver =>
      rw [effect] at held
      cases held
  | takeBack records =>
      rw [effect, Tracker.apply, Tracker.find?_updates_restore, Option.or_eq_some_iff] at held
      rcases held with kept | ⟨-, restored⟩
      · exact apart record kept final
      · have own : record.key = key := by simpa using List.find?_some restored
        have runs := harmless records (restore_of_effect effect) record
          (List.mem_of_find?_eq_some restored) own
        simp [final] at runs

theorem endsApart_of_run? (ran : worker.run? events = some changed) (apart : worker.EndsApart key)
    (harmless : ∀ records, .restore records ∈ events →
      ∀ back ∈ records, back.key = key → back.status.isFinal = false) :
    changed.EndsApart key := by
  refine keeps_of_run? ran apart (motive := fun worker => worker.EndsApart key) ?_
  intro event member before after stepped apart
  refine apart.step stepped ?_
  rintro records rfl
  exact harmless records member

/-- A final record that waits in any reachable state is taken away by a drain only. Whatever else
happens to the worker, it stays, or the task is accepted once more, or a later life of the task
ends; so it stays unchanged as long as the task is neither submitted nor in flight. It is in
flight beside such a record only after an older final record of it was taken back. -/
theorem final_record_waits {pool : Pool} {registry : Registry} {address : Address}
    {earlier : List Event} (reached : (make pool registry address).run? earlier = some worker)
    (held : worker.tracker.updates.find? key = some record)
    (final : record.status.isFinal = true) :
    (∀ event changed, worker.step? event = some changed → event ≠ .drain →
      changed.tracker.updates.find? key = some record ∨
        ∃ next, worker.Supersedes key event next ∧
          changed.tracker.updates.find? key = some next) ∧
    (∀ events changed, worker.run? events = some changed → .drain ∉ events →
      (∃ next, changed.tracker.updates.find? key = some next ∧
        ((∀ submission, .submit submission ∈ events → submission.key ≠ key) →
          next.status.isFinal = true)) ∧
      ((∀ submission, .submit submission ∈ events → submission.key ≠ key) →
        worker.tracker.unfinished.find? key = none →
          changed.tracker.updates.find? key = some record)) ∧
    ((∀ records, .restore records ∈ earlier →
      ∀ back ∈ records, back.key = key → back.status.isFinal = false) →
        worker.tracker.unfinished.find? key = none) := by
  refine ⟨?_, ?_, ?_⟩
  · intro event changed stepped undrained
    exact retained_of_step? stepped held undrained
  · intro events changed ran undrained
    refine ⟨waits_of_run? ran undrained held final, ?_⟩
    intro spared ended
    exact unchanged_of_run? ran undrained spared held ended
  · intro harmless
    have initially : (make pool registry address).EndsApart key := by
      intro record held
      cases held
    exact endsApart_of_run? reached initially harmless record held final

/-- A task that has completed, with its record still to be handed over. -/
def completedOnce : List Event :=
  [.register "job" .script, .submit ⟨⟨1, 1⟩, ⟨"job"⟩, .null, "scratch"⟩, .grant 0, .start 0,
    .finish 0 (.ok .null), .commit 0, .report 0, .exit 0]

/-- The task is in flight a second time when its completed record comes back. -/
def completedBeforehand : List Event :=
  completedOnce ++ [.drain, .submit ⟨⟨1, 1⟩, ⟨"job"⟩, .null, "scratch"⟩, .drain,
    .restore [⟨⟨1, 1⟩, .completed, some .null, none, ⟨"host", 1, 2⟩⟩]]

/-- A final record that was not handed over gives way to the next acceptance of its task, and one
that came back gives way to the end of the later life of its task. -/
theorem final_record_gives_way :
    (∃ worker changed, (make (.ofSize 1) .empty ⟨"host", 1, 2⟩).run? completedOnce = some worker ∧
      worker.step? (.submit ⟨⟨1, 1⟩, ⟨"job"⟩, .null, "scratch"⟩) = some changed ∧
      (worker.tracker.updates.find? ⟨1, 1⟩).map TaskRecord.status = some .completed ∧
      (changed.tracker.updates.find? ⟨1, 1⟩).map TaskRecord.status = some .running) ∧
    ∃ worker changed,
      (make (.ofSize 1) .empty ⟨"host", 1, 2⟩).run? completedBeforehand = some worker ∧
      worker.step? (.cancel ⟨1, 1⟩) = some changed ∧
      (worker.tracker.updates.find? ⟨1, 1⟩).map TaskRecord.status = some .completed ∧
      (changed.tracker.updates.find? ⟨1, 1⟩).map TaskRecord.status = some .canceled :=
  ⟨⟨_, _, rfl, rfl, rfl, rfl⟩, ⟨_, _, rfl, rfl, rfl, rfl⟩⟩

/-- Another task is accepted and called off. -/
def otherTask : List Event :=
  [.submit ⟨⟨1, 2⟩, ⟨"job"⟩, .null, "scratch"⟩, .cancel ⟨1, 1⟩, .cancel ⟨1, 2⟩]

/-- A completed record waits through the whole life of another task. -/
theorem final_record_waits_otherTask :
    ∃ worker record changed,
      (make (.ofSize 1) .empty ⟨"host", 1, 2⟩).run? completedOnce = some worker ∧
      worker.tracker.updates.find? ⟨1, 1⟩ = some record ∧ record.status.isFinal = true ∧
      worker.run? otherTask = some changed ∧
      changed.tracker.updates.find? ⟨1, 1⟩ = some record := by
  have waits : ∀ worker record changed,
      (make (.ofSize 1) .empty ⟨"host", 1, 2⟩).run? completedOnce = some worker →
        worker.tracker.updates.find? ⟨1, 1⟩ = some record → record.status.isFinal = true →
          worker.run? otherTask = some changed →
            changed.tracker.updates.find? ⟨1, 1⟩ = some record := by
    intro worker record changed reached held final ran
    rcases final_record_waits reached held final with ⟨-, waits, apart⟩
    refine (waits otherTask changed ran (by simp [otherTask])).2 ?_ ?_
    · intro submission member
      simp [otherTask] at member
      simp [member]
    · apply apart
      intro records member
      simp [completedOnce] at member
  exact ⟨_, _, _, rfl, rfl, rfl, rfl, waits _ _ _ rfl rfl rfl rfl⟩

end Worker

end TaskAgent
