import TaskAgent.Proofs.Worker.Chronicle
import TaskAgent.Proofs.Worker.Handshake

/-!
# One final record for every accepted task

A task may be called off while its runner commits itself, be submitted again, and be called off
again while the runner of its first acceptance still computes. As long as only runners report,
every acceptance leads to at most one final record all the same (`Worker.final_record_once`): a
final record is made only where an open runner has the handle, and that step takes the handle
away for good, because a later acceptance of the same key has a handle of its own.
-/

namespace TaskAgent.Worker

variable {worker changed : Worker} {event : Event} {events : List Event} {key : TaskKey}
  {number : Nat} {record : TaskRecord}

theorem address_of_run? (ran : worker.run? events = some changed) :
    changed.tracker.address = worker.tracker.address := by
  apply keeps_of_run? ran rfl (motive := fun after =>
    after.tracker.address = worker.tracker.address)
  intro event member before after stepped same
  rw [tracker_of_step? stepped, Tracker.address_apply, same]

theorem submissions_prefix_of_run? (ran : worker.run? events = some changed) :
    worker.submissions <+: changed.submissions := by
  apply keeps_of_run? ran (List.prefix_refl _) (motive := fun after =>
    worker.submissions <+: after.submissions)
  intro event member before after stepped earlier
  exact earlier.trans (submissions_prefix_of_change (change_of_step? stepped))

theorem getElem?_submissions_of_run? {submission : Submission}
    (ran : worker.run? events = some changed)
    (accepted : worker.submissions[number]? = some submission) :
    changed.submissions[number]? = some submission :=
  getElem?_of_prefix (submissions_prefix_of_run? ran) accepted

theorem submission_eq_of_run? {runner after : Runner} (ran : worker.run? events = some changed)
    (found : worker.runners[number]? = some runner)
    (foundAfter : changed.runners[number]? = some after) :
    after.submission = runner.submission := by
  have kept := getElem?_submissions_of_run? ran (getElem?_submissions found)
  exact Option.some.inj ((getElem?_submissions foundAfter).symm.trans kept)

theorem length_submissions (worker : Worker) :
    worker.submissions.length = worker.runners.length := by
  simp [submissions]

/-- A final record may still be made for the task that was accepted in this place. -/
def MayEnd (worker : Worker) (number : Nat) : Prop :=
  (∃ key, worker.tracker.handles.find? key = some number) ∨ worker.runners.length ≤ number

theorem length_runners_le (stepped : worker.step? event = some changed) :
    worker.runners.length ≤ changed.runners.length := by
  rw [← length_submissions, ← length_submissions]
  exact (submissions_prefix_of_change (change_of_step? stepped)).length_le

/-- A handle is new only where its task is accepted. -/
theorem handle_of_step? (stepped : worker.step? event = some changed)
    (handle : changed.tracker.handles.find? key = some number) :
    worker.tracker.handles.find? key = some number ∨ worker.effect event = .accept key number := by
  rw [tracker_of_step? stepped] at handle
  cases effect : worker.effect event with
  | nothing =>
      rw [effect] at handle
      exact Or.inl handle
  | accept task place =>
      rw [effect, Tracker.apply_accept, Tracker.find?_handles_accept] at handle
      split at handle
      · next same =>
          cases handle
          exact Or.inr (same ▸ rfl)
      · exact Or.inl handle
  | finish task final =>
      rw [effect, Tracker.apply_finish, Tracker.find?_handles_finish] at handle
      split at handle
      · cases handle
      · exact Or.inl handle
  | handOver =>
      rw [effect] at handle
      exact Or.inl handle
  | takeBack records =>
      rw [effect] at handle
      exact Or.inl handle

theorem mayEnd_of_step? (stepped : worker.step? event = some changed)
    (mayEnd : changed.MayEnd number) : worker.MayEnd number := by
  rcases mayEnd with ⟨key, handle⟩ | beyond
  · rcases handle_of_step? stepped handle with before | accepts
    · exact Or.inl ⟨key, before⟩
    · exact Or.inr (Nat.le_of_eq (submit_of_effect accepts).1.symm)
  · exact Or.inr (Nat.le_trans (length_runners_le stepped) beyond)

/-- A task ends by a cancellation or by the report of the runner that it was given to. -/
theorem exists_handle_of_effect (coherent : worker.Coherent)
    (own : event.isDeclaration = false) (finishes : worker.effect event = .finish key record) :
    ∃ number submission, worker.tracker.handles.find? key = some number ∧
      worker.submissions[number]? = some submission ∧ submission.key = key ∧
        (event.author = .canceler ∨ event.author = .runner number) := by
  cases event with
  | submit submission =>
      simp only [effect] at finishes
      split at finishes <;> cases finishes
  | cancel task =>
      rcases Effect.ending_eq_finish.mp finishes with ⟨rfl, final⟩
      rcases Option.bind_eq_some_iff.mp final with ⟨old, unfinished, -⟩
      rcases coherent.handle_of_unfinished unfinished with ⟨-, number, handle⟩
      rcases coherent.handle_iff.mp handle with ⟨runner, found, same, -⟩
      exact ⟨number, runner.submission, handle, getElem?_submissions found, same, Or.inl rfl⟩
  | report place =>
      simp only [effect, reporting?] at finishes
      split at finishes
      · next task outcome reporting =>
          rcases Effect.ending_eq_finish.mp finishes with ⟨rfl, -⟩
          split at reporting
          · next runner found =>
              split at reporting
              · next ended stage =>
                  cases reporting
                  have isOpen := coherent.isOpen_of_reporting found stage
                  exact ⟨place, runner.submission, coherent.handle found isOpen,
                    getElem?_submissions found, rfl, Or.inr rfl⟩
              · cases reporting
          · cases reporting
      · cases finishes
  | complete task result => cases own
  | fail task message => cases own
  | _ => cases finishes

/-- Once its final record is made, none is made any more for the same acceptance. -/
theorem not_mayEnd_of_effect (coherent : worker.Coherent)
    (stepped : worker.step? event = some changed)
    (finishes : worker.effect event = .finish key record)
    (handle : worker.tracker.handles.find? key = some number) : ¬changed.MayEnd number := by
  rcases coherent.handle_iff.mp handle with ⟨runner, found, same, -⟩
  rintro (⟨task, later⟩ | beyond)
  · rw [tracker_of_step? stepped, finishes, Tracker.apply_finish,
      Tracker.find?_handles_finish] at later
    split at later
    · cases later
    · next differs => exact differs (same.symm.trans (coherent.isOpen_of_handle later found).1)
  · have inside := (List.getElem?_eq_some_iff.mp found).1
    have grows := length_runners_le stepped
    omega

theorem filter_isFinal_made?
    (continues : ∀ key record, worker.effect event ≠ .finish key record) :
    (worker.made? event).toList.filter Entry.isFinal = [] := by
  unfold made?
  cases effect : worker.effect event with
  | finish key record => exact absurd effect (continues key record)
  | _ => rfl

/-- What a run adds to the final records: each has a handle of its own, and was made by a
cancellation or by the runner behind the handle. -/
theorem finals_of_run? (coherent : worker.Coherent) (ran : worker.run? events = some changed)
    (own : ∀ event ∈ events, event.isDeclaration = false) :
    (((worker.chronicle events).filter Entry.isFinal).map Entry.number).Nodup ∧
      ∀ entry ∈ (worker.chronicle events).filter Entry.isFinal, ∃ number submission,
        entry.number = some number ∧ worker.MayEnd number ∧
          changed.submissions[number]? = some submission ∧
            entry.record.key = submission.key ∧
              (entry.author = .canceler ∨ entry.author = .runner number) := by
  induction events generalizing worker with
  | nil => simp [chronicle]
  | cons event rest ih =>
      rcases exists_of_run?_cons ran with ⟨middle, stepped, ran⟩
      have ownEvent := own event List.mem_cons_self
      have coherentMiddle := coherent.change (change_of_step? stepped) ownEvent
      rcases ih coherentMiddle ran fun later member => own later (List.mem_cons_of_mem _ member)
        with ⟨distinct, made⟩
      have later : ∀ entry ∈ (middle.chronicle rest).filter Entry.isFinal,
          ∃ number submission, entry.number = some number ∧ worker.MayEnd number ∧
            changed.submissions[number]? = some submission ∧
              entry.record.key = submission.key ∧
                (entry.author = .canceler ∨ entry.author = .runner number) := by
        intro entry member
        rcases made entry member with ⟨number, submission, handle, mayEnd, facts⟩
        exact ⟨number, submission, handle, mayEnd_of_step? stepped mayEnd, facts⟩
      rw [chronicle_cons_of_step? stepped]
      by_cases ends : ∃ key record, worker.effect event = .finish key record
      · rcases ends with ⟨key, record, effect⟩
        rcases exists_handle_of_effect coherent ownEvent effect with
          ⟨number, submission, handle, accepted, same, author⟩
        rcases exists_unfinished_of_effect effect with ⟨old, unfinished, ownKey, final⟩
        have key_eq : record.key = submission.key := by
          rw [ownKey, (coherent.handle_of_unfinished unfinished).1, same]
          rfl
        have isFinal : Entry.isFinal ⟨event.author, some number, record⟩ = true := final
        simp only [made?, effect, handle, Option.toList_some, List.singleton_append,
          List.filter_cons_of_pos isFinal, List.map_cons, List.nodup_cons]
        refine ⟨⟨?_, distinct⟩, ?_⟩
        · intro again
          rcases List.mem_map.mp again with ⟨entry, member, sameNumber⟩
          rcases made entry member with ⟨place, -, handled, mayEnd, -⟩
          cases handled.symm.trans sameNumber
          exact not_mayEnd_of_effect coherent stepped effect handle mayEnd
        · intro entry member
          rcases List.mem_cons.mp member with rfl | member
          · have kept : changed.submissions[number]? = some submission :=
              getElem?_submissions_of_run? (run?_cons_of_step? stepped rest ▸ ran) accepted
            exact ⟨number, submission, rfl, Or.inl ⟨key, handle⟩, kept, key_eq, author⟩
          · exact later entry member
      · have continues : ∀ key record, worker.effect event ≠ .finish key record := by
          intro key record effect
          exact ends ⟨key, record, effect⟩
        rw [List.filter_append, filter_isFinal_made? continues, List.nil_append]
        exact ⟨distinct, later⟩

theorem complete_eq_ok (unfinished : worker.tracker.unfinished.find? key = some record)
    (result : Json) : ∃ changed, worker.complete key result = .ok changed := by
  simp [complete, Tracker.complete, unfinished, Except.map]

theorem fail_eq_ok (unfinished : worker.tracker.unfinished.find? key = some record)
    (message : String) : ∃ changed, worker.fail key message = .ok changed := by
  simp [fail, Tracker.fail, unfinished, Except.map]

/-- At most one final record is made for an accepted task, by whoever called it off or by its own
runner. A runner that is bound to report finds the record of its own task in flight, so its
report is never refused. A task in flight is not accepted again. -/
theorem final_record_once {pool : Pool} {registry : Registry} {address : Address}
    (ran : (make pool registry address).run? events = some worker)
    (own : ∀ event ∈ events, event.isDeclaration = false) :
    let finals := ((make pool registry address).chronicle events).filter Entry.isFinal
    (finals.map Entry.number).Nodup ∧
    (∀ entry ∈ finals, ∃ number submission, entry.number = some number ∧
      worker.submissions[number]? = some submission ∧ entry.record.key = submission.key ∧
        (entry.author = .canceler ∨ entry.author = .runner number)) ∧
    (∀ number runner outcome, worker.runners[number]? = some runner →
      runner.stage = .reporting outcome →
        worker.tracker.handles.find? runner.submission.key = some number ∧
        worker.tracker.unfinished.find? runner.submission.key =
          some (.running runner.submission.key address) ∧
        (∀ result, ∃ changed, worker.complete runner.submission.key result = .ok changed) ∧
        ∀ message, ∃ changed, worker.fail runner.submission.key message = .ok changed) ∧
    (∀ submission, worker.tracker.isInFlight submission.key = true →
      worker.step? (.submit submission) = some worker) ∧
    (∀ key number, worker.tracker.handles.find? key = some number →
      ∀ later submission, worker.submissions[later]? = some submission →
        submission.key = key → later ≤ number) ∧
    ∀ event changed, worker.step? event = some changed →
      changed.tracker = worker.tracker.apply (worker.effect event) := by
  have initially := coherent_make pool registry address
  have coherent := coherent_of_run? ran own initially
  rcases finals_of_run? initially ran own with ⟨distinct, made⟩
  refine ⟨distinct, ?_, ?_, ?_, ?_, ?_⟩
  · intro entry member
    rcases made entry member with ⟨number, submission, handle, -, accepted, facts⟩
    exact ⟨number, submission, handle, accepted, facts⟩
  · intro number runner outcome found stage
    have isOpen := coherent.isOpen_of_reporting found stage
    have unfinished := coherent.unfinished_of_isOpen found isOpen
    have address_eq : worker.tracker.address = address := address_of_run? ran
    rw [address_eq] at unfinished
    exact ⟨coherent.handle found isOpen, unfinished, complete_eq_ok unfinished,
      fail_eq_ok unfinished⟩
  · intro submission inFlight
    simp [step?, submit, inFlight]
  · intro key number handle later submission accepted same
    rcases getElem?_submissions_eq_some_iff.mp accepted with ⟨rival, found, rfl⟩
    exact coherent.latest handle found same
  · intro event changed stepped
    exact tracker_of_step? stepped

/-- A task is called off at work and submitted again while its first runner still computes; that
runner ends without a report, and a cancellation finds the second one committed. -/
def resubmission : List Event :=
  let task : Submission := ⟨⟨1, 2⟩, ⟨"job"⟩, .null, "scratch"⟩
  [.register "job" .script, .submit task, .grant 0, .start 0, .cancel task.key, .submit task,
    .finish 0 (.ok .null), .commit 0, .exit 0, .grant 1, .start 1, .finish 1 (.ok .null),
    .commit 1, .cancel task.key, .submit task]

theorem final_record_once_resubmission :
    ∃ worker runner,
      (make (.ofSize 1) .empty ⟨"host", 1, 2⟩).run? resubmission = some worker ∧
      worker.runners[1]? = some runner ∧ runner.stage = .reporting (.ok .null) ∧
      worker.tracker.handles.find? runner.submission.key = some 1 ∧
      ((((make (.ofSize 1) .empty ⟨"host", 1, 2⟩).chronicle resubmission).filter
        Entry.isFinal).map Entry.number).Nodup := by
  refine ⟨_, _, rfl, rfl, rfl, ?_⟩
  have own : ∀ event ∈ resubmission, event.isDeclaration = false := by decide
  have ran : (make (.ofSize 1) .empty ⟨"host", 1, 2⟩).run? resubmission = some _ := rfl
  rcases final_record_once ran own with ⟨distinct, -, bound, -⟩
  exact ⟨(bound 1 _ _ rfl rfl).1, distinct⟩

end TaskAgent.Worker
