import TaskAgent.Proofs.Worker.Chronicle
import TaskAgent.Proofs.Worker.Discarded
import TaskAgent.Proofs.Worker.Handshake

/-!
# Calling a task off

What a cancellation comes to depends on how far the task has come (`Runner.Phase`). A task that
has not started is canceled and its job never begins; one at work is canceled; one in a shielded
section fails. In each case the record is final at once and how the job ends is heard of nowhere.
Once its runner has committed itself, a cancellation changes nothing
(`Worker.cancel_by_phase`).

As long as only runners report, a task in flight is in exactly one of these phases, because the
runner behind its handle is open.
-/

namespace TaskAgent

namespace Runner

/-- How far a task has come, as far as cancellations are concerned. -/
inductive Phase where
  /-- Its runner has not started. -/
  | unstarted
  /-- It is at work, or its job has just ended. -/
  | exposed
  /-- It is in a shielded section, or its job broke off there. -/
  | shielded
  /-- Its runner is bound to report. -/
  | committed
deriving DecidableEq

/-- The signal of a task in a phase. -/
def Phase.signal : Phase → Signal
  | unstarted => .queued
  | exposed => .running
  | shielded => .shielded
  | committed => .reported

/-- The phase of a task by its runner; none when the task was called off or has been reported. -/
def phase? (runner : Runner) : Option Phase :=
  match runner.stage, runner.signal with
  | .waiting, .queued | .admitted, .queued | .refused, .queued => some .unstarted
  | .working _, .running | .ended _, .running => some .exposed
  | .working _, .shielded | .ended _, .shielded => some .shielded
  | .reporting _, .reported => some .committed
  | _, _ => none

variable {registry : Registry} {number : Nat} {event : Event} {runner moved : Runner}
  {phase : Phase}

theorem IsOpen.exists_phase? (isOpen : runner.IsOpen) : ∃ phase, runner.phase? = some phase := by
  rcases runner with ⟨submission, signal, stage, slot⟩
  cases stage <;> cases signal <;> simp_all [IsOpen, phase?]

theorem signal_of_phase? (reached : runner.phase? = some phase) : runner.signal = phase.signal := by
  rcases runner with ⟨submission, signal, stage, slot⟩
  cases stage <;> cases signal <;> cases reached <;> rfl

theorem isReporting_of_phase? (reached : runner.phase? = some phase) :
    (∃ outcome, runner.stage = .reporting outcome) ↔ phase = .committed := by
  rcases runner with ⟨submission, signal, stage, slot⟩
  cases stage <;> cases signal <;> cases reached <;> simp

theorem isWorking_of_unstarted (unstarted : runner.phase? = some .unstarted) :
    runner.isWorking = false := by
  rcases runner with ⟨submission, signal, stage, slot⟩
  cases stage <;> cases signal <;> cases unstarted <;> rfl

/-- An interruption calls the task off in every phase but the last. -/
theorem isCalledOff_of_phase? (reached : runner.phase? = some phase)
    (uncommitted : phase ≠ .committed) :
    ({ runner with signal := runner.signal.interrupt.2 } : Runner).IsCalledOff := by
  have signal := signal_of_phase? reached
  refine ⟨?_, ?_⟩
  · cases phase <;> simp_all [Phase.signal, Signal.interrupt, Signal.isInterrupted]
  · intro outcome stage
    exact uncommitted ((isReporting_of_phase? reached).mp ⟨outcome, stage⟩)

/-- The job of a runner whose task was called off does not begin any more. -/
theorem Lives.isWorking_eq_false (lives : Lives registry number event runner moved)
    (calledOff : runner.IsCalledOff) (idle : runner.isWorking = false) :
    moved.isWorking = false := by
  cases lives with
  | untouched alien => exact idle
  | interrupted => exact idle
  | granted waits => rfl
  | refused waits => rfl
  | started stepped =>
      have signal := calledOff.signal
      rcases Works.start_cases stepped with ⟨-, queued, -⟩ | ⟨-, queued, -⟩ | ⟨-, -, rfl⟩
      · simp [queued] at signal
      · simp [queued] at signal
      · rfl
  | entered stepped =>
      rcases Works.change_cases stepped with ⟨-, rfl⟩
      exact idle
  | left stepped =>
      rcases Works.change_cases stepped with ⟨-, rfl⟩
      exact idle
  | finished stepped =>
      rcases Works.finish_cases stepped with ⟨-, rfl⟩
      rfl
  | committed stepped =>
      rcases Works.commit_cases stepped with ⟨outcome, -, ⟨-, rfl⟩ | ⟨-, -, rfl⟩⟩
      · rfl
      · rfl
  | reported stage => rfl
  | gone stage => rfl

end Runner

namespace Worker

variable {worker changed : Worker} {event : Event} {key : TaskKey} {number : Nat}
  {runner : Runner}

/-- The task is out of flight, and this is the record that is handed over next. -/
structure HasEnded (worker : Worker) (key : TaskKey) (record : TaskRecord) : Prop where
  idle : worker.tracker.isInFlight key = false
  unhandled : worker.tracker.handles.find? key = none
  changed : worker.tracker.updates.find? key = some record

/-- The job of the runner does not run at any later time. -/
def NeverWorks (worker : Worker) (number : Nat) : Prop :=
  ∀ later final runner, worker.run? later = some final →
    final.runners[number]? = some runner → runner.isWorking = false

/-- The runner makes no record at any later time, and the records are the same however its job
ends. -/
def Discards (worker : Worker) (number : Nat) : Prop :=
  ∀ later final, worker.run? later = some final →
    (∀ entry ∈ worker.chronicle later, entry.author ≠ .runner number) ∧
    ∀ outcome, (worker.run? (later.map (.withOutcome number outcome))).map (·.tracker) =
      some final.tracker

/-- What a cancellation comes to in each phase. -/
def CanceledIn (worker : Worker) (key : TaskKey) (number : Nat) : Runner.Phase → Prop
  | .unstarted =>
    (worker.cancel key).HasEnded key ⟨key, .canceled, none, none, worker.tracker.address⟩ ∧
      (worker.cancel key).NeverWorks number ∧ (worker.cancel key).Discards number
  | .exposed =>
    (worker.cancel key).HasEnded key ⟨key, .canceled, none, none, worker.tracker.address⟩ ∧
      (worker.cancel key).Discards number
  | .shielded =>
    (worker.cancel key).HasEnded key
        ⟨key, .failed, none, some "Failed to cancel the task", worker.tracker.address⟩ ∧
      (worker.cancel key).Discards number
  | .committed => worker.cancel key = worker

theorem neverWorks (runner : Runner) (found : worker.runners[number]? = some runner)
    (calledOff : runner.IsCalledOff) (idle : runner.isWorking = false) :
    worker.NeverWorks number := by
  intro later final moved ran foundLater
  have kept := runner_keeps_of_run? ran found ⟨calledOff, idle⟩ (motive := fun runner =>
    runner.IsCalledOff ∧ runner.isWorking = false) fun lives facts =>
      ⟨lives.isCalledOff facts.1, lives.isWorking_eq_false facts.1 facts.2⟩
  rcases kept with ⟨runner, foundAgain, -, idle⟩
  cases foundLater.symm.trans foundAgain
  exact idle

theorem author_eq_of_made? {entry : Entry} (made : worker.made? event = some entry) :
    entry.author = event.author := by
  unfold made? at made
  split at made
  · cases made
    rfl
  · cases made
    rfl
  · cases made

/-- A runner makes a record only when it is bound to report. -/
theorem author_ne_of_made? (found : worker.runners[number]? = some runner)
    (calledOff : runner.IsCalledOff) {entry : Entry} (made : worker.made? event = some entry) :
    entry.author ≠ .runner number := by
  rw [author_eq_of_made? made]
  intro mine
  cases event with
  | report place =>
      cases mine
      have silent : worker.reporting? number = none := by
        simp only [reporting?, found]
        split
        · next outcome stage => exact absurd stage (calledOff.2 outcome)
        · rfl
      have quiet : worker.effect (.report number) = .nothing := by simp only [effect, silent]
      rw [made?, quiet] at made
      cases made
  | _ => cases mine

/-- The end of a job is heard of nowhere once its task was called off. -/
theorem discards (found : worker.runners[number]? = some runner)
    (calledOff : runner.IsCalledOff) : worker.Discards number := by
  intro later final ran
  refine ⟨?_, ?_⟩
  · have initially : (∃ runner, worker.runners[number]? = some runner ∧ runner.IsCalledOff) ∧
        ∀ entry ∈ ([] : Chronicle), entry.author ≠ .runner number := by
      refine ⟨⟨runner, found, calledOff⟩, ?_⟩
      intro entry member
      cases member
    refine (chronicle_keeps ran initially (motive := fun past worker =>
      (∃ runner, worker.runners[number]? = some runner ∧ runner.IsCalledOff) ∧
        ∀ entry ∈ past, entry.author ≠ .runner number) ?_).2
    · rintro event - past before after stepped ⟨⟨runner, found, calledOff⟩, others⟩
      rcases lives_of_step? stepped found with ⟨moved, foundAfter, lives⟩
      refine ⟨⟨moved, foundAfter, lives.isCalledOff calledOff⟩, ?_⟩
      intro entry member
      rcases List.mem_append.mp member with old | new
      · exact others entry old
      · exact author_ne_of_made? found calledOff (by simpa using new)
  · intro outcome
    rw [tracker_run?_withOutcome found calledOff, ran]
    rfl

/-- A cancellation that does not come too late ends the task at once and for good. -/
theorem hasEnded_cancel {record final : TaskRecord} {phase : Runner.Phase}
    (handle : worker.tracker.handles.find? key = some number)
    (unfinished : worker.tracker.unfinished.find? key = some record)
    (found : worker.runners[number]? = some runner) (reached : runner.phase? = some phase)
    (called : record.calledOff? phase.signal.interrupt.1 = some final) :
    (worker.cancel key).HasEnded key final ∧ (worker.cancel key).Discards number ∧
      (runner.isWorking = false → (worker.cancel key).NeverWorks number) := by
  have uncommitted : phase ≠ .committed := by
    rintro rfl
    cases called
  have calledOff := Runner.isCalledOff_of_phase? reached uncommitted
  rw [← Runner.signal_of_phase? reached] at called
  rw [cancel_of_calledOff? handle unfinished found called]
  have foundAfter : (worker.setRunner number
      { runner with signal := runner.signal.interrupt.2 }).runners[number]? =
        some { runner with signal := runner.signal.interrupt.2 } := getElem?_setRunner_self found _
  refine ⟨⟨?_, ?_, ?_⟩, discards foundAfter calledOff, ?_⟩
  · simp [Tracker.isInFlight_eq_false_iff]
  · simp
  · simp
  · intro idle
    exact neverWorks { runner with signal := _ } foundAfter calledOff idle

/-- A task in flight is in one of the four phases, and a cancellation does what belongs to it. -/
theorem Coherent.exists_canceledIn (coherent : worker.Coherent)
    (inFlight : worker.tracker.isInFlight key = true) :
    ∃ number runner phase, worker.tracker.handles.find? key = some number ∧
      worker.runners[number]? = some runner ∧ runner.submission.key = key ∧
        runner.phase? = some phase ∧ worker.CanceledIn key number phase := by
  rcases Tracker.isInFlight_eq_true_iff.mp inFlight with ⟨record, unfinished⟩
  rcases coherent.handle_of_unfinished unfinished with ⟨rfl, number, handle⟩
  rcases coherent.handle_iff.mp handle with ⟨runner, found, own, isOpen⟩
  rcases isOpen.exists_phase? with ⟨phase, reached⟩
  refine ⟨number, runner, phase, handle, found, own, reached, ?_⟩
  cases phase with
  | unstarted =>
      rcases hasEnded_cancel handle unfinished found reached rfl with ⟨ended, discarded, never⟩
      exact ⟨ended, never (Runner.isWorking_of_unstarted reached), discarded⟩
  | exposed =>
      rcases hasEnded_cancel handle unfinished found reached rfl with ⟨ended, discarded, -⟩
      exact ⟨ended, discarded⟩
  | shielded =>
      rcases hasEnded_cancel handle unfinished found reached rfl with ⟨ended, discarded, -⟩
      exact ⟨ended, discarded⟩
  | committed =>
      apply cancel_of_tooLate handle found
      rw [Runner.signal_of_phase? reached]
      rfl

theorem cancel_of_isInFlight_eq_false (absent : worker.tracker.isInFlight key = false) :
    worker.cancel key = worker := by
  have unfinished := Tracker.isInFlight_eq_false_iff.mp absent
  simp [cancel, unfinished]

theorem cancel_cancel (worker : Worker) (key : TaskKey) :
    (worker.cancel key).cancel key = worker.cancel key := by
  rcases worker.cancel_cases key with
    ⟨-, same⟩ | ⟨number, runner, record, final, -, -, -, -, ends⟩
  · rw [same, same]
  · rw [ends]
    exact cancel_of_handle_eq_none (by simp)

/-- A cancellation has to do with the records of one task only. -/
theorem find?_cancel_of_ne {other : TaskKey} (differs : other ≠ key) (worker : Worker) :
    (worker.cancel key).tracker.handles.find? other = worker.tracker.handles.find? other ∧
      (worker.cancel key).tracker.unfinished.find? other =
        worker.tracker.unfinished.find? other ∧
      (worker.cancel key).tracker.updates.find? other = worker.tracker.updates.find? other := by
  rcases worker.cancel_cases key with
    ⟨-, same⟩ | ⟨number, runner, record, final, -, -, -, -, ends⟩
  · rw [same]
    exact ⟨rfl, rfl, rfl⟩
  · rw [ends]
    simp [differs.symm]

/-- What a cancellation does to a task in each phase of its life, and that it does nothing else.
-/
theorem cancel_by_phase {pool : Pool} {registry : Registry} {address : Address}
    {events : List Event} (ran : (make pool registry address).run? events = some worker)
    (own : ∀ event ∈ events, event.isDeclaration = false) (key : TaskKey) :
    (worker.tracker.isInFlight key = false → worker.cancel key = worker) ∧
    (worker.tracker.isInFlight key = true → ∃ number runner phase,
      worker.tracker.handles.find? key = some number ∧ worker.runners[number]? = some runner ∧
        runner.submission.key = key ∧ runner.phase? = some phase ∧
          worker.CanceledIn key number phase) ∧
    ((worker.cancel key).tracker.isInFlight key = true → ∃ number runner,
      worker.tracker.handles.find? key = some number ∧ worker.runners[number]? = some runner ∧
        runner.phase? = some .committed) ∧
    (∀ other, other ≠ key →
      (worker.cancel key).tracker.handles.find? other = worker.tracker.handles.find? other ∧
      (worker.cancel key).tracker.unfinished.find? other =
        worker.tracker.unfinished.find? other ∧
      (worker.cancel key).tracker.updates.find? other = worker.tracker.updates.find? other) ∧
    (worker.cancel key).cancel key = worker.cancel key := by
  have coherent := coherent_of_run? ran own (coherent_make pool registry address)
  refine ⟨cancel_of_isInFlight_eq_false, coherent.exists_canceledIn, ?_,
    fun other differs => find?_cancel_of_ne differs worker, worker.cancel_cancel key⟩
  intro still
  cases inFlight : worker.tracker.isInFlight key with
  | false =>
      rw [cancel_of_isInFlight_eq_false inFlight, inFlight] at still
      cases still
  | true =>
      rcases coherent.exists_canceledIn inFlight with
        ⟨number, runner, phase, handle, found, -, reached, canceled⟩
      refine ⟨number, runner, handle, found, ?_⟩
      -- in every other phase the cancellation has ended the task
      cases phase with
      | committed => exact reached
      | unstarted => rw [canceled.1.idle] at still; cases still
      | exposed => rw [canceled.1.idle] at still; cases still
      | shielded => rw [canceled.1.idle] at still; cases still

/-- A task is at work in a shielded section while another one waits for the slot. -/
def shieldedTask : List Event :=
  [.register "job" .script, .submit ⟨⟨1, 2⟩, ⟨"job"⟩, .null, "scratch"⟩,
    .submit ⟨⟨1, 3⟩, ⟨"job"⟩, .null, "scratch"⟩, .grant 0, .start 0, .enter 0]

theorem cancel_by_phase_shieldedTask :
    ∃ worker, (make (.ofSize 1) .empty ⟨"host", 1, 2⟩).run? shieldedTask = some worker ∧
      (worker.cancel ⟨1, 2⟩).HasEnded ⟨1, 2⟩
        ⟨⟨1, 2⟩, .failed, none, some "Failed to cancel the task", ⟨"host", 1, 2⟩⟩ ∧
      (worker.cancel ⟨1, 2⟩).Discards 0 ∧ (worker.cancel ⟨1, 3⟩).NeverWorks 1 := by
  refine ⟨_, rfl, ?_⟩
  have own : ∀ event ∈ shieldedTask, event.isDeclaration = false := by decide
  have ran : (make (.ofSize 1) .empty ⟨"host", 1, 2⟩).run? shieldedTask = some _ := rfl
  rcases (cancel_by_phase ran own ⟨1, 2⟩).2.1 rfl with
    ⟨number, runner, phase, handle, found, -, reached, canceled⟩
  cases (show number = 0 from Option.some.inj (handle.symm.trans rfl))
  cases found
  cases reached
  rcases (cancel_by_phase ran own ⟨1, 3⟩).2.1 rfl with
    ⟨number, runner, phase, handle, found, -, reached, waiting⟩
  cases (show number = 1 from Option.some.inj (handle.symm.trans rfl))
  cases found
  cases reached
  exact ⟨canceled.1, canceled.2, waiting.2.1⟩

end Worker

end TaskAgent
