import TaskAgent.Proofs.Worker.Change

/-!
# The handshake of runners and records

The end of a task is open as long as nobody called it off and its runner has not reported
(`Runner.IsOpen`). As long as only runners report, the open runners are exactly those that the
tracker holds a handle of, each under the key of its task (`Worker.Coherent`). A runner that is
bound to report is open, so it still finds the record of its own task in flight; an interrupted
one never comes to report, whatever it goes on computing.

The steps of a runner by itself keep an open end open and a settled one settled
(`Runner.Works.isOpen`, `Runner.Works.isSettled`). Only a cancellation and a report settle an end,
and both take the handle away in the same step.
-/

namespace TaskAgent

namespace Runner

variable {registry : Registry} {runner moved : Runner}

/-- The end of the task is not decided, or it is for its runner to report. -/
def IsOpen (runner : Runner) : Prop :=
  match runner.stage with
  | .waiting | .admitted | .refused => runner.signal = .queued
  | .working _ | .ended _ => runner.signal = .running ∨ runner.signal = .shielded
  | .reporting _ => runner.signal = .reported
  | .leaving | .gone => False

/-- The task was called off or has been reported. -/
def IsSettled (runner : Runner) : Prop :=
  match runner.stage with
  | .waiting | .admitted | .refused => runner.signal = .interrupted
  | .working _ | .ended _ => runner.signal = .interrupted ∨ runner.signal = .abandoned
  | .reporting _ => False
  | .leaving | .gone =>
    runner.signal = .interrupted ∨ runner.signal = .abandoned ∨ runner.signal = .reported

theorem isOpen_ofSubmission (submission : Submission) : (ofSubmission submission).IsOpen := rfl

theorem IsSettled.not_isOpen (settled : runner.IsSettled) : ¬runner.IsOpen := by
  rcases runner with ⟨submission, signal, stage, slot⟩
  cases stage <;> cases signal <;> simp_all [IsSettled, IsOpen]

theorem IsOpen.signal (isOpen : runner.IsOpen) :
    runner.signal = .queued ∨ runner.signal = .running ∨ runner.signal = .shielded ∨
      runner.signal = .reported := by
  rcases runner with ⟨submission, signal, stage, slot⟩
  cases stage <;> cases signal <;> simp_all [IsOpen]

theorem isOpen_of_reporting {outcome : Outcome} (agreed : runner.IsOpen ∨ runner.IsSettled)
    (stage : runner.stage = .reporting outcome) : runner.IsOpen := by
  rcases agreed with isOpen | settled
  · exact isOpen
  · simp [IsSettled, stage] at settled

/-- A granted slot and a refusal leave the end as it is. -/
theorem isOpen_of_waiting {stage : Stage} {slot : Bool} (waits : runner.stage = .waiting)
    (queued : stage = .admitted ∨ stage = .refused) (isOpen : runner.IsOpen) :
    ({ runner with stage, slot } : Runner).IsOpen := by
  rcases queued with rfl | rfl <;> simpa [IsOpen, waits] using isOpen

theorem isSettled_of_waiting {stage : Stage} {slot : Bool} (waits : runner.stage = .waiting)
    (queued : stage = .admitted ∨ stage = .refused) (settled : runner.IsSettled) :
    ({ runner with stage, slot } : Runner).IsSettled := by
  rcases queued with rfl | rfl <;> simpa [IsSettled, waits] using settled

/-- An interruption that does not come too late settles the end. -/
theorem isSettled_of_calledOff? {record final : TaskRecord} (isOpen : runner.IsOpen)
    (called : record.calledOff? runner.signal.interrupt.1 = some final) :
    ({ runner with signal := runner.signal.interrupt.2 } : Runner).IsSettled := by
  rcases runner with ⟨submission, signal, stage, slot⟩
  cases stage <;> cases signal <;>
    simp_all [IsOpen, IsSettled, Signal.interrupt, TaskRecord.calledOff?]

theorem isSettled_of_reported {outcome : Outcome} (isOpen : runner.IsOpen)
    (stage : runner.stage = .reporting outcome) :
    ({ runner with stage := .leaving } : Runner).IsSettled := by
  have reported : runner.signal = .reported := by simpa [IsOpen, stage] using isOpen
  simp [IsSettled, reported]

namespace Works

/-- A step of a runner by itself does not settle its end. -/
theorem isOpen (works : runner.Works registry moved) (isOpen : runner.IsOpen) :
    moved.IsOpen := by
  cases works with
  | start stepped =>
      rcases start_cases stepped with ⟨-, -, rfl⟩ | ⟨-, -, rfl⟩ | ⟨waited, late, rfl⟩
      · unfold beginning
        split <;> simp [IsOpen]
      · simp [IsOpen]
      · rcases waited with stage | stage
        · exact absurd (by simpa [IsOpen, stage] using isOpen) late
        · exact absurd (by simpa [IsOpen, stage] using isOpen) late
  | enter stepped =>
      rcases change_cases stepped with ⟨⟨definition, stage⟩, rfl⟩
      simp only [IsOpen, stage] at isOpen ⊢
      rcases isOpen with signal | signal <;> simp [signal, Signal.enter]
  | leave stepped =>
      rcases change_cases stepped with ⟨⟨definition, stage⟩, rfl⟩
      simp only [IsOpen, stage] at isOpen ⊢
      rcases isOpen with signal | signal <;> simp [signal, Signal.leave]
  | finish outcome stepped =>
      rcases finish_cases stepped with ⟨⟨definition, stage⟩, rfl⟩
      simpa [IsOpen, stage] using isOpen
  | commit stepped =>
      rcases commit_cases stepped with ⟨outcome, stage, ⟨-, rfl⟩ | ⟨unstarted, unshielded, rfl⟩⟩
      · simp [IsOpen]
      · simp only [IsOpen, stage] at isOpen
        rcases isOpen with signal | signal
        · exact absurd signal unstarted
        · exact absurd signal unshielded

/-- A step of a runner by itself never undoes the end of a task. -/
theorem isSettled (works : runner.Works registry moved) (settled : runner.IsSettled) :
    moved.IsSettled := by
  cases works with
  | start stepped =>
      rcases start_cases stepped with
        ⟨stage, signal, rfl⟩ | ⟨stage, signal, rfl⟩ | ⟨waited, late, rfl⟩
      · simp [IsSettled, stage, signal] at settled
      · simp [IsSettled, stage, signal] at settled
      · rcases waited with stage | stage
        · exact Or.inl (by simpa [IsSettled, stage] using settled)
        · exact Or.inl (by simpa [IsSettled, stage] using settled)
  | enter stepped =>
      rcases change_cases stepped with ⟨⟨definition, stage⟩, rfl⟩
      simp only [IsSettled, stage] at settled ⊢
      rcases settled with signal | signal <;> simp [signal, Signal.enter]
  | leave stepped =>
      rcases change_cases stepped with ⟨⟨definition, stage⟩, rfl⟩
      simp only [IsSettled, stage] at settled ⊢
      rcases settled with signal | signal <;> simp [signal, Signal.leave]
  | finish outcome stepped =>
      rcases finish_cases stepped with ⟨⟨definition, stage⟩, rfl⟩
      simpa [IsSettled, stage] using settled
  | commit stepped =>
      rcases commit_cases stepped with ⟨outcome, stage, ⟨signal, rfl⟩ | ⟨-, -, rfl⟩⟩
      · simp only [IsSettled, stage] at settled
        rcases signal with signal | signal <;> simp [signal] at settled
      · simp only [IsSettled, stage] at settled ⊢
        rcases settled with signal | signal
        · exact Or.inl signal
        · exact Or.inr (Or.inl signal)

end Works

end Runner

namespace Worker

variable {worker changed : Worker} {event : Event} {key : TaskKey} {number other : Nat}
  {runner moved : Runner}

/-- The open runners are those with a handle, and a task with a handle is in flight. -/
structure Coherent (worker : Worker) : Prop where
  agreed : ∀ {number : Nat} {runner : Runner}, worker.runners[number]? = some runner →
    runner.IsOpen ∨ runner.IsSettled
  handle_iff : ∀ {key : TaskKey} {number : Nat}, worker.tracker.handles.find? key = some number ↔
    ∃ runner : Runner,
      worker.runners[number]? = some runner ∧ runner.submission.key = key ∧ runner.IsOpen
  unfinished_eq : ∀ key, worker.tracker.unfinished.find? key =
    (worker.tracker.handles.find? key).map fun _ => .running key worker.tracker.address
  latest : ∀ {key : TaskKey} {number later : Nat} {rival : Runner},
    worker.tracker.handles.find? key = some number → worker.runners[later]? = some rival →
      rival.submission.key = key → later ≤ number

theorem coherent_make (pool : Pool) (registry : Registry) (address : Address) :
    (make pool registry address).Coherent := by
  constructor
  · intro number runner found
    simp [make] at found
  · intro key number
    simp [make]
  · intro key
    simp [make]
  · intro key number later rival handle
    simp [make] at handle

namespace Coherent

variable {record : TaskRecord}

theorem handle (coherent : worker.Coherent) (found : worker.runners[number]? = some runner)
    (isOpen : runner.IsOpen) :
    worker.tracker.handles.find? runner.submission.key = some number :=
  coherent.handle_iff.mpr ⟨runner, found, rfl, isOpen⟩

theorem isOpen_of_handle (coherent : worker.Coherent)
    (handle : worker.tracker.handles.find? key = some number)
    (found : worker.runners[number]? = some runner) :
    runner.submission.key = key ∧ runner.IsOpen := by
  rcases coherent.handle_iff.mp handle with ⟨same, foundAgain, own, isOpen⟩
  cases found.symm.trans foundAgain
  exact ⟨own, isOpen⟩

theorem isOpen_of_reporting {outcome : Outcome} (coherent : worker.Coherent)
    (found : worker.runners[number]? = some runner)
    (stage : runner.stage = .reporting outcome) : runner.IsOpen :=
  Runner.isOpen_of_reporting (coherent.agreed found) stage

theorem unfinished_of_isOpen (coherent : worker.Coherent)
    (found : worker.runners[number]? = some runner) (isOpen : runner.IsOpen) :
    worker.tracker.unfinished.find? runner.submission.key =
      some (.running runner.submission.key worker.tracker.address) := by
  rw [coherent.unfinished_eq, coherent.handle found isOpen]
  rfl

theorem handle_of_unfinished (coherent : worker.Coherent)
    (unfinished : worker.tracker.unfinished.find? key = some record) :
    record = .running key worker.tracker.address ∧
      ∃ number, worker.tracker.handles.find? key = some number := by
  rw [coherent.unfinished_eq] at unfinished
  rcases Option.map_eq_some_iff.mp unfinished with ⟨number, handle, rfl⟩
  exact ⟨rfl, number, handle⟩

theorem handle_eq_none (coherent : worker.Coherent)
    (absent : worker.tracker.unfinished.find? key = none) :
    worker.tracker.handles.find? key = none := by
  rw [coherent.unfinished_eq] at absent
  simpa using absent

theorem congr (coherent : worker.Coherent) (runners : changed.runners = worker.runners)
    (handles : changed.tracker.handles = worker.tracker.handles)
    (unfinished : changed.tracker.unfinished = worker.tracker.unfinished)
    (address : changed.tracker.address = worker.tracker.address) : changed.Coherent := by
  constructor
  · intro number runner found
    rw [runners] at found
    exact coherent.agreed found
  · intro key number
    rw [runners, handles]
    exact coherent.handle_iff
  · intro key
    rw [unfinished, handles, address]
    exact coherent.unfinished_eq key
  · intro key number later rival
    rw [runners, handles]
    exact coherent.latest

theorem accept (coherent : worker.Coherent) {submission : Submission}
    (fresh : worker.tracker.unfinished.find? submission.key = none) :
    ({ worker with
      pool := worker.pool.enqueue
      tracker := worker.tracker.accept submission.key worker.runners.length
      runners := worker.runners ++ [.ofSubmission submission] } : Worker).Coherent := by
  have free := coherent.handle_eq_none fresh
  constructor
  · intro number runner found
    rcases getElem?_concat_eq_some_iff.mp found with old | ⟨-, rfl⟩
    · exact coherent.agreed old
    · exact Or.inl (Runner.isOpen_ofSubmission submission)
  · intro key number
    simp only [Tracker.find?_handles_accept, getElem?_concat_eq_some_iff]
    constructor
    · intro handle
      split at handle
      · next same =>
          cases handle
          exact ⟨_, Or.inr ⟨rfl, rfl⟩, same, Runner.isOpen_ofSubmission submission⟩
      · rcases coherent.handle_iff.mp handle with ⟨runner, found, own, isOpen⟩
        exact ⟨runner, Or.inl found, own, isOpen⟩
    · rintro ⟨runner, old | ⟨rfl, rfl⟩, own, isOpen⟩
      · have handle := coherent.handle_iff.mpr ⟨runner, old, own, isOpen⟩
        rw [if_neg]
        · exact handle
        · intro same
          rw [← same, free] at handle
          cases handle
      · exact if_pos own
  · intro key
    simp only [Tracker.find?_unfinished_accept, Tracker.find?_handles_accept,
      Tracker.address_accept]
    split
    · next same => simp [same]
    · exact coherent.unfinished_eq key
  · intro key number later rival handle found own
    rw [Tracker.find?_handles_accept] at handle
    rw [getElem?_concat_eq_some_iff] at found
    split at handle
    · cases handle
      rcases found with old | ⟨rfl, -⟩
      · exact Nat.le_of_lt (List.getElem?_eq_some_iff.mp old).1
      · exact Nat.le_refl _
    · next differs =>
        rcases found with old | ⟨-, rfl⟩
        · exact coherent.latest handle old own
        · exact absurd own differs

/-- A step of one runner that neither opens nor settles its end. -/
theorem move (coherent : worker.Coherent) (found : worker.runners[number]? = some runner)
    (same : moved.submission = runner.submission) (opened : runner.IsOpen → moved.IsOpen)
    (settled : runner.IsSettled → moved.IsSettled) (pool : Pool) :
    ({ worker.setRunner number moved with pool } : Worker).Coherent := by
  have isOpen_iff : moved.IsOpen ↔ runner.IsOpen := by
    refine ⟨fun isOpen => ?_, opened⟩
    rcases coherent.agreed found with before | before
    · exact before
    · exact absurd isOpen (settled before).not_isOpen
  constructor
  · intro other rival foundOther
    rw [getElem?_setRunner found] at foundOther
    split at foundOther
    · cases foundOther
      exact (coherent.agreed found).imp opened settled
    · exact coherent.agreed foundOther
  · intro key other
    simp only [getElem?_setRunner found, tracker_setRunner]
    rw [coherent.handle_iff]
    by_cases here : number = other
    · subst here
      simp [found, same, isOpen_iff]
    · simp [here]
  · exact coherent.unfinished_eq
  · intro key other later rival handle foundLater own
    rw [getElem?_setRunner found] at foundLater
    split at foundLater
    · next here =>
        cases foundLater
        exact here ▸ coherent.latest handle found (same ▸ own)
    · exact coherent.latest handle foundLater own

/-- A step that settles the end of an open runner takes its handle away. -/
theorem settle (coherent : worker.Coherent) (found : worker.runners[number]? = some runner)
    (same : moved.submission = runner.submission) (isOpen : runner.IsOpen)
    (settled : moved.IsSettled) (final : TaskRecord) :
    ({ worker.setRunner number moved with
      tracker := worker.tracker.finish runner.submission.key final } : Worker).Coherent := by
  have handle := coherent.handle found isOpen
  constructor
  · intro other rival foundOther
    rw [getElem?_setRunner found] at foundOther
    split at foundOther
    · cases foundOther
      exact Or.inr settled
    · exact coherent.agreed foundOther
  · intro key other
    simp only [getElem?_setRunner found, Tracker.find?_handles_finish]
    by_cases here : number = other
    · subst here
      have closed : ¬moved.IsOpen := settled.not_isOpen
      simp only [if_true, Option.some.injEq, exists_eq_left', closed, and_false, iff_false]
      intro handled
      split at handled
      · cases handled
      · next differs =>
          rcases coherent.isOpen_of_handle handled found with ⟨own, -⟩
          exact differs own
    · simp only [if_neg here]
      rw [← coherent.handle_iff]
      split
      · next held =>
          subst held
          simp [handle, here]
      · rfl
  · intro key
    simp only [Tracker.find?_unfinished_finish, Tracker.find?_handles_finish,
      Tracker.address_finish]
    split
    · rfl
    · exact coherent.unfinished_eq key
  · intro key other later rival handled foundLater own
    rw [Tracker.find?_handles_finish] at handled
    rw [getElem?_setRunner found] at foundLater
    split at handled
    · cases handled
    · next differs =>
        split at foundLater
        · cases foundLater
          exact absurd (same ▸ own) differs
        · exact coherent.latest handled foundLater own

/-- Every event but a report from outside keeps runners and records in step. -/
theorem change (coherent : worker.Coherent) (change : worker.Change event changed)
    (own : event.isDeclaration = false) : changed.Coherent := by
  cases change with
  | ignored quiet => exact coherent
  | closed => exact coherent.congr rfl rfl rfl rfl
  | registered name definition => exact coherent.congr rfl rfl rfl rfl
  | drained => exact coherent.congr rfl rfl rfl rfl
  | restored records => exact coherent.congr rfl rfl rfl rfl
  | accepted fresh => exact coherent.accept fresh
  | canceled handle unfinished found called =>
      rcases coherent.isOpen_of_handle handle found with ⟨rfl, isOpen⟩
      have settled := Runner.isSettled_of_calledOff? isOpen called
      refine coherent.settle found ?_ isOpen settled _
      rfl
  | granted found waits unclosed free =>
      refine coherent.move found ?_ ?_ ?_ _
      · rfl
      · exact Runner.isOpen_of_waiting waits (Or.inl rfl)
      · exact Runner.isSettled_of_waiting waits (Or.inl rfl)
  | refused found waits closed =>
      refine coherent.move found ?_ ?_ ?_ _
      · rfl
      · exact Runner.isOpen_of_waiting waits (Or.inr rfl)
      · exact Runner.isSettled_of_waiting waits (Or.inr rfl)
  | worked quiet found works =>
      exact coherent.move found works.submission_eq works.isOpen works.isSettled worker.pool
  | reported found stage unfinished =>
      have isOpen := coherent.isOpen_of_reporting found stage
      have settled := Runner.isSettled_of_reported isOpen stage
      refine coherent.settle found ?_ isOpen settled _
      rfl
  | missed found stage absent =>
      have isOpen := coherent.isOpen_of_reporting found stage
      rw [coherent.unfinished_of_isOpen found isOpen] at absent
      cases absent
  | left found stage =>
      refine coherent.move found ?_ ?_ ?_ _
      · rfl
      · intro isOpen
        simp [Runner.IsOpen, stage] at isOpen
      · intro settled
        simpa [Runner.IsSettled, stage] using settled
  | declared declares finishes =>
      rw [own] at declares
      cases declares

end Coherent

/-- Runners and records are in step after every run in which only runners report. -/
theorem coherent_of_run? {events : List Event} (ran : worker.run? events = some changed)
    (own : ∀ event ∈ events, event.isDeclaration = false) (coherent : worker.Coherent) :
    changed.Coherent :=
  keeps_of_run? ran coherent fun event member _ _ stepped before =>
    before.change (change_of_step? stepped) (own event member)

end Worker

end TaskAgent
