import TaskAgent.Proofs.Worker.Life

/-!
# Discarded ends

A runner whose task was called off goes on computing until its job ends, but nobody hears of that
end. The runner never comes to report (`Runner.Lives.isCalledOff`), and more than that: whether
its job ends with a result, an error or a panic makes no difference to any record
(`Worker.tracker_run?_withOutcome`).

For the second law the end is blanked out of the worker (`Worker.blank`) and out of the event that
brings it. Every step does to a blanked worker what it does to the worker itself, so two runs that
differ only in that end are the same once it is blanked out of both.
-/

namespace TaskAgent

/-- The event, with another end of the job of one runner. -/
def Event.withOutcome (number : Nat) (outcome : Outcome) : Event → Event
  | finish place ended => finish place (if place = number then outcome else ended)
  | event => event

theorem Event.withOutcome_withOutcome (number : Nat) (first second : Outcome) (event : Event) :
    (event.withOutcome number first).withOutcome number second =
      event.withOutcome number second := by
  cases event with
  | finish place ended =>
      simp only [withOutcome]
      split
      · rfl
      · rfl
  | _ => rfl

namespace Runner

variable {registry : Registry} {number : Nat} {event : Event} {runner moved : Runner}

/-- The task was interrupted before its runner committed itself. -/
def IsCalledOff (runner : Runner) : Prop :=
  runner.signal.isInterrupted = true ∧ ∀ outcome, runner.stage ≠ .reporting outcome

theorem IsCalledOff.signal (calledOff : runner.IsCalledOff) :
    runner.signal = .interrupted ∨ runner.signal = .abandoned :=
  Signal.isInterrupted_iff.mp calledOff.1

theorem IsCalledOff.start?_eq_none (calledOff : runner.IsCalledOff) :
    runner.signal.start? = none := by
  rcases calledOff.signal with signal | signal <;> rw [signal] <;> rfl

theorem IsCalledOff.commit?_eq_none (calledOff : runner.IsCalledOff) :
    runner.signal.commit? = none := by
  rcases calledOff.signal with signal | signal <;> rw [signal] <;> rfl

/-- A task that was called off stays so. -/
theorem Lives.isCalledOff (lives : Lives registry number event runner moved)
    (calledOff : runner.IsCalledOff) : moved.IsCalledOff := by
  have signal := calledOff.signal
  cases lives with
  | untouched alien => exact calledOff
  | interrupted =>
      refine ⟨?_, calledOff.2⟩
      rcases signal with signal | signal <;> simp [signal, Signal.interrupt, Signal.isInterrupted]
  | granted waits => exact ⟨calledOff.1, by simp⟩
  | refused waits => exact ⟨calledOff.1, by simp⟩
  | started stepped =>
      rcases Works.start_cases stepped with ⟨-, queued, -⟩ | ⟨-, queued, -⟩ | ⟨-, -, rfl⟩
      · simp [queued] at signal
      · simp [queued] at signal
      · exact ⟨calledOff.1, by simp⟩
  | entered stepped =>
      rcases Works.change_cases stepped with ⟨-, rfl⟩
      refine ⟨?_, calledOff.2⟩
      rcases signal with signal | signal <;> simp [signal, Signal.enter, Signal.isInterrupted]
  | left stepped =>
      rcases Works.change_cases stepped with ⟨-, rfl⟩
      refine ⟨?_, calledOff.2⟩
      rcases signal with signal | signal <;> simp [signal, Signal.leave, Signal.isInterrupted]
  | finished stepped =>
      rcases Works.finish_cases stepped with ⟨-, rfl⟩
      exact ⟨calledOff.1, by simp⟩
  | committed stepped =>
      rcases Works.commit_cases stepped with ⟨outcome, -, ⟨committed, -⟩ | ⟨-, -, rfl⟩⟩
      · rcases signal with signal | signal <;> simp [signal] at committed
      · exact ⟨calledOff.1, by simp⟩
  | reported stage => exact absurd stage (calledOff.2 _)
  | gone stage => exact ⟨calledOff.1, by simp⟩

/-- The runner, with nothing left of how its job ended. -/
def blank (runner : Runner) : Runner :=
  match runner.stage with
  | .ended _ => { runner with stage := .ended (.ok .null) }
  | _ => runner

/-- The runner in a place, blanked if that place is the one meant. -/
def blankAt (number place : Nat) (runner : Runner) : Runner :=
  if place = number then runner.blank else runner

variable {place : Nat}

theorem blankAt_self (number : Nat) : blankAt number number = blank := by
  funext runner
  exact if_pos rfl

theorem blankAt_of_ne (differs : place ≠ number) : blankAt number place = id := by
  funext runner
  exact if_neg differs

@[simp]
theorem submission_blankAt (runner : Runner) :
    (runner.blankAt number place).submission = runner.submission := by
  unfold blankAt blank
  split
  · split <;> rfl
  · rfl

@[simp]
theorem signal_blankAt (runner : Runner) :
    (runner.blankAt number place).signal = runner.signal := by
  unfold blankAt blank
  split
  · split <;> rfl
  · rfl

@[simp]
theorem slot_blankAt (runner : Runner) : (runner.blankAt number place).slot = runner.slot := by
  unfold blankAt blank
  split
  · split <;> rfl
  · rfl

@[simp]
theorem isWaiting_blankAt (runner : Runner) :
    (runner.blankAt number place).isWaiting = runner.isWaiting := by
  unfold blankAt blank
  split
  · split
    · next outcome stage => simp [isWaiting, stage]
    · rfl
  · rfl

/-- Only the stage of a runner whose job has ended is another one once it is blanked. -/
theorem stage_blankAt_cases (number place : Nat) (runner : Runner) :
    (runner.blankAt number place).stage = runner.stage ∨
      ∃ outcome other, runner.stage = .ended outcome ∧
        (runner.blankAt number place).stage = .ended other := by
  unfold blankAt blank
  split
  · split
    · next outcome stage => exact Or.inr ⟨outcome, .ok .null, stage, rfl⟩
    · exact Or.inl rfl
  · exact Or.inl rfl

theorem blankAt_of_stage (runs : ∀ outcome, runner.stage ≠ .ended outcome) :
    runner.blankAt number place = runner := by
  unfold blankAt blank
  split
  · split
    · next outcome stage => exact absurd stage (runs outcome)
    · rfl
  · rfl

theorem blankAt_with_signal (runner : Runner) (signal : Signal) :
    ({ runner with signal } : Runner).blankAt number place =
      { runner.blankAt number place with signal } := by
  rcases runner with ⟨submission, before, stage, slot⟩
  unfold blankAt
  split
  · cases stage <;> rfl
  · rfl

theorem start?_blankAt (calledOff : place = number → runner.IsCalledOff) (registry : Registry) :
    (runner.blankAt number place).start? registry =
      (runner.start? registry).map (blankAt number place) := by
  by_cases same : place = number
  · have late := (calledOff same).start?_eq_none
    rw [same, blankAt_self]
    rcases runner with ⟨submission, signal, stage, slot⟩
    cases stage <;> simp_all [blank, start?]
  · simp [blankAt_of_ne same]

theorem change?_blankAt (runner : Runner) (change : Signal → Signal) :
    (runner.blankAt number place).change? change =
      (runner.change? change).map (blankAt number place) := by
  by_cases same : place = number
  · rw [same, blankAt_self]
    rcases runner with ⟨submission, signal, stage, slot⟩
    cases stage <;> rfl
  · simp [blankAt_of_ne same]

theorem finish?_blankAt (runner : Runner) (outcome : Outcome) :
    (runner.blankAt number place).finish? (if place = number then .ok .null else outcome) =
      (runner.finish? outcome).map (blankAt number place) := by
  by_cases same : place = number
  · rw [same, blankAt_self, if_pos rfl]
    rcases runner with ⟨submission, signal, stage, slot⟩
    cases stage <;> rfl
  · simp [blankAt_of_ne same, same]

theorem commit?_blankAt (calledOff : place = number → runner.IsCalledOff) :
    (runner.blankAt number place).commit? = runner.commit?.map (blankAt number place) := by
  by_cases same : place = number
  · have late := (calledOff same).commit?_eq_none
    rw [same, blankAt_self]
    rcases runner with ⟨submission, signal, stage, slot⟩
    cases stage <;> simp_all [blank, commit?]
  · simp [blankAt_of_ne same]

end Runner

namespace Worker

variable {worker changed : Worker} {event : Event} {events : List Event} {number place : Nat}
  {runner moved : Runner}

/-- The worker, with nothing left of how the job of one runner ended. -/
def blank (worker : Worker) (number : Nat) : Worker :=
  { worker with runners := worker.runners.modify number Runner.blank }

@[simp]
theorem registry_blank (worker : Worker) (number : Nat) :
    (worker.blank number).registry = worker.registry := rfl

@[simp]
theorem pool_blank (worker : Worker) (number : Nat) :
    (worker.blank number).pool = worker.pool := rfl

@[simp]
theorem tracker_blank (worker : Worker) (number : Nat) :
    (worker.blank number).tracker = worker.tracker := rfl

theorem getElem?_blank (worker : Worker) (number place : Nat) :
    (worker.blank number).runners[place]? =
      worker.runners[place]?.map (Runner.blankAt number place) := by
  by_cases same : place = number
  · simp [blank, same, Runner.blankAt_self]
  · simp [blank, Runner.blankAt_of_ne same, Ne.symm same]

/-- A runner that is put in its place is blanked before or after. -/
theorem setRunner_blank (worker : Worker) (number place : Nat) (runner : Runner) :
    (worker.blank number).setRunner place (runner.blankAt number place) =
      (worker.setRunner place runner).blank number := by
  have runners : (worker.runners.modify number Runner.blank).set place
      (runner.blankAt number place) =
        (worker.runners.set place runner).modify number Runner.blank := by
    apply List.ext_getElem?
    intro other
    by_cases here : place = other
    · subst here
      by_cases same : place = number
      · subst same
        simp [List.getElem?_set, Runner.blankAt_self]
      · simp [List.getElem?_set, Runner.blankAt_of_ne same, Ne.symm same]
    · simp [List.getElem?_modify, here]
  simp only [setRunner, blank, runners]

theorem setRunner_blank_of_stage (worker : Worker) (number place : Nat) (moved : Runner)
    (runs : ∀ outcome, moved.stage ≠ .ended outcome) :
    (worker.blank number).setRunner place moved = (worker.setRunner place moved).blank number := by
  rw [← setRunner_blank, Runner.blankAt_of_stage runs]

theorem changeRunner?_blank {change other : Runner → Option Runner}
    (commutes : ∀ runner, worker.runners[place]? = some runner →
      other (runner.blankAt number place) = (change runner).map (Runner.blankAt number place)) :
    (worker.blank number).changeRunner? place other =
      (worker.changeRunner? place change).map (·.blank number) := by
  unfold changeRunner?
  rw [getElem?_blank]
  cases found : worker.runners[place]? with
  | none => rfl
  | some runner =>
      simp only [Option.map_some, commutes runner found, Option.map_map]
      congr 1
      funext moved
      exact setRunner_blank worker number place moved

theorem submit_blank (found : worker.runners[number]? = some runner) (submission : Submission) :
    (worker.blank number).submit submission = (worker.submit submission).blank number := by
  have inside := (List.getElem?_eq_some_iff.mp found).1
  have runners : worker.runners.modify number Runner.blank ++ [Runner.ofSubmission submission] =
      (worker.runners ++ [Runner.ofSubmission submission]).modify number Runner.blank := by
    apply List.ext_getElem?
    intro place
    by_cases early : place < worker.runners.length
    · rw [List.getElem?_append_left (by simpa using early), List.getElem?_modify,
        List.getElem?_modify, List.getElem?_append_left early]
    · have differs : number ≠ place := by omega
      have late : worker.runners.length ≤ place := by omega
      rw [List.getElem?_append_right (by simpa using late), List.getElem?_modify,
        List.getElem?_append_right late]
      simp [differs]
  unfold submit
  rw [tracker_blank]
  split
  · rfl
  · simp [blank, runners]

theorem cancel_blank (worker : Worker) (number : Nat) (key : TaskKey) :
    (worker.blank number).cancel key = (worker.cancel key).blank number := by
  unfold cancel
  rw [tracker_blank]
  split
  · next place record handle unfinished =>
      rw [getElem?_blank]
      cases found : worker.runners[place]? with
      | none => rfl
      | some runner =>
          have moved := setRunner_blank worker number place
            { runner with signal := runner.signal.interrupt.2 }
          rw [Runner.blankAt_with_signal] at moved
          simp only [Option.map_some, Runner.signal_blankAt, moved]
          split
          · rfl
          · rfl
          · rfl
  · rfl

theorem grant?_blank (worker : Worker) (number place : Nat) :
    (worker.blank number).grant? place = (worker.grant? place).map (·.blank number) := by
  unfold grant?
  rw [getElem?_blank]
  cases found : worker.runners[place]? with
  | none => rfl
  | some runner =>
      have moved := setRunner_blank_of_stage worker number place
        { runner with stage := .admitted, slot := true } (by simp)
      simp only [Option.map_some, Runner.isWaiting_blankAt, Runner.submission_blankAt,
        Runner.signal_blankAt, moved, pool_blank]
      rw [Option.map_if]
      rfl

theorem refuse?_blank (worker : Worker) (number place : Nat) :
    (worker.blank number).refuse? place = (worker.refuse? place).map (·.blank number) := by
  unfold refuse?
  rw [getElem?_blank]
  cases found : worker.runners[place]? with
  | none => rfl
  | some runner =>
      have moved := setRunner_blank_of_stage worker number place
        { runner with stage := .refused } (by simp)
      simp only [Option.map_some, Runner.isWaiting_blankAt, Runner.submission_blankAt,
        Runner.signal_blankAt, Runner.slot_blankAt, moved, pool_blank]
      rw [Option.map_if]
      rfl

theorem report?_blank (worker : Worker) (number place : Nat) :
    (worker.blank number).report? place = (worker.report? place).map (·.blank number) := by
  unfold report?
  rw [getElem?_blank]
  cases found : worker.runners[place]? with
  | none => rfl
  | some runner =>
      have moved := setRunner_blank_of_stage worker number place
        { runner with stage := .leaving } (by simp)
      simp only [Option.map_some, Runner.submission_blankAt, Runner.signal_blankAt,
        Runner.slot_blankAt, moved, tracker_blank]
      rcases runner.stage_blankAt_cases number place with same | ⟨outcome, other, stage, blanked⟩
      · rw [same]
        split
        · rfl
        · rfl
      · rw [stage, blanked]
        rfl

theorem exit?_blank (worker : Worker) (number place : Nat) :
    (worker.blank number).exit? place = (worker.exit? place).map (·.blank number) := by
  unfold exit?
  rw [getElem?_blank]
  cases found : worker.runners[place]? with
  | none => rfl
  | some runner =>
      have moved := setRunner_blank_of_stage worker number place
        { runner with stage := .gone, slot := false } (by simp)
      simp only [Option.map_some, Runner.submission_blankAt, Runner.signal_blankAt,
        Runner.slot_blankAt, moved, pool_blank]
      rcases runner.stage_blankAt_cases number place with same | ⟨outcome, other, stage, blanked⟩
      · rw [same]
        split
        · rfl
        · rfl
      · rw [stage, blanked]
        rfl

/-- Every event does to the blanked worker what it does to the worker. -/
theorem step?_blank (found : worker.runners[number]? = some runner)
    (calledOff : runner.IsCalledOff) (event : Event) :
    (worker.blank number).step? (event.withOutcome number (.ok .null)) =
      (worker.step? event).map (·.blank number) := by
  have mine : ∀ {place : Nat} {other : Runner}, worker.runners[place]? = some other →
      place = number → other.IsCalledOff := by
    rintro place other foundOther rfl
    cases found.symm.trans foundOther
    exact calledOff
  cases event with
  | submit submission => exact congrArg some (submit_blank found submission)
  | cancel key => exact congrArg some (cancel_blank worker number key)
  | complete key result =>
      simp only [Event.withOutcome, step?, complete, Tracker.complete, tracker_blank]
      cases worker.tracker.unfinished.find? key with
      | none => rfl
      | some record => rfl
  | fail key message =>
      simp only [Event.withOutcome, step?, fail, Tracker.fail, tracker_blank]
      cases worker.tracker.unfinished.find? key with
      | none => rfl
      | some record => rfl
  | drain => rfl
  | restore records => rfl
  | close => rfl
  | register name definition => rfl
  | grant place => exact grant?_blank worker number place
  | refuse place => exact refuse?_blank worker number place
  | start place =>
      exact changeRunner?_blank fun other foundOther =>
        Runner.start?_blankAt (mine foundOther) worker.registry
  | enter place =>
      exact changeRunner?_blank fun other _ => Runner.change?_blankAt other Signal.enter
  | leave place =>
      exact changeRunner?_blank fun other _ => Runner.change?_blankAt other Signal.leave
  | finish place outcome =>
      exact changeRunner?_blank fun other _ => Runner.finish?_blankAt other outcome
  | commit place =>
      exact changeRunner?_blank fun other foundOther => Runner.commit?_blankAt (mine foundOther)
  | report place => exact report?_blank worker number place
  | exit place => exact exit?_blank worker number place

theorem run?_blank (found : worker.runners[number]? = some runner)
    (calledOff : runner.IsCalledOff) (events : List Event) :
    (worker.blank number).run? (events.map (.withOutcome number (.ok .null))) =
      (worker.run? events).map (·.blank number) := by
  induction events generalizing worker runner with
  | nil => rfl
  | cons event rest ih =>
      have here := step?_blank found calledOff event
      cases stepped : worker.step? event with
      | none => simp [run?, here, stepped]
      | some changed =>
          rcases lives_of_step? stepped found with ⟨moved, foundAfter, lives⟩
          have later := ih foundAfter (lives.isCalledOff calledOff)
          simp [run?, here, stepped, later]

/-- How the job of a task that was called off ends makes no difference to any record. -/
theorem tracker_run?_withOutcome (found : worker.runners[number]? = some runner)
    (calledOff : runner.IsCalledOff) (outcome : Outcome) (events : List Event) :
    (worker.run? (events.map (.withOutcome number outcome))).map (·.tracker) =
      (worker.run? events).map (·.tracker) := by
  have blanked : (worker.run? (events.map (.withOutcome number outcome))).map (·.blank number) =
      (worker.run? events).map (·.blank number) := by
    rw [← run?_blank found calledOff, ← run?_blank found calledOff, List.map_map]
    congr 2
    funext event
    exact event.withOutcome_withOutcome number outcome (.ok .null)
  have trackers := congrArg (Option.map (·.tracker)) blanked
  simpa only [Option.map_map, Function.comp_def, tracker_blank] using trackers

end Worker

end TaskAgent
