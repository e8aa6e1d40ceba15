import TaskAgent.Proofs.Worker.Change

/-!
# The life of one runner

Some laws follow a single runner through a run in which all others move as they like. For them
`Runner.Lives` tells what an event may make of the runner in one place: an event that is the step
of another runner leaves it alone, an event from outside can only interrupt it, and a step of its
own takes it one stage further.

Runners are never taken away, so whatever every event of a run keeps of a runner holds of the
runner in the same place at the end of the run (`Worker.runner_keeps_of_run?`).
-/

namespace TaskAgent

/-- The runner whose step an event is. -/
def Event.mover? : Event → Option Nat
  | grant number | refuse number | start number | enter number | leave number | finish number _
  | commit number | report number | exit number => some number
  | _ => none

theorem Event.isDeclaration_of_mover? {event : Event} {number : Nat}
    (mover : event.mover? = some number) : event.isDeclaration = false := by
  cases event with
  | complete key result => cases mover
  | fail key message => cases mover
  | _ => rfl

/-- Whether the job of the runner is running. -/
def Runner.isWorking (runner : Runner) : Bool :=
  match runner.stage with
  | .working _ => true
  | _ => false

/-- What an event may make of the runner in a place. -/
inductive Runner.Lives (registry : Registry) (number : Nat) : Event → Runner → Runner → Prop where
  | untouched {event : Event} {runner : Runner} (alien : event.mover? ≠ some number) :
      Lives registry number event runner runner
  | interrupted {key : TaskKey} {runner : Runner} :
      Lives registry number (.cancel key) runner
        { runner with signal := runner.signal.interrupt.2 }
  | granted {runner : Runner} (waits : runner.stage = .waiting) :
      Lives registry number (.grant number) runner { runner with stage := .admitted, slot := true }
  | refused {runner : Runner} (waits : runner.stage = .waiting) :
      Lives registry number (.refuse number) runner { runner with stage := .refused }
  | started {runner moved : Runner} (stepped : runner.start? registry = some moved) :
      Lives registry number (.start number) runner moved
  | entered {runner moved : Runner} (stepped : runner.change? Signal.enter = some moved) :
      Lives registry number (.enter number) runner moved
  | left {runner moved : Runner} (stepped : runner.change? Signal.leave = some moved) :
      Lives registry number (.leave number) runner moved
  | finished {outcome : Outcome} {runner moved : Runner}
      (stepped : runner.finish? outcome = some moved) :
      Lives registry number (.finish number outcome) runner moved
  | committed {runner moved : Runner} (stepped : runner.commit? = some moved) :
      Lives registry number (.commit number) runner moved
  | reported {outcome : Outcome} {runner : Runner} (stage : runner.stage = .reporting outcome) :
      Lives registry number (.report number) runner { runner with stage := .leaving }
  | gone {runner : Runner} (stage : runner.stage = .leaving) :
      Lives registry number (.exit number) runner { runner with stage := .gone, slot := false }

namespace Worker

variable {worker changed : Worker} {event : Event} {number other : Nat} {runner moved : Runner}

theorem getElem?_setRunner_self (found : worker.runners[number]? = some runner) (moved : Runner) :
    (worker.setRunner number moved).runners[number]? = some moved := by
  rw [getElem?_setRunner found, if_pos rfl]

theorem getElem?_setRunner_of_ne (differs : other ≠ number) (moved : Runner) :
    (worker.setRunner other moved).runners[number]? = worker.runners[number]? :=
  List.getElem?_set_ne differs

/-- A step of one runner, as seen from the place of any. -/
theorem lives_setRunner {registry : Registry} {before : Runner}
    (found : worker.runners[number]? = some runner)
    (foundOther : worker.runners[other]? = some before) (mover : event.mover? = some other)
    (lives : Runner.Lives registry other event before moved) :
    ∃ after, (worker.setRunner other moved).runners[number]? = some after ∧
      Runner.Lives registry number event runner after := by
  by_cases same : other = number
  · subst same
    cases found.symm.trans foundOther
    exact ⟨moved, getElem?_setRunner_self found moved, lives⟩
  · refine ⟨runner, ?_, .untouched ?_⟩
    · rw [getElem?_setRunner_of_ne same]
      exact found
    · simpa [mover] using same

theorem lives_cancel {registry : Registry} (worker : Worker) (key : TaskKey)
    (found : worker.runners[number]? = some runner) :
    ∃ moved, (worker.cancel key).runners[number]? = some moved ∧
      Runner.Lives registry number (.cancel key) runner moved := by
  have alien : (Event.cancel key).mover? ≠ some number := by simp [Event.mover?]
  rcases worker.cancel_cases key with
    ⟨-, same⟩ | ⟨place, holder, record, final, -, -, foundHolder, -, ends⟩
  · rw [same]
    exact ⟨runner, found, .untouched alien⟩
  · rw [ends]
    by_cases same : place = number
    · subst same
      cases found.symm.trans foundHolder
      exact ⟨_, getElem?_setRunner_self found _, .interrupted⟩
    · refine ⟨runner, ?_, .untouched alien⟩
      exact (getElem?_setRunner_of_ne same _).trans found

/-- Every event makes of a runner one of the things in the list. -/
theorem lives_of_step? (stepped : worker.step? event = some changed)
    (found : worker.runners[number]? = some runner) :
    ∃ moved, changed.runners[number]? = some moved ∧
      Runner.Lives worker.registry number event runner moved := by
  -- what no runner does leaves all of them where they are, but for a cancellation
  have alien : event.mover? ≠ some number → changed.runners[number]? = worker.runners[number]? →
      ∃ moved, changed.runners[number]? = some moved ∧
        Runner.Lives worker.registry number event runner moved :=
    fun differs same => ⟨runner, same.trans found, .untouched differs⟩
  cases event with
  | submit submission =>
      cases stepped
      refine alien (by simp [Event.mover?]) ?_
      unfold submit
      split
      · rfl
      · exact List.getElem?_append_left (List.getElem?_eq_some_iff.mp found).1
  | cancel key =>
      cases stepped
      exact lives_cancel worker key found
  | complete key result =>
      rcases exists_of_complete stepped with ⟨tracker, rfl⟩
      exact alien (by simp [Event.mover?]) rfl
  | fail key message =>
      rcases exists_of_fail stepped with ⟨tracker, rfl⟩
      exact alien (by simp [Event.mover?]) rfl
  | drain =>
      cases stepped
      exact alien (by simp [Event.mover?]) rfl
  | restore records =>
      cases stepped
      exact alien (by simp [Event.mover?]) rfl
  | close =>
      cases stepped
      exact alien (by simp [Event.mover?]) rfl
  | register name definition =>
      cases stepped
      exact alien (by simp [Event.mover?]) rfl
  | grant place =>
      rcases exists_of_grant? stepped with ⟨before, foundBefore, waits, -, -, rfl⟩
      exact lives_setRunner found foundBefore rfl (.granted waits)
  | refuse place =>
      rcases exists_of_refuse? stepped with ⟨before, foundBefore, waits, -, rfl⟩
      exact lives_setRunner found foundBefore rfl (.refused waits)
  | start place =>
      rcases exists_of_changeRunner? stepped with ⟨before, moved, foundBefore, moves, rfl⟩
      exact lives_setRunner found foundBefore rfl (.started moves)
  | enter place =>
      rcases exists_of_changeRunner? stepped with ⟨before, moved, foundBefore, moves, rfl⟩
      exact lives_setRunner found foundBefore rfl (.entered moves)
  | leave place =>
      rcases exists_of_changeRunner? stepped with ⟨before, moved, foundBefore, moves, rfl⟩
      exact lives_setRunner found foundBefore rfl (.left moves)
  | finish place outcome =>
      rcases exists_of_changeRunner? stepped with ⟨before, moved, foundBefore, moves, rfl⟩
      exact lives_setRunner found foundBefore rfl (.finished moves)
  | commit place =>
      rcases exists_of_changeRunner? stepped with ⟨before, moved, foundBefore, moves, rfl⟩
      exact lives_setRunner found foundBefore rfl (.committed moves)
  | report place =>
      rcases exists_of_report? stepped with ⟨before, outcome, foundBefore, stage, rfl⟩
      exact lives_setRunner found foundBefore rfl (.reported stage)
  | exit place =>
      rcases exists_of_exit? stepped with ⟨before, foundBefore, stage, rfl⟩
      exact lives_setRunner found foundBefore rfl (.gone stage)

/-- Whatever every event keeps of a runner holds of it at the end of a run. -/
theorem runner_keeps_of_run? {motive : Runner → Prop} {events : List Event} {final : Worker}
    (ran : worker.run? events = some final) (found : worker.runners[number]? = some runner)
    (initially : motive runner)
    (kept : ∀ {registry : Registry} {event : Event} {before after : Runner},
      Runner.Lives registry number event before after → motive before → motive after) :
    ∃ moved, final.runners[number]? = some moved ∧ motive moved := by
  apply keeps_of_run? ran ⟨runner, found, initially⟩ (motive := fun worker =>
    ∃ runner, worker.runners[number]? = some runner ∧ motive runner)
  rintro event - before after stepped ⟨runner, found, holds⟩
  rcases lives_of_step? stepped found with ⟨moved, foundAfter, lives⟩
  exact ⟨moved, foundAfter, kept lives holds⟩

/-- A runner moves only if it is there. -/
theorem exists_of_mover? (stepped : worker.step? event = some changed)
    (mover : event.mover? = some number) : ∃ runner, worker.runners[number]? = some runner := by
  cases event <;> simp only [Event.mover?, Option.some.injEq, reduceCtorEq] at mover <;>
    subst mover
  case grant => exact (exists_of_grant? stepped).imp fun _ facts => facts.1
  case refuse => exact (exists_of_refuse? stepped).imp fun _ facts => facts.1
  case report =>
    rcases exists_of_report? stepped with ⟨runner, outcome, found, -⟩
    exact ⟨runner, found⟩
  case exit => exact (exists_of_exit? stepped).imp fun _ facts => facts.1
  all_goals
    rcases exists_of_changeRunner? stepped with ⟨runner, moved, found, -⟩
    exact ⟨runner, found⟩

/-- A runner that was not there before is the one of a task just accepted. -/
theorem ofSubmission_of_step? (stepped : worker.step? event = some changed)
    (absent : worker.runners[number]? = none) (found : changed.runners[number]? = some runner) :
    event.mover? = none ∧ ∃ submission, runner = .ofSubmission submission := by
  rcases submissions_of_change (change_of_step? stepped) with same | ⟨submission, accepts, -⟩
  · have kept := getElem?_submissions found
    rw [same, getElem?_submissions_eq_some_iff] at kept
    rcases kept with ⟨old, foundOld, -⟩
    rw [absent] at foundOld
    cases foundOld
  · rcases submit_of_effect accepts with ⟨-, fresh, other, rfl, same⟩
    have unknown : worker.tracker.isInFlight other.key = false :=
      Tracker.isInFlight_eq_false_iff.mpr (same ▸ fresh)
    cases stepped
    simp only [submit, unknown, Bool.false_eq_true, if_false] at found
    rcases getElem?_concat_eq_some_iff.mp found with old | ⟨-, rfl⟩
    · rw [absent] at old
      cases old
    · exact ⟨rfl, other, rfl⟩

end Worker

end TaskAgent
