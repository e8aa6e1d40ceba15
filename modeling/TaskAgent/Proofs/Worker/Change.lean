import TaskAgent.Proofs.Worker.Records

/-!
# What a step can do

`Worker.Change` lists, once for all laws of workers, what a worker may look like after an event,
together with what must have been the case before it. A law that every event keeps is proved by
going through this list, and `Worker.keeps_of_run?` carries it through every sequence of events.

The steps of a runner that concern nobody else are told apart only where a law needs it
(`Runner.Works`): none of them changes the task of the runner or its slot.
-/

namespace TaskAgent

/-- A step of a runner with which neither the records nor the slots have to do. -/
inductive Runner.Works (registry : Registry) (runner moved : Runner) : Prop where
  | start (stepped : runner.start? registry = some moved)
  | enter (stepped : runner.change? Signal.enter = some moved)
  | leave (stepped : runner.change? Signal.leave = some moved)
  | finish (outcome : Outcome) (stepped : runner.finish? outcome = some moved)
  | commit (stepped : runner.commit? = some moved)

namespace Runner.Works

variable {registry : Registry} {runner moved : Runner}

theorem start_cases (stepped : runner.start? registry = some moved) :
    (runner.stage = .admitted ∧ runner.signal = .queued ∧
      moved = { runner with
        signal := .running, stage := beginning registry runner.submission.config }) ∨
    (runner.stage = .refused ∧ runner.signal = .queued ∧
      moved = { runner with signal := .running, stage := .ended (.error .poolClosed) }) ∨
    ((runner.stage = .admitted ∨ runner.stage = .refused) ∧ runner.signal ≠ .queued ∧
      moved = { runner with stage := .leaving }) := by
  rcases runner with ⟨submission, signal, stage, slot⟩
  cases stage <;> cases signal <;>
    simp_all [start?, Signal.start?]

theorem change_cases {change : Signal → Signal} (stepped : runner.change? change = some moved) :
    (∃ definition, runner.stage = .working definition) ∧
      moved = { runner with signal := change runner.signal } := by
  rcases runner with ⟨submission, signal, stage, slot⟩
  cases stage <;> simp_all [change?]

theorem finish_cases {outcome : Outcome} (stepped : runner.finish? outcome = some moved) :
    (∃ definition, runner.stage = .working definition) ∧
      moved = { runner with stage := .ended outcome } := by
  rcases runner with ⟨submission, signal, stage, slot⟩
  cases stage <;> simp_all [finish?]

theorem commit_cases (stepped : runner.commit? = some moved) :
    ∃ outcome, runner.stage = .ended outcome ∧
      (((runner.signal = .running ∨ runner.signal = .shielded) ∧
          moved = { runner with signal := .reported, stage := .reporting outcome }) ∨
        (runner.signal ≠ .running ∧ runner.signal ≠ .shielded ∧
          moved = { runner with stage := .leaving })) := by
  rcases runner with ⟨submission, signal, stage, slot⟩
  cases stage <;> cases signal <;> simp_all [commit?, Signal.commit?]

theorem submission_eq (works : runner.Works registry moved) :
    moved.submission = runner.submission := by
  cases works with
  | start stepped =>
      rcases start_cases stepped with ⟨-, -, rfl⟩ | ⟨-, -, rfl⟩ | ⟨-, -, rfl⟩ <;> rfl
  | enter stepped => exact (change_cases stepped).2 ▸ rfl
  | leave stepped => exact (change_cases stepped).2 ▸ rfl
  | finish outcome stepped => exact (finish_cases stepped).2 ▸ rfl
  | commit stepped =>
      rcases commit_cases stepped with ⟨outcome, -, ⟨-, rfl⟩ | ⟨-, -, rfl⟩⟩ <;> rfl

theorem slot_eq (works : runner.Works registry moved) : moved.slot = runner.slot := by
  cases works with
  | start stepped =>
      rcases start_cases stepped with ⟨-, -, rfl⟩ | ⟨-, -, rfl⟩ | ⟨-, -, rfl⟩ <;> rfl
  | enter stepped => exact (change_cases stepped).2 ▸ rfl
  | leave stepped => exact (change_cases stepped).2 ▸ rfl
  | finish outcome stepped => exact (finish_cases stepped).2 ▸ rfl
  | commit stepped =>
      rcases commit_cases stepped with ⟨outcome, -, ⟨-, rfl⟩ | ⟨-, -, rfl⟩⟩ <;> rfl

end Runner.Works

/-- Whether an event is a report about a task that does not come from its runner. -/
def Event.isDeclaration : Event → Bool
  | complete _ _ | fail _ _ => true
  | _ => false

namespace Worker

/-- What an event may make of a worker. -/
inductive Change (worker : Worker) : Event → Worker → Prop where
  | ignored {event : Event} (quiet : worker.effect event = .nothing) : Change worker event worker
  | closed : Change worker .close worker.close
  | registered (name : String) (definition : Definition) :
      Change worker (.register name definition) (worker.register name definition)
  | drained : Change worker .drain worker.drain.2
  | restored (records : List TaskRecord) :
      Change worker (.restore records) (worker.restore records)
  | accepted {submission : Submission}
      (fresh : worker.tracker.unfinished.find? submission.key = none) :
      Change worker (.submit submission)
        { worker with
          pool := worker.pool.enqueue
          tracker := worker.tracker.accept submission.key worker.runners.length
          runners := worker.runners ++ [.ofSubmission submission] }
  | canceled {key : TaskKey} {number : Nat} {runner : Runner} {record final : TaskRecord}
      (handle : worker.tracker.handles.find? key = some number)
      (unfinished : worker.tracker.unfinished.find? key = some record)
      (found : worker.runners[number]? = some runner)
      (called : record.calledOff? runner.signal.interrupt.1 = some final) :
      Change worker (.cancel key)
        { worker.setRunner number { runner with signal := runner.signal.interrupt.2 } with
          tracker := worker.tracker.finish key final }
  | granted {number : Nat} {runner : Runner} (found : worker.runners[number]? = some runner)
      (waits : runner.stage = .waiting) (unclosed : worker.pool.closed = false)
      (free : 0 < worker.pool.available) :
      Change worker (.grant number)
        { worker.setRunner number { runner with stage := .admitted, slot := true } with
          pool := worker.pool.grant }
  | refused {number : Nat} {runner : Runner} (found : worker.runners[number]? = some runner)
      (waits : runner.stage = .waiting) (closed : worker.pool.closed = true) :
      Change worker (.refuse number)
        { worker.setRunner number { runner with stage := .refused } with
          pool := worker.pool.refuse }
  | worked {event : Event} {number : Nat} {runner moved : Runner}
      (quiet : worker.effect event = .nothing) (found : worker.runners[number]? = some runner)
      (works : runner.Works worker.registry moved) :
      Change worker event (worker.setRunner number moved)
  | reported {number : Nat} {runner : Runner} {outcome : Outcome} {record : TaskRecord}
      (found : worker.runners[number]? = some runner) (stage : runner.stage = .reporting outcome)
      (unfinished : worker.tracker.unfinished.find? runner.submission.key = some record) :
      Change worker (.report number)
        { worker.setRunner number { runner with stage := .leaving } with
          tracker := worker.tracker.finish runner.submission.key (record.ended outcome) }
  | missed {number : Nat} {runner : Runner} {outcome : Outcome}
      (found : worker.runners[number]? = some runner) (stage : runner.stage = .reporting outcome)
      (absent : worker.tracker.unfinished.find? runner.submission.key = none) :
      Change worker (.report number) (worker.setRunner number { runner with stage := .leaving })
  | left {number : Nat} {runner : Runner} (found : worker.runners[number]? = some runner)
      (stage : runner.stage = .leaving) :
      Change worker (.exit number)
        { worker.setRunner number { runner with stage := .gone, slot := false } with
          pool := if runner.slot then worker.pool.release else worker.pool }
  | declared {event : Event} {key : TaskKey} {final : TaskRecord}
      (declares : event.isDeclaration = true) (finishes : worker.effect event = .finish key final) :
      Change worker event { worker with tracker := worker.tracker.finish key final }

variable {worker changed : Worker} {event : Event} {key : TaskKey} {number other : Nat}
  {runner moved : Runner}

theorem getElem?_setRunner (found : worker.runners[number]? = some runner) :
    (worker.setRunner number moved).runners[other]? =
      if number = other then some moved else worker.runners[other]? := by
  rcases List.getElem?_eq_some_iff.mp found with ⟨inside, -⟩
  simp only [setRunner, List.getElem?_set]
  split <;> simp_all

theorem getElem?_concat_eq_some_iff {runners : List Runner} {last : Runner} :
    (runners ++ [last])[number]? = some runner ↔
      runners[number]? = some runner ∨ number = runners.length ∧ runner = last := by
  rw [List.getElem?_append]
  split
  · next inside =>
      have differs : number ≠ runners.length := by omega
      simp [differs]
  · next outside =>
      have absent : runners[number]? = none := by simpa using outside
      simp only [absent, List.getElem?_singleton, reduceCtorEq, false_or]
      split
      · next first =>
          have last : number = runners.length := by omega
          simp [last, eq_comm]
      · next further =>
          have differs : number ≠ runners.length := by omega
          simp [differs]

theorem setRunner_self (found : worker.runners[number]? = some runner) :
    worker.setRunner number runner = worker := by
  rcases worker with ⟨registry, pool, tracker, runners⟩
  rcases List.getElem?_eq_some_iff.mp found with ⟨inside, rfl⟩
  simp [setRunner]

theorem cancel_of_handle_eq_none (unhandled : worker.tracker.handles.find? key = none) :
    worker.cancel key = worker := by
  simp [cancel, unhandled]

theorem cancel_of_calledOff? {record final : TaskRecord}
    (handle : worker.tracker.handles.find? key = some number)
    (unfinished : worker.tracker.unfinished.find? key = some record)
    (found : worker.runners[number]? = some runner)
    (called : record.calledOff? runner.signal.interrupt.1 = some final) :
    worker.cancel key =
      { worker.setRunner number { runner with signal := runner.signal.interrupt.2 } with
        tracker := worker.tracker.finish key final } := by
  cases interruption : runner.signal.interrupt.1 with
  | accepted =>
      rw [interruption] at called
      cases called
      simp [cancel, handle, unfinished, found, interruption]
  | refused =>
      rw [interruption] at called
      cases called
      simp [cancel, handle, unfinished, found, interruption]
  | tooLate =>
      rw [interruption] at called
      cases called

/-- A cancellation that comes too late leaves even the signal as it is. -/
theorem cancel_of_tooLate (handle : worker.tracker.handles.find? key = some number)
    (found : worker.runners[number]? = some runner)
    (late : runner.signal.interrupt.1 = .tooLate) : worker.cancel key = worker := by
  have kept : runner.signal.interrupt.2 = runner.signal := by
    revert late
    cases runner.signal <;> simp [Signal.interrupt]
  cases unfinished : worker.tracker.unfinished.find? key with
  | none => simp [cancel, handle, unfinished]
  | some record =>
      simp only [cancel, handle, unfinished, found, late, kept]
      exact setRunner_self found

/-- A cancellation does nothing, or it ends the task in flight with the record that the signal of
its runner calls for. -/
theorem cancel_cases (worker : Worker) (key : TaskKey) :
    (worker.effect (.cancel key) = .nothing ∧ worker.cancel key = worker) ∨
      ∃ number runner record final, worker.tracker.handles.find? key = some number ∧
        worker.tracker.unfinished.find? key = some record ∧
        worker.runners[number]? = some runner ∧
        record.calledOff? runner.signal.interrupt.1 = some final ∧
        worker.cancel key =
          { worker.setRunner number { runner with signal := runner.signal.interrupt.2 } with
            tracker := worker.tracker.finish key final } := by
  cases unfinished : worker.tracker.unfinished.find? key with
  | none =>
      refine Or.inl ⟨?_, ?_⟩
      · simp [effect, unfinished, Effect.ending]
      · simp [cancel, unfinished]
  | some record =>
      cases handle : worker.tracker.handles.find? key with
      | none =>
          refine Or.inl ⟨?_, cancel_of_handle_eq_none handle⟩
          simp [effect, interruption?, handle, unfinished, Effect.ending]
      | some number =>
          cases found : worker.runners[number]? with
          | none =>
              refine Or.inl ⟨?_, ?_⟩
              · simp [effect, interruption?, handle, unfinished, found, Effect.ending]
              · simp [cancel, handle, unfinished, found]
          | some runner =>
              cases called : record.calledOff? runner.signal.interrupt.1 with
              | none =>
                  refine Or.inl ⟨?_, ?_⟩
                  · simp [effect, interruption?, handle, unfinished, found, called, Effect.ending]
                  · have late := TaskRecord.calledOff?_eq_none_iff.mp called
                    exact cancel_of_tooLate handle found late
              | some final =>
                  exact Or.inr ⟨number, runner, record, final, rfl, rfl, found, called,
                    cancel_of_calledOff? handle unfinished found called⟩

theorem change_cancel (worker : Worker) (key : TaskKey) :
    worker.Change (.cancel key) (worker.cancel key) := by
  rcases worker.cancel_cases key with
    ⟨quiet, same⟩ | ⟨number, runner, record, final, handle, unfinished, found, called, ends⟩
  · rw [same]
    exact .ignored quiet
  · rw [ends]
    exact .canceled handle unfinished found called

theorem change_report {outcome : Outcome}
    (found : worker.runners[number]? = some runner) (stage : runner.stage = .reporting outcome) :
    worker.Change (.report number)
      { worker.setRunner number { runner with stage := .leaving } with
        tracker := reported worker.tracker runner.submission.key outcome } := by
  rw [reported_eq]
  cases unfinished : worker.tracker.unfinished.find? runner.submission.key with
  | none => exact .missed found stage unfinished
  | some record => exact .reported found stage unfinished

/-- Every step is in the list. -/
theorem change_of_step? (stepped : worker.step? event = some changed) :
    worker.Change event changed := by
  cases event with
  | submit submission =>
      cases stepped
      by_cases inFlight : worker.tracker.isInFlight submission.key
      · rw [submit, if_pos inFlight]
        exact .ignored (by simp [effect, inFlight])
      · rw [submit, if_neg inFlight]
        exact .accepted (Tracker.isInFlight_eq_false_iff.mp (by simpa using inFlight))
  | cancel key =>
      cases stepped
      exact change_cancel worker key
  | complete key result =>
      cases unfinished : worker.tracker.unfinished.find? key with
      | none =>
          simp [step?, complete, Tracker.complete, unfinished, Except.map] at stepped
          exact stepped ▸ .ignored (by simp [effect, unfinished, Effect.ending])
      | some record =>
          simp [step?, complete, Tracker.complete, unfinished, Except.map] at stepped
          exact stepped ▸ .declared rfl (by simp [effect, unfinished, Effect.ending])
  | fail key message =>
      cases unfinished : worker.tracker.unfinished.find? key with
      | none =>
          simp [step?, fail, Tracker.fail, unfinished, Except.map] at stepped
          exact stepped ▸ .ignored (by simp [effect, unfinished, Effect.ending])
      | some record =>
          simp [step?, fail, Tracker.fail, unfinished, Except.map] at stepped
          exact stepped ▸ .declared rfl (by simp [effect, unfinished, Effect.ending])
  | drain =>
      cases stepped
      exact .drained
  | restore records =>
      cases stepped
      exact .restored records
  | close =>
      cases stepped
      exact .closed
  | register name definition =>
      cases stepped
      exact .registered name definition
  | grant number =>
      rcases exists_of_grant? stepped with ⟨runner, found, waits, unclosed, free, rfl⟩
      exact .granted found waits unclosed free
  | refuse number =>
      rcases exists_of_refuse? stepped with ⟨runner, found, waits, closed, rfl⟩
      exact .refused found waits closed
  | start number =>
      rcases exists_of_changeRunner? stepped with ⟨runner, moved, found, moves, rfl⟩
      exact .worked rfl found (.start moves)
  | enter number =>
      rcases exists_of_changeRunner? stepped with ⟨runner, moved, found, moves, rfl⟩
      exact .worked rfl found (.enter moves)
  | leave number =>
      rcases exists_of_changeRunner? stepped with ⟨runner, moved, found, moves, rfl⟩
      exact .worked rfl found (.leave moves)
  | finish number outcome =>
      rcases exists_of_changeRunner? stepped with ⟨runner, moved, found, moves, rfl⟩
      exact .worked rfl found (.finish outcome moves)
  | commit number =>
      rcases exists_of_changeRunner? stepped with ⟨runner, moved, found, moves, rfl⟩
      exact .worked rfl found (.commit moves)
  | report number =>
      rcases exists_of_report? stepped with ⟨runner, outcome, found, stage, rfl⟩
      exact change_report found stage
  | exit number =>
      rcases exists_of_exit? stepped with ⟨runner, found, stage, rfl⟩
      exact .left found stage

/-- The tasks that were ever accepted, in order of acceptance. -/
def submissions (worker : Worker) : List Submission := worker.runners.map (·.submission)

theorem getElem?_submissions_eq_some_iff {submission : Submission} :
    worker.submissions[number]? = some submission ↔
      ∃ runner, worker.runners[number]? = some runner ∧ runner.submission = submission := by
  rw [submissions, List.getElem?_map, Option.map_eq_some_iff]

theorem getElem?_submissions (found : worker.runners[number]? = some runner) :
    worker.submissions[number]? = some runner.submission :=
  getElem?_submissions_eq_some_iff.mpr ⟨runner, found, rfl⟩

theorem submissions_setRunner (found : worker.runners[number]? = some runner)
    (same : moved.submission = runner.submission) :
    (worker.setRunner number moved).submissions = worker.submissions := by
  apply List.ext_getElem?
  intro place
  simp only [submissions, List.getElem?_map, getElem?_setRunner found]
  split
  · next here =>
      subst here
      simp [found, same]
  · rfl

/-- Runners keep their tasks, and a new one comes only with an acceptance. -/
theorem submissions_of_change (change : worker.Change event changed) :
    changed.submissions = worker.submissions ∨
      ∃ submission : Submission,
        worker.effect event = .accept submission.key worker.runners.length ∧
          changed.submissions = worker.submissions ++ [submission] := by
  cases change with
  | ignored quiet => exact Or.inl rfl
  | closed => exact Or.inl rfl
  | registered name definition => exact Or.inl rfl
  | drained => exact Or.inl rfl
  | restored records => exact Or.inl rfl
  | @accepted submission fresh =>
      refine Or.inr ⟨submission, ?_, by simp [submissions, Runner.ofSubmission]⟩
      simp [effect, Tracker.isInFlight_eq_false_iff.mpr fresh]
  | canceled handle unfinished found called => exact Or.inl (submissions_setRunner found rfl)
  | granted found waits unclosed free => exact Or.inl (submissions_setRunner found rfl)
  | refused found waits closed => exact Or.inl (submissions_setRunner found rfl)
  | worked quiet found works => exact Or.inl (submissions_setRunner found works.submission_eq)
  | reported found stage unfinished => exact Or.inl (submissions_setRunner found rfl)
  | missed found stage absent => exact Or.inl (submissions_setRunner found rfl)
  | left found stage => exact Or.inl (submissions_setRunner found rfl)
  | declared declares finishes => exact Or.inl rfl

/-- The tasks once accepted stay, each in its place. -/
theorem submissions_prefix_of_change (change : worker.Change event changed) :
    worker.submissions <+: changed.submissions := by
  rcases submissions_of_change change with same | ⟨submission, -, more⟩
  · exact same ▸ List.prefix_refl _
  · exact more ▸ List.prefix_append _ _

theorem getElem?_of_prefix {earlier later : List Submission} {submission : Submission}
    (more : earlier <+: later) (accepted : earlier[number]? = some submission) :
    later[number]? = some submission := by
  rcases List.getElem?_eq_some_iff.mp accepted with ⟨inside, rfl⟩
  exact List.prefix_iff_getElem?.mp more number inside

theorem exists_of_run?_cons {rest : List Event} {final : Worker}
    (ran : worker.run? (event :: rest) = some final) :
    ∃ changed, worker.step? event = some changed ∧ changed.run? rest = some final := by
  unfold run? at ran
  split at ran
  · next changed stepped => exact ⟨changed, stepped, ran⟩
  · cases ran

theorem run?_cons_of_step? (stepped : worker.step? event = some changed) (rest : List Event) :
    worker.run? (event :: rest) = changed.run? rest := by
  simp [run?, stepped]

theorem run?_append (worker : Worker) (earlier later : List Event) :
    worker.run? (earlier ++ later) = (worker.run? earlier).bind (·.run? later) := by
  induction earlier generalizing worker with
  | nil => rfl
  | cons event rest ih =>
      cases stepped : worker.step? event with
      | none => simp [run?, stepped]
      | some changed => simp [run?, stepped, ih]

/-- What holds at first and is kept by every event of a sequence holds at its end. -/
theorem keeps_of_run? {motive : Worker → Prop} {events : List Event} {final : Worker}
    (ran : worker.run? events = some final) (initially : motive worker)
    (kept : ∀ event ∈ events, ∀ before after : Worker,
      before.step? event = some after → motive before → motive after) :
    motive final := by
  induction events generalizing worker with
  | nil =>
      cases ran
      exact initially
  | cons event rest ih =>
      rcases exists_of_run?_cons ran with ⟨changed, stepped, ran⟩
      apply ih ran
      · exact kept event List.mem_cons_self worker changed stepped initially
      · intro later member
        exact kept later (List.mem_cons_of_mem _ member)

theorem keyed_of_run? {events : List Event} {final : Worker}
    (ran : worker.run? events = some final) (keyed : worker.tracker.Keyed) :
    final.tracker.Keyed :=
  keeps_of_run? ran keyed fun _ _ _ _ stepped => keyed_of_step? stepped

/-- A pool keeps the size that it was made with. -/
theorem size_of_step? (stepped : worker.step? event = some changed) :
    changed.pool.size = worker.pool.size := by
  cases change_of_step? stepped with
  | @left number runner found stage => cases runner.slot <;> rfl
  | _ => rfl

theorem size_of_run? {events : List Event} (ran : worker.run? events = some changed) :
    changed.pool.size = worker.pool.size :=
  keeps_of_run? ran rfl (motive := fun after => after.pool.size = worker.pool.size)
    fun _ _ _ _ stepped kept => (size_of_step? stepped).trans kept

end Worker

end TaskAgent
