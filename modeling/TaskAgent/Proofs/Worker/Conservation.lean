import TaskAgent.Proofs.Worker.Life
import TaskAgent.Proofs.Worker.Slots

/-!
# Slots are conserved

A slot is taken by a runner when it is granted and given back when the runner leaves, and by no
other event (`Worker.Balanced`). So the runners with a slot are those that were granted one and
have not left, the ones that wait are those that were neither granted a slot nor turned away
(`Runner.Recorded`), and the counts of the pool are the numbers of both.

No slot is lost either. Whatever its signal, its job and the record of its task have come to, a
runner with a slot can go on by itself until it has left, and the one thing that this does to the
pool is to give one slot back (`Worker.Accounted.canLeave`).
-/

namespace TaskAgent

/-- The event gives the runner a slot, turns it away or lets it leave. -/
def Event.Passes (number : Nat) (event : Event) : Prop :=
  event = .grant number ∨ event = .refuse number ∨ event = .exit number

theorem Event.mover?_of_passes {number : Nat} {event : Event} (passes : event.Passes number) :
    event.mover? = some number := by
  rcases passes with rfl | rfl | rfl <;> rfl

namespace Runner

variable {registry : Registry} {past : List Event} {number : Nat} {event : Event}
  {runner moved : Runner}

/-- A job begins, or it has ended because nobody knows it. -/
theorem beginning_cases (registry : Registry) (config : JobConfig) :
    (∃ definition, beginning registry config = .working definition) ∨
      ∃ outcome, beginning registry config = .ended outcome := by
  unfold beginning
  split
  · next definition known => exact Or.inl ⟨definition, rfl⟩
  · exact Or.inr ⟨_, rfl⟩

/-- What the runner is like is told by the events so far. -/
structure Recorded (past : List Event) (number : Nat) (runner : Runner) : Prop where
  waiting : runner.isWaiting = true ↔ .grant number ∉ past ∧ .refuse number ∉ past
  slot : runner.slot = true ↔ .grant number ∈ past ∧ .exit number ∉ past
  gone : .exit number ∈ past → runner.stage = .gone

theorem recorded_ofSubmission (submission : Submission)
    (unmoved : ∀ event ∈ past, event.mover? ≠ some number) :
    (ofSubmission submission).Recorded past number := by
  have ungranted : .grant number ∉ past := fun member => unmoved _ member rfl
  have unrefused : .refuse number ∉ past := fun member => unmoved _ member rfl
  constructor
  · simp [isWaiting, ofSubmission, ungranted, unrefused]
  · simp [ofSubmission, ungranted]
  · intro member
    exact absurd rfl (unmoved _ member)

theorem Recorded.keep (recorded : runner.Recorded past number) (unpassed : ¬event.Passes number)
    (waiting : moved.isWaiting = runner.isWaiting) (slot : moved.slot = runner.slot)
    (gone : runner.stage = .gone → moved.stage = .gone) :
    moved.Recorded (past ++ [event]) number := by
  have ungranted : .grant number ≠ event := fun same => unpassed (Or.inl same.symm)
  have unrefused : .refuse number ≠ event := fun same => unpassed (Or.inr (Or.inl same.symm))
  have stays : .exit number ≠ event := fun same => unpassed (Or.inr (Or.inr same.symm))
  constructor
  · simpa [waiting, ungranted, unrefused] using recorded.waiting
  · simpa [slot, ungranted, stays] using recorded.slot
  · intro member
    exact gone (recorded.gone (by simpa [stays] using member))

theorem Works.stage_ne_gone (works : runner.Works registry moved) : runner.stage ≠ .gone := by
  rcases runner with ⟨submission, signal, stage, slot⟩
  rintro rfl
  cases works with
  | start stepped => cases stepped
  | enter stepped => cases stepped
  | leave stepped => cases stepped
  | finish outcome stepped => cases stepped
  | commit stepped => cases stepped

theorem Recorded.work (recorded : runner.Recorded past number) (unpassed : ¬event.Passes number)
    (works : runner.Works registry moved) : moved.Recorded (past ++ [event]) number := by
  rcases works.isWaiting_eq_false with ⟨before, after⟩
  refine recorded.keep unpassed (after.trans before.symm) works.slot_eq ?_
  intro gone
  exact absurd gone works.stage_ne_gone

/-- Every event leaves a record of what it does to the runner. -/
theorem Recorded.live (recorded : runner.Recorded past number)
    (lives : Lives registry number event runner moved) :
    moved.Recorded (past ++ [event]) number := by
  cases lives with
  | untouched alien =>
      refine recorded.keep ?_ rfl rfl id
      intro passes
      exact alien (Event.mover?_of_passes passes)
  | interrupted => exact recorded.keep (by simp [Event.Passes]) rfl rfl id
  | granted waits =>
      have unleft : .exit number ∉ past := by
        intro member
        simp [recorded.gone member] at waits
      constructor
      · simp [isWaiting]
      · simp [unleft]
      · simp [unleft]
  | refused waits =>
      have unleft : .exit number ∉ past := by
        intro member
        simp [recorded.gone member] at waits
      constructor
      · simp [isWaiting]
      · simpa using recorded.slot
      · simp [unleft]
  | started stepped =>
      have works : runner.Works registry moved := .start stepped
      exact recorded.work (by simp [Event.Passes]) works
  | entered stepped =>
      have works : runner.Works registry moved := .enter stepped
      exact recorded.work (by simp [Event.Passes]) works
  | left stepped =>
      have works : runner.Works registry moved := .leave stepped
      exact recorded.work (by simp [Event.Passes]) works
  | finished stepped =>
      have works : runner.Works registry moved := .finish _ stepped
      exact recorded.work (by simp [Event.Passes]) works
  | committed stepped =>
      have works : runner.Works registry moved := .commit stepped
      exact recorded.work (by simp [Event.Passes]) works
  | reported stage =>
      refine recorded.keep (by simp [Event.Passes]) ?_ rfl ?_
      · simp [isWaiting, stage]
      · simp [stage]
  | gone stage =>
      have unwaiting : runner.isWaiting = false := by simp [isWaiting, stage]
      constructor
      · have known := recorded.waiting
        simp [unwaiting] at known
        simpa [isWaiting] using known
      · simp
      · simp

end Runner

namespace Worker

variable {worker changed : Worker} {past events : List Event} {event : Event} {number : Nat}
  {runner : Runner}

/-- The events so far tell what every runner is like, and concern none that is not there yet. -/
structure Logged (past : List Event) (worker : Worker) : Prop where
  recorded : ∀ {number : Nat} {runner : Runner}, worker.runners[number]? = some runner →
    runner.Recorded past number
  unmoved : ∀ {number : Nat}, worker.runners[number]? = none →
    ∀ event ∈ past, event.mover? ≠ some number

theorem logged_make (pool : Pool) (registry : Registry) (address : Address) :
    (make pool registry address).Logged [] := by
  constructor
  · intro number runner found
    simp [make] at found
  · intro number absent event member
    cases member

theorem Logged.step (logged : worker.Logged past) (stepped : worker.step? event = some changed) :
    changed.Logged (past ++ [event]) := by
  constructor
  · intro number runner found
    cases before : worker.runners[number]? with
    | some old =>
        rcases lives_of_step? stepped before with ⟨moved, foundAfter, lives⟩
        cases found.symm.trans foundAfter
        exact (logged.recorded before).live lives
    | none =>
        rcases ofSubmission_of_step? stepped before found with ⟨still, submission, rfl⟩
        apply Runner.recorded_ofSubmission
        intro event member
        rcases List.mem_append.mp member with old | new
        · exact logged.unmoved before event old
        · rw [List.mem_singleton.mp new, still]
          simp
  · intro number absent event member
    -- runners are never taken away, so an empty place has always been empty
    have before : worker.runners[number]? = none := by
      cases before : worker.runners[number]? with
      | none => rfl
      | some old =>
          rcases lives_of_step? stepped before with ⟨moved, foundAfter, -⟩
          rw [absent] at foundAfter
          cases foundAfter
    rcases List.mem_append.mp member with old | new
    · exact logged.unmoved before event old
    · intro mover
      rw [List.mem_singleton.mp new] at mover
      rcases exists_of_mover? stepped mover with ⟨runner, found⟩
      rw [before] at found
      cases found

theorem logged_of_run? (ran : worker.run? events = some changed) (logged : worker.Logged past) :
    changed.Logged (past ++ events) := by
  induction events generalizing worker past with
  | nil =>
      cases ran
      simpa using logged
  | cons event rest ih =>
      rcases exists_of_run?_cons ran with ⟨middle, stepped, ran⟩
      simpa using ih ran (logged.step stepped)

/-- The slots that an event takes. -/
def taken : Event → Nat
  | .grant _ => 1
  | _ => 0

/-- The slots that an event gives back. -/
def returned (worker : Worker) : Event → Nat
  | .exit number => ((worker.runners[number]?.map Runner.slot).getD false).toNat
  | _ => 0

/-- The tasks that begin to wait with an event. -/
def joining (worker : Worker) : Event → Nat
  | .submit submission => (!worker.tracker.isInFlight submission.key).toNat
  | _ => 0

/-- The tasks that wait no longer after an event. -/
def parting : Event → Nat
  | .grant _ | .refuse _ => 1
  | _ => 0

/-- The counts of the pool change by what an event takes and gives, and never below nothing. -/
structure Balanced (worker : Worker) (event : Event) (changed : Worker) : Prop where
  size : changed.pool.size = worker.pool.size
  available : changed.pool.available + taken event =
    worker.pool.available + worker.returned event
  queued : changed.pool.queued + parting event = worker.pool.queued + worker.joining event

theorem Balanced.of_pool (pool : changed.pool = worker.pool)
    (still : taken event = 0 ∧ worker.returned event = 0 ∧ parting event = 0 ∧
      worker.joining event = 0) : worker.Balanced event changed := by
  rcases still with ⟨untaken, unreturned, unparted, unjoined⟩
  constructor
  · rw [pool]
  · rw [pool, untaken, unreturned]
  · rw [pool, unparted, unjoined]

theorem pool_cancel (worker : Worker) (key : TaskKey) : (worker.cancel key).pool = worker.pool := by
  rcases worker.cancel_cases key with
    ⟨-, same⟩ | ⟨number, runner, record, final, -, -, -, -, ends⟩
  · rw [same]
  · rw [ends]
    rfl

theorem pool_of_changeRunner? {change : Runner → Option Runner}
    (stepped : worker.changeRunner? number change = some changed) :
    changed.pool = worker.pool := by
  rcases exists_of_changeRunner? stepped with ⟨runner, moved, -, -, rfl⟩
  rfl

theorem Accounted.balanced (accounted : worker.Accounted)
    (stepped : worker.step? event = some changed) : worker.Balanced event changed := by
  cases event with
  | submit submission =>
      cases stepped
      cases inFlight : worker.tracker.isInFlight submission.key with
      | true =>
          refine .of_pool ?_ ⟨rfl, rfl, rfl, ?_⟩
          · simp [submit, inFlight]
          · simp [joining, inFlight]
      | false =>
          constructor
          · simp [submit, inFlight, Pool.enqueue]
          · simp [submit, inFlight, Pool.enqueue, taken, returned]
          · simp [submit, inFlight, Pool.enqueue, parting, joining]
  | cancel key =>
      cases stepped
      exact .of_pool (worker.pool_cancel key) ⟨rfl, rfl, rfl, rfl⟩
  | complete key result =>
      rcases exists_of_complete stepped with ⟨tracker, rfl⟩
      exact .of_pool rfl ⟨rfl, rfl, rfl, rfl⟩
  | fail key message =>
      rcases exists_of_fail stepped with ⟨tracker, rfl⟩
      exact .of_pool rfl ⟨rfl, rfl, rfl, rfl⟩
  | drain =>
      cases stepped
      exact .of_pool rfl ⟨rfl, rfl, rfl, rfl⟩
  | restore records =>
      cases stepped
      exact .of_pool rfl ⟨rfl, rfl, rfl, rfl⟩
  | close =>
      cases stepped
      constructor
      · rfl
      · rfl
      · rfl
  | register name definition =>
      cases stepped
      exact .of_pool rfl ⟨rfl, rfl, rfl, rfl⟩
  | grant number =>
      rcases exists_of_grant? stepped with ⟨runner, found, waits, -, free, rfl⟩
      have queued := accounted.queued_pos found waits
      constructor
      · rfl
      · simp [Pool.grant, taken, returned]
        omega
      · simp [Pool.grant, parting, joining]
        omega
  | refuse number =>
      rcases exists_of_refuse? stepped with ⟨runner, found, waits, -, rfl⟩
      have queued := accounted.queued_pos found waits
      constructor
      · rfl
      · rfl
      · simp [Pool.refuse, parting, joining]
        omega
  | start number => exact .of_pool (pool_of_changeRunner? stepped) ⟨rfl, rfl, rfl, rfl⟩
  | enter number => exact .of_pool (pool_of_changeRunner? stepped) ⟨rfl, rfl, rfl, rfl⟩
  | leave number => exact .of_pool (pool_of_changeRunner? stepped) ⟨rfl, rfl, rfl, rfl⟩
  | finish number outcome => exact .of_pool (pool_of_changeRunner? stepped) ⟨rfl, rfl, rfl, rfl⟩
  | commit number => exact .of_pool (pool_of_changeRunner? stepped) ⟨rfl, rfl, rfl, rfl⟩
  | report number =>
      rcases exists_of_report? stepped with ⟨runner, outcome, -, -, rfl⟩
      exact .of_pool rfl ⟨rfl, rfl, rfl, rfl⟩
  | exit number =>
      rcases exists_of_exit? stepped with ⟨runner, found, -, rfl⟩
      constructor
      · cases slot : runner.slot <;> simp [Pool.release]
      · cases slot : runner.slot <;> simp [Pool.release, taken, returned, found, slot]
      · cases slot : runner.slot <;> simp [Pool.release, parting, joining]

/-- The runner can go on by itself, by some of these events, until it has left, and all that
becomes of the pool is that a slot is given back. -/
def CanLeave (worker : Worker) (number : Nat) (events : List Event) : Prop :=
  ∃ steps final moved, steps.Sublist events ∧ worker.run? steps = some final ∧
    final.pool = worker.pool.release ∧ final.runners[number]? = some moved ∧
      moved.stage = .gone ∧
        ∀ other, other ≠ number → final.runners[other]? = worker.runners[other]?

namespace CanLeave

theorem of_leaving (runner : Runner) (found : worker.runners[number]? = some runner)
    (stage : runner.stage = .leaving) (slot : runner.slot = true) :
    worker.CanLeave number [.exit number] := by
  have stepped : worker.step? (.exit number) =
      some { worker.setRunner number { runner with stage := .gone, slot := false } with
        pool := worker.pool.release } := by
    simp [step?, exit?, found, stage, slot]
  refine ⟨[.exit number], _, { runner with stage := .gone, slot := false }, List.Sublist.refl _,
    run?_cons_of_step? stepped [], rfl, getElem?_setRunner_self found _, rfl, ?_⟩
  intro other differs
  exact getElem?_setRunner_of_ne differs.symm _

theorem skip (leaves : worker.CanLeave number events) (event : Event) :
    worker.CanLeave number (event :: events) := by
  rcases leaves with ⟨steps, final, moved, listed, facts⟩
  exact ⟨steps, final, moved, listed.cons event, facts⟩

theorem step (stepped : worker.step? event = some changed) (pool : changed.pool = worker.pool)
    (others : ∀ other, other ≠ number → changed.runners[other]? = worker.runners[other]?)
    (leaves : changed.CanLeave number events) : worker.CanLeave number (event :: events) := by
  rcases leaves with ⟨steps, final, moved, listed, ran, released, found, gone, kept⟩
  refine ⟨event :: steps, final, moved, listed.cons_cons event, ?_, ?_, found, gone, ?_⟩
  · rw [run?_cons_of_step? stepped]
    exact ran
  · rw [released, pool]
  · intro other differs
    rw [kept other differs, others other differs]

/-- A step of the runner that concerns nobody else leads to the rest of the way. -/
theorem of_changeRunner? {moved : Runner} {change : Runner → Option Runner}
    (steps : worker.step? event = worker.changeRunner? number change)
    (found : worker.runners[number]? = some runner) (moves : change runner = some moved)
    (leaves : (worker.setRunner number moved).CanLeave number events) :
    worker.CanLeave number (event :: events) := by
  have stepped : worker.step? event = some (worker.setRunner number moved) := by
    simp [steps, changeRunner?, found, moves]
  refine CanLeave.step stepped rfl ?_ leaves
  intro other differs
  exact getElem?_setRunner_of_ne differs.symm moved

/-- A report is made or refused; either way the runner goes on to leave. -/
theorem of_reporting (runner : Runner) {outcome : Outcome}
    (found : worker.runners[number]? = some runner)
    (stage : runner.stage = .reporting outcome) (slot : runner.slot = true) :
    worker.CanLeave number [.report number, .exit number] := by
  have stepped : worker.step? (.report number) =
      some { worker.setRunner number { runner with stage := .leaving } with
        tracker := reported worker.tracker runner.submission.key outcome } := by
    simp [step?, report?, found, stage]
  refine CanLeave.step stepped rfl ?_ ?_
  · intro other differs
    exact getElem?_setRunner_of_ne differs.symm _
  · exact of_leaving { runner with stage := .leaving } (getElem?_setRunner_self found _) rfl slot

theorem of_ended (runner : Runner) {outcome : Outcome}
    (found : worker.runners[number]? = some runner) (stage : runner.stage = .ended outcome)
    (slot : runner.slot = true) :
    worker.CanLeave number [.commit number, .report number, .exit number] := by
  cases commitment : runner.signal.commit? with
  | some signal =>
      have moves : runner.commit? = some { runner with signal, stage := .reporting outcome } := by
        simp [Runner.commit?, stage, commitment]
      exact of_changeRunner? rfl found moves (of_reporting { runner with signal, stage := _ }
        (getElem?_setRunner_self found _) rfl slot)
  | none =>
      have moves : runner.commit? = some { runner with stage := .leaving } := by
        simp [Runner.commit?, stage, commitment]
      have leaves := of_leaving { runner with stage := .leaving } (getElem?_setRunner_self found _)
        rfl slot
      exact of_changeRunner? rfl found moves (leaves.skip _)

theorem of_working (runner : Runner) {definition : Definition}
    (found : worker.runners[number]? = some runner) (stage : runner.stage = .working definition)
    (slot : runner.slot = true) (outcome : Outcome) :
    worker.CanLeave number
      [.finish number outcome, .commit number, .report number, .exit number] := by
  have moves : runner.finish? outcome = some { runner with stage := .ended outcome } := by
    simp [Runner.finish?, stage]
  exact of_changeRunner? rfl found moves (of_ended { runner with stage := .ended outcome }
    (getElem?_setRunner_self found _) rfl slot)

theorem of_admitted (found : worker.runners[number]? = some runner)
    (stage : runner.stage = .admitted) (slot : runner.slot = true) (outcome : Outcome) :
    worker.CanLeave number
      [.start number, .finish number outcome, .commit number, .report number, .exit number] := by
  -- an interruption before the start skips the job, and an unknown job has ended at once
  cases started : runner.signal.start? with
  | none =>
      have moves : runner.start? worker.registry = some { runner with stage := .leaving } := by
        simp [Runner.start?, stage, started]
      have leaves := of_leaving { runner with stage := .leaving } (getElem?_setRunner_self found _)
        rfl slot
      exact of_changeRunner? rfl found moves (((leaves.skip _).skip _).skip _)
  | some signal =>
      have moves : runner.start? worker.registry = some { runner with
          signal, stage := Runner.beginning worker.registry runner.submission.config } := by
        simp [Runner.start?, stage, started]
      apply of_changeRunner? rfl found moves
      have begun := getElem?_setRunner_self found { runner with
        signal, stage := Runner.beginning worker.registry runner.submission.config }
      rcases Runner.beginning_cases worker.registry runner.submission.config with
        ⟨definition, begins⟩ | ⟨result, begins⟩
      · rw [begins] at begun ⊢
        exact of_working { runner with signal, stage := .working definition } begun rfl slot outcome
      · rw [begins] at begun ⊢
        exact (of_ended { runner with signal, stage := .ended result } begun rfl slot).skip _

end CanLeave

/-- A runner with a slot leaves when it is let go on, however its job ends. -/
theorem Accounted.canLeave (accounted : worker.Accounted)
    (found : worker.runners[number]? = some runner) (slot : runner.slot = true)
    (outcome : Outcome) :
    worker.CanLeave number
      [.start number, .finish number outcome, .commit number, .report number, .exit number] := by
  have placed := accounted.placed found
  -- a runner that has come further leaves out the steps that are behind it
  cases stage : runner.stage with
  | waiting => simp [Runner.IsPlaced, stage, slot] at placed
  | admitted => exact .of_admitted found stage slot outcome
  | refused => simp [Runner.IsPlaced, stage, slot] at placed
  | working definition => exact (CanLeave.of_working runner found stage slot outcome).skip _
  | ended result => exact ((CanLeave.of_ended runner found stage slot).skip _).skip _
  | reporting result =>
      exact (((CanLeave.of_reporting runner found stage slot).skip _).skip _).skip _
  | leaving =>
      exact ((((CanLeave.of_leaving runner found stage slot).skip _).skip _).skip _).skip _
  | gone => simp [Runner.IsPlaced, stage, slot] at placed

/-- A runner that has left does not move any more. -/
theorem step?_eq_none_of_gone (found : worker.runners[number]? = some runner)
    (gone : runner.stage = .gone) (mover : event.mover? = some number) :
    worker.step? event = none := by
  cases event <;> simp only [Event.mover?, Option.some.injEq, reduceCtorEq] at mover <;>
    subst mover <;>
    simp [step?, grant?, refuse?, start?, enter?, leave?, finish?, commit?, report?, exit?,
      changeRunner?, found, gone, Runner.isWaiting, Runner.start?, Runner.change?,
      Runner.finish?, Runner.commit?]

theorem Accounted.slot_of_isWorking (accounted : worker.Accounted)
    (member : runner ∈ worker.runners) (working : runner.isWorking = true) :
    runner.slot = true := by
  rcases List.getElem?_of_mem member with ⟨number, found⟩
  have placed := accounted.placed found
  rcases runner with ⟨submission, signal, stage, slot⟩
  cases stage <;> simp_all [Runner.IsPlaced, Runner.isWorking]

/-- The counts of the pool are those of the runners that hold a slot and of those that wait. No
event takes a slot that is not there or lets a task leave an empty queue, and every runner with a
slot can leave, which gives back just that slot. -/
theorem slots_are_conserved {size : Nat} {registry : Registry} {address : Address}
    (ran : (make (.ofSize size) registry address).run? events = some worker) :
    worker.pool.size = max size 1 ∧ worker.pool.available ≤ worker.pool.size ∧
    worker.pool.active = worker.runners.countP Runner.slot ∧
    worker.pool.active ≤ worker.pool.size ∧
    worker.runners.countP Runner.isWorking ≤ worker.pool.size ∧
    worker.pool.queued = worker.runners.countP Runner.isWaiting ∧
    (∀ number runner, worker.runners[number]? = some runner →
      (runner.slot = true ↔ .grant number ∈ events ∧ .exit number ∉ events) ∧
      (runner.isWaiting = true ↔ .grant number ∉ events ∧ .refuse number ∉ events)) ∧
    (∀ event changed, worker.step? event = some changed → worker.Balanced event changed) ∧
    (∀ number runner outcome, worker.runners[number]? = some runner → runner.slot = true →
      worker.CanLeave number
        [.start number, .finish number outcome, .commit number, .report number,
          .exit number]) ∧
    ∀ number runner event, worker.runners[number]? = some runner → runner.stage = .gone →
      event.mover? = some number → worker.step? event = none := by
  have accounted := accounted_of_run? ran (accounted_make size registry address)
  have logged := logged_of_run? ran (logged_make (.ofSize size) registry address)
  have slots := accounted.slots_eq
  have active := accounted.active_eq
  have working : worker.runners.countP Runner.isWorking ≤ worker.runners.countP Runner.slot :=
    List.countP_mono_left fun runner member => accounted.slot_of_isWorking member
  refine ⟨?_, by omega, active, by omega, by omega, accounted.queued_eq, ?_, ?_, ?_, ?_⟩
  · exact size_of_run? ran
  · intro number runner found
    have recorded := logged.recorded found
    rw [List.nil_append] at recorded
    exact ⟨recorded.slot, recorded.waiting⟩
  · intro event changed stepped
    exact accounted.balanced stepped
  · intro number runner outcome found slot
    exact accounted.canLeave found slot outcome
  · intro number runner event found gone mover
    exact step?_eq_none_of_gone found gone mover

/-- A task is said from outside to have completed while it is at work, so its own report is
refused; a second one is called off while it waits, and a third one is turned away. -/
def refusedReport : List Event :=
  let task (number : Int64) : Submission := ⟨⟨1, number⟩, ⟨"job"⟩, .null, "scratch"⟩
  [.register "job" .script, .submit (task 1), .submit (task 2), .submit (task 3), .grant 0,
    .start 0, .complete ⟨1, 1⟩ .null, .finish 0 (.ok .null), .commit 0, .report 0, .exit 0,
    .cancel ⟨1, 2⟩, .grant 1, .close, .refuse 2]

theorem slots_are_conserved_refusedReport :
    ∃ worker, (make (.ofSize 0) .empty ⟨"host", 1, 2⟩).run? refusedReport = some worker ∧
      worker.pool.size = 1 ∧ worker.pool.active = 1 ∧ worker.pool.queued = 0 ∧
      worker.CanLeave 1
        [.start 1, .finish 1 (.ok .null), .commit 1, .report 1, .exit 1] ∧
      worker.step? (.exit 0) = none := by
  refine ⟨_, rfl, ?_⟩
  have ran : (make (.ofSize 0) .empty ⟨"host", 1, 2⟩).run? refusedReport = some _ := rfl
  rcases slots_are_conserved ran with
    ⟨size, -, active, -, -, queued, -, -, leaves, gone⟩
  exact ⟨size, active, queued, leaves 1 _ _ rfl rfl, gone 0 _ _ rfl rfl rfl⟩

end Worker

end TaskAgent
