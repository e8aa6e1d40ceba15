import Mathlib.Data.List.Nodup
import TaskAgent.Proofs.Agent.Foresight
import TaskAgent.Proofs.Worker.Conservation
import TaskAgent.Proofs.Worker.Restore
import TaskAgent.Proofs.Worker.Telling
import TaskAgent.Proofs.Worker.Verdict

/-!
# The order of the tasks does not matter

A schedule submits tasks to an agent, lets its runners move in any order and the world change in any
way, asks again for tasks in flight, and now and then hands over the changed records only to take
them back at once (`Agent.Schedule`). The last two leave the agent as it is.

If all outcomes are foretold, every runner is on its way to the foretold one and the changed records
tell how far it has come (`Agent.Foretold`). A task that waits waits for one that can move, so the
agent comes to an end with all of them, and the records that it then hands over are determined by
the tasks alone (`Agent.outcomes_are_independent`).
-/

namespace TaskAgent

namespace Worker

variable {worker changed : Worker} {event : Event} {number : Nat}

theorem submit_of_isInFlight {submission : Submission}
    (inFlight : worker.tracker.isInFlight submission.key = true) :
    worker.submit submission = worker :=
  if_pos inFlight

/-- Only a task that was accepted is in flight. -/
theorem Coherent.isInFlight_eq_false (coherent : worker.Coherent) {key : TaskKey}
    (new : key ∉ worker.submissions.map Submission.key) :
    worker.tracker.isInFlight key = false := by
  cases inFlight : worker.tracker.isInFlight key with
  | false => rfl
  | true =>
      rcases Tracker.isInFlight_eq_true_iff.mp inFlight with ⟨record, unfinished⟩
      rcases coherent.handle_of_unfinished unfinished with ⟨-, number, handle⟩
      rcases coherent.handle_iff.mp handle with ⟨runner, found, own, -⟩
      refine absurd (List.mem_map.mpr ⟨runner.submission, ?_, own⟩) new
      exact List.mem_of_getElem? (getElem?_submissions found)

theorem submissions_of_mover? (stepped : worker.step? event = some changed)
    (mover : event.mover? = some number) : changed.submissions = worker.submissions := by
  rcases submissions_of_change (change_of_step? stepped) with same | ⟨submission, accepts, -⟩
  · exact same
  · rcases submit_of_effect accepts with ⟨-, -, other, rfl, -⟩
    cases mover

end Worker

namespace Agent

variable {start agent changed : Agent} {order : List Submission} {number : Nat} {runner : Runner}
  {registry : Registry} {address : Address}

/-- What becomes of an agent to which tasks are submitted in an order. -/
inductive Schedule (start : Agent) : List Submission → Agent → Prop where
  | rest : Schedule start [] start
  | submitted {order : List Submission} {before : Agent} (schedule : Schedule start order before)
      (task : Submission) :
      Schedule start (order ++ [task]) { before with worker := before.worker.submit task }
  /-- A task in flight is asked for again, perhaps with another job or other arguments. -/
  | repeated {order : List Submission} {before : Agent} (schedule : Schedule start order before)
      (task : Submission)
      (inFlight : before.worker.tracker.isInFlight task.key = true) :
      Schedule start order { before with worker := before.worker.submit task }
  /-- The changed records are handed over and taken back at once, in whatever order. -/
  | returned {order : List Submission} {before : Agent} {records : List TaskRecord}
      (schedule : Schedule start order before) (same : records.Perm before.worker.drain.1) :
      Schedule start order { before with worker := before.worker.drain.2.restore records }
  | moved {order : List Submission} {before after : Agent} {number : Nat}
      (schedule : Schedule start order before) (moves : before.move? number = some after) :
      Schedule start order after
  | elsewhere {order : List Submission} {before : Agent} (schedule : Schedule start order before)
      (world : World) : Schedule start order { before with world }

namespace Schedule

/-- Nothing but the moves of its runners and the passing of time lets an agent settle. -/
theorem settle (schedule : start.Schedule order agent) : start.Schedule order agent.settle := by
  have course := agent.course_settle
  have movers : ∀ event ∈ agent.settleEvents, ∃ number, event.mover? = some number :=
    fun event member => exists_mover?_of_settleEvents member
  generalize agent.settleEvents = events, agent.settle = final at course movers ⊢
  induction course with
  | rest agent => exact schedule
  | next happens course ih =>
      refine ih ?_ fun event member => movers event (List.mem_append_right _ member)
      cases happens with
      | asked outside stepped =>
          rcases movers _ (List.mem_append_left _ List.mem_cons_self) with ⟨number, mover⟩
          rw [outside] at mover
          cases mover
      | elsewhere world => exact schedule.elsewhere world
      | moved first moves => exact schedule.moved moves

theorem exists_passage (schedule : start.Schedule order agent) :
    ∃ events, start.Passage events agent ∧ ∀ event ∈ events, event.isDeclaration = false := by
  induction schedule with
  | rest => exact ⟨[], .rest, by simp⟩
  | submitted schedule task ih =>
      rcases ih with ⟨past, passage, own⟩
      refine ⟨past ++ [.submit task], .next passage (.asked rfl rfl), ?_⟩
      simpa [or_imp, forall_and, Event.isDeclaration] using own
  | repeated schedule task inFlight ih =>
      rw [Worker.submit_of_isInFlight inFlight]
      exact ih
  | @returned order before records schedule same ih =>
      rcases ih with ⟨past, passage, own⟩
      have drained : start.Passage (past ++ [.drain])
          { before with worker := before.worker.drain.2 } := .next passage (.asked rfl rfl)
      have restored : Occurs { before with worker := before.worker.drain.2 } [.restore records]
          { before with worker := before.worker.drain.2.restore records } := .asked rfl rfl
      refine ⟨past ++ [.drain] ++ [.restore records], .next drained restored, ?_⟩
      simpa [or_imp, forall_and, Event.isDeclaration] using own
  | @moved order before after number schedule moves ih =>
      rcases ih with ⟨past, passage, own⟩
      refine ⟨past ++ (before.event? number).toList, .next passage (.moved moves), ?_⟩
      intro event member
      rcases List.mem_append.mp member with earlier | now
      · exact own event earlier
      · rcases exists_of_move? moves with ⟨runner, found, moved⟩
        rw [Option.mem_toList.mp now] at moved
        exact Event.isDeclaration_of_mover? moved.mover?_eq
  | elsewhere schedule world ih =>
      rcases ih with ⟨past, passage, own⟩
      refine ⟨past, ?_, own⟩
      simpa using Passage.next passage (.elsewhere world)

section Start

variable {size : Nat} {figures : MachineFigures} {files : FileTree}
  (schedule : (make (.ofSize size) registry address figures files).Schedule order agent)

include schedule

theorem coherent : agent.worker.Coherent := by
  rcases schedule.exists_passage with ⟨events, passage, own⟩
  exact Worker.coherent_of_run? passage.run? own (Worker.coherent_make ..)

theorem keyed : agent.worker.tracker.Keyed := by
  rcases schedule.exists_passage with ⟨events, passage, own⟩
  exact Worker.keyed_of_run? passage.run? (Tracker.keyed_ofAddress address)

theorem accounted : agent.worker.Accounted ∧ agent.worker.pool.size = max size 1 := by
  rcases schedule.exists_passage with ⟨events, passage, own⟩
  exact ⟨Worker.accounted_of_run? passage.run? (Worker.accounted_make size registry address),
    Worker.size_of_run? passage.run?⟩

theorem staffed : agent.Staffed := by
  rcases schedule.exists_passage with ⟨events, passage, own⟩
  exact passage.staffed (staffed_make (.ofSize size) registry address figures files)

end Start

end Schedule

/-! ### On the way to what was foretold -/

/-- The tasks of the agent are those of the order, nobody called one of them off, each goes to the
outcome foretold for it, and that is what the changed records tell. -/
structure Foretold (registry : Registry) (address : Address) (order : List Submission)
    (agent : Agent) : Prop where
  registry_eq : agent.worker.registry = registry
  address_eq : agent.worker.tracker.address = address
  unclosed : agent.worker.pool.closed = false
  submissions_eq : agent.worker.submissions = order
  calm : ∀ (number : Nat) (runner : Runner), agent.worker.runners[number]? = some runner →
    runner.signal.isInterrupted = false
  carries : ∀ (number : Nat) (runner : Runner), agent.worker.runners[number]? = some runner →
    ∃ outcome, runner.submission.foretold? registry = some outcome ∧
      agent.Carries (Computation.Heads outcome) (· = outcome) number runner
  tells : agent.worker.Tells (Submission.final? registry address)

namespace Foretold

theorem make (size : Nat) (registry : Registry) (address : Address) (figures : MachineFigures)
    (files : FileTree) :
    (make (.ofSize size) registry address figures files).Foretold registry address [] := by
  refine ⟨rfl, rfl, rfl, rfl, ?_, ?_, Worker.tells_make ..⟩
  · intro number runner found
    simp [Agent.make, Worker.make] at found
  · intro number runner found
    simp [Agent.make, Worker.make] at found

theorem submit (foretold : agent.Foretold registry address order) (coherent : agent.worker.Coherent)
    {task : Submission} {outcome : Outcome} (new : task.key ∉ order.map Submission.key)
    (known : task.foretold? registry = some outcome) :
    ({ agent with worker := agent.worker.submit task } : Agent).Foretold registry address
      (order ++ [task]) := by
  rw [← foretold.submissions_eq] at new
  have fresh := coherent.isInFlight_eq_false new
  simp only [Worker.submit, fresh, Bool.false_eq_true, if_false]
  constructor
  · exact foretold.registry_eq
  · exact foretold.address_eq
  · exact foretold.unclosed
  · simp [← foretold.submissions_eq, Worker.submissions, Runner.ofSubmission]
  · intro number runner found
    rcases Worker.getElem?_concat_eq_some_iff.mp found with old | ⟨-, rfl⟩
    · exact foretold.calm number runner old
    · rfl
  · intro number runner found
    rcases Worker.getElem?_concat_eq_some_iff.mp found with old | ⟨-, rfl⟩
    · rcases foretold.carries number runner old with ⟨outcome, known, carries⟩
      exact ⟨outcome, known, carries.congr rfl rfl⟩
    · exact ⟨outcome, known, carries_ofSubmission task⟩
  · exact foretold.tells.accept new

/-- A move of a runner that nobody called off. -/
theorem moved_calm {step : Option Event} (moves : agent.Moved number runner step changed)
    (found : agent.worker.runners[number]? = some runner)
    (calm : runner.signal.isInterrupted = false) :
    ∃ after, changed.worker.runners[number]? = some after ∧
      after.signal.isInterrupted = false := by
  rcases moves.worker_cases with same | ⟨event, stepped, mover⟩
  · exact ⟨runner, same ▸ found, calm⟩
  · rcases Worker.lives_of_step? stepped found with ⟨after, foundAfter, lives⟩
    have outright : ∀ key, event ≠ .cancel key := by
      rintro key rfl
      cases mover
    refine ⟨after, foundAfter, ?_⟩
    rw [← Bool.not_eq_true, lives.isInterrupted_iff outright, Bool.not_eq_true]
    exact calm

theorem unclosed_move {step : Option Event} (foretold : agent.Foretold registry address order)
    (moves : agent.Moved number runner step changed) : changed.worker.pool.closed = false := by
  rcases moves.worker_cases with same | ⟨event, stepped, mover⟩
  · rw [same]
    exact foretold.unclosed
  · rw [Worker.closed_of_mover? stepped mover]
    exact foretold.unclosed

theorem carries_move {step : Option Event} (foretold : agent.Foretold registry address order)
    (moves : agent.Moved number runner step changed)
    (found : agent.worker.runners[number]? = some runner) :
    ∃ after, changed.worker.runners[number]? = some after ∧
      ∃ outcome, after.submission.foretold? registry = some outcome ∧
        changed.Carries (Computation.Heads outcome) (· = outcome) number after := by
  have calm := foretold.calm number runner found
  rcases foretold.carries number runner found with ⟨outcome, known, carries⟩
  rcases moves.carries found carries (foretold.registry_eq ▸ begins_of_foretold? known)
    (·.next? calm ·) (·.outcome_eq ·) (foretold.unclosed_move moves) with
    ⟨after, foundAfter, carries⟩
  refine ⟨after, foundAfter, outcome, ?_, carries⟩
  rw [Worker.submission_eq_of_run? moves.run? found foundAfter]
  exact known

theorem tells_move {step : Option Event} (foretold : agent.Foretold registry address order)
    (coherent : agent.worker.Coherent) (moves : agent.Moved number runner step changed) :
    changed.worker.Tells (Submission.final? registry address) := by
  rcases moves.worker_cases with same | ⟨event, stepped, mover⟩
  · rw [same]
    exact foretold.tells
  · refine foretold.tells.change (Worker.change_of_step? stepped) mover coherent
      (foretold.calm _ _) ?_
    intro number runner outcome found stage
    rcases foretold.carries number runner found with ⟨foreseen, known, carries⟩
    simp only [Carries, stage] at carries
    rw [Submission.final?, known, carries, foretold.address_eq]
    rfl

/-- Every move of the agent. -/
theorem move (foretold : agent.Foretold registry address order) (coherent : agent.worker.Coherent)
    (moves : agent.move? number = some changed) : changed.Foretold registry address order := by
  rcases exists_of_move? moves with ⟨runner, found, moved⟩
  constructor
  · exact (moved.exists_set found).1.trans foretold.registry_eq
  · exact (Worker.address_of_run? moved.run?).trans foretold.address_eq
  · exact foretold.unclosed_move moved
  · rcases moved.worker_cases with same | ⟨event, stepped, mover⟩
    · rw [same]
      exact foretold.submissions_eq
    · rw [Worker.submissions_of_mover? stepped mover]
      exact foretold.submissions_eq
  · have calm := foretold.calm number runner found
    refine moved.forall_runners found (moved_calm moved found calm) ?_
    intro other rival differs foundOther
    exact foretold.calm other rival foundOther
  · refine moved.forall_runners found (foretold.carries_move moved found) ?_
    intro other rival differs foundOther
    rcases foretold.carries other rival foundOther with ⟨outcome, known, carries⟩
    exact ⟨outcome, known, carries.congr (moved.find?_computations differs) rfl⟩
  · exact foretold.tells_move coherent moved

end Foretold

theorem Schedule.foretold {size : Nat} {figures : MachineFigures} {files : FileTree}
    (schedule : (make (.ofSize size) registry address figures files).Schedule order agent)
    (distinct : (order.map Submission.key).Nodup)
    (known : ∀ task ∈ order, (task.foretold? registry).isSome = true) :
    agent.Foretold registry address order := by
  induction schedule with
  | rest => exact .make size registry address figures files
  | @submitted order before schedule task ih =>
      rw [List.map_append, List.nodup_append] at distinct
      rcases Option.isSome_iff_exists.mp (known task (by simp)) with ⟨outcome, foreseen⟩
      refine (ih distinct.1 ?_).submit schedule.coherent ?_ foreseen
      · intro other member
        exact known other (List.mem_append_left _ member)
      · intro member
        exact distinct.2.2 task.key member task.key (by simp) rfl
  | repeated schedule task inFlight ih =>
      rw [Worker.submit_of_isInFlight inFlight]
      exact ih distinct known
  | returned schedule same ih =>
      rw [Worker.restore_of_perm schedule.keyed same]
      exact ih distinct known
  | moved schedule moves ih => exact (ih distinct known).move schedule.coherent moves
  | elsewhere schedule world ih =>
      rcases ih distinct known with ⟨registry, address, unclosed, submissions, calm, carries, tells⟩
      refine ⟨registry, address, unclosed, submissions, calm, ?_, tells⟩
      intro number runner found
      rcases carries number runner found with ⟨outcome, known, carries⟩
      exact ⟨outcome, known, carries.congr rfl rfl⟩

/-! ### After everything has run -/

namespace Foretold

/-- At rest no job runs: none of them waits for anything but the end of a short rest. -/
theorem isWorking_eq_false (foretold : agent.Foretold registry address order)
    (coherent : agent.worker.Coherent) (staffed : agent.Staffed) (settled : agent.IsSettled)
    (found : agent.worker.runners[number]? = some runner) : runner.isWorking = false := by
  cases works : runner.isWorking with
  | false => rfl
  | true =>
      rcases settled.isHeldUp staffed found works with ⟨same, computed, -, unawaited⟩
      rcases foretold.carries number runner found with ⟨outcome, -, carries⟩
      have live : runner.isLive = true := by
        cases stage : runner.stage <;> simp_all [Runner.isWorking, Runner.isLive]
      have isOpen := Runner.isOpen_of_isLive (coherent.agreed found)
        (foretold.calm number runner found) live
      rcases carries.of_move?_eq_none found isOpen foretold.unclosed
        (settled.move?_eq_none number) with
        ⟨waits, -⟩ | ⟨-, computation, computing, heads, unended, stuck⟩
      · cases stage : runner.stage <;> simp_all [Runner.isWorking, Runner.isWaiting]
      · cases computing.symm.trans computed
        rcases heads.exists_wakeTime? unended stuck with ⟨time, wakes⟩
        rw [wakes] at unawaited
        cases unawaited

/-- So all slots are free, and nobody waits for one. -/
theorem isLive_eq_false (foretold : agent.Foretold registry address order)
    (coherent : agent.worker.Coherent) (staffed : agent.Staffed)
    (accounted : agent.worker.Accounted) (positive : 0 < agent.worker.pool.size)
    (settled : agent.IsSettled) (found : agent.worker.runners[number]? = some runner) :
    runner.slot = false ∧ runner.isLive = false := by
  have idle {place : Nat} {other : Runner} (stands : agent.worker.runners[place]? = some other) :
      other.slot = false := by
    cases slot : other.slot with
    | false => rfl
    | true =>
        have works := settled.isWorking accounted stands slot
        rw [foretold.isWorking_eq_false coherent staffed settled stands] at works
        cases works
  have unused : agent.worker.runners.countP Runner.slot = 0 := by
    rw [List.countP_eq_zero]
    intro other member
    rcases List.getElem?_of_mem member with ⟨place, stands⟩
    simp [idle stands]
  refine ⟨idle found, ?_⟩
  cases live : runner.isLive with
  | false => rfl
  | true =>
      have isOpen := Runner.isOpen_of_isLive (coherent.agreed found)
        (foretold.calm number runner found) live
      rcases foretold.carries number runner found with ⟨outcome, -, carries⟩
      rcases carries.of_move?_eq_none found isOpen foretold.unclosed
        (settled.move?_eq_none number) with ⟨-, none⟩ | ⟨works, -⟩
      · have slots := accounted.slots_eq
        omega
      · rw [foretold.isWorking_eq_false coherent staffed settled found] at works
        cases works

theorem mem_drain_iff (foretold : agent.Foretold registry address order)
    (ceased : ∀ (number : Nat) (runner : Runner), agent.worker.runners[number]? = some runner →
      runner.isLive = false)
    {record : TaskRecord} : record ∈ agent.worker.drain.1 ↔
      record ∈ order.filterMap (Submission.final? registry address) := by
  have drained : agent.worker.drain.1 = agent.worker.tracker.updates.values := rfl
  have told {number : Nat} {runner : Runner}
      (found : agent.worker.runners[number]? = some runner) :
      runner.told (Submission.final? registry address) agent.worker.tracker.address =
        runner.submission.final? registry address := by
    simp [Runner.told, ceased number runner found]
  rw [drained, Ledger.mem_values, List.mem_filterMap, ← foretold.submissions_eq]
  simp only [foretold.tells.told_iff]
  constructor
  · rintro ⟨key, number, runner, found, -, tells⟩
    refine ⟨runner.submission, ?_, (told found).symm.trans tells⟩
    exact List.mem_of_getElem? (Worker.getElem?_submissions found)
  · rintro ⟨task, member, ends⟩
    rcases List.getElem?_of_mem member with ⟨number, accepted⟩
    rcases Worker.getElem?_submissions_eq_some_iff.mp accepted with ⟨runner, found, rfl⟩
    exact ⟨_, number, runner, found, rfl, (told found).trans ends⟩

end Foretold

theorem key_of_final? {task : Submission} {record : TaskRecord}
    (ends : task.final? registry address = some record) :
    record.key = task.key ∧ record.status.isFinal = true := by
  rcases Option.map_eq_some_iff.mp ends with ⟨outcome, -, rfl⟩
  have endsAs := TaskRecord.endsAs_ended (.running task.key address) outcome
  exact ⟨endsAs.key_eq, endsAs.isFinal⟩

/-- Tasks with keys of their own have final records of their own, one each. -/
theorem map_key_filterMap (known : ∀ task ∈ order, (task.foretold? registry).isSome = true) :
    (order.filterMap (Submission.final? registry address)).map TaskRecord.key =
      order.map Submission.key := by
  induction order with
  | nil => rfl
  | cons task rest ih =>
      rcases Option.isSome_iff_exists.mp (known task List.mem_cons_self) with ⟨outcome, foreseen⟩
      have ends : task.final? registry address =
          some ((TaskRecord.running task.key address).ended outcome) := by
        simp [Submission.final?, foreseen]
      rw [List.filterMap_cons_some ends, List.map_cons, List.map_cons, (key_of_final? ends).1,
        ih fun other member => known other (List.mem_cons_of_mem _ member)]

/-- An agent with foretold tasks comes to an end with all of them and has just their final records
to tell. -/
theorem Schedule.perm_drain {size : Nat} {figures : MachineFigures} {files : FileTree}
    (schedule : (make (.ofSize size) registry address figures files).Schedule order agent)
    (distinct : (order.map Submission.key).Nodup)
    (known : ∀ task ∈ order, (task.foretold? registry).isSome = true) :
    agent.settle.worker.tracker.unfinished = ∅ ∧ agent.settle.worker.pool.active = 0 ∧
    agent.settle.worker.pool.queued = 0 ∧
    agent.settle.worker.drain.1.Perm (order.filterMap (Submission.final? registry address)) := by
  have foretold := schedule.settle.foretold distinct known
  have coherent := schedule.settle.coherent
  rcases schedule.settle.accounted with ⟨accounted, size_eq⟩
  have ceased (number : Nat) (runner : Runner)
      (found : agent.settle.worker.runners[number]? = some runner) :
      runner.slot = false ∧ runner.isLive = false :=
    foretold.isLive_eq_false coherent schedule.settle.staffed accounted (by omega)
      (isSettled_settle agent) found
  have none (holds : Runner → Bool)
      (never : ∀ runner, runner.slot = false → runner.isLive = false → holds runner = false) :
      agent.settle.worker.runners.countP holds = 0 := by
    rw [List.countP_eq_zero]
    intro runner member
    rcases List.getElem?_of_mem member with ⟨number, found⟩
    simp [never runner (ceased number runner found).1 (ceased number runner found).2]
  refine ⟨?_, ?_, ?_, ?_⟩
  · have count := coherent.unfinishedCount_le
    rw [none Runner.isLive fun _ _ dead => dead, Nat.le_zero] at count
    exact Ledger.eq_empty_of_size_eq_zero count
  · rw [accounted.active_eq]
    exact none Runner.slot fun _ unused _ => unused
  · rw [accounted.queued_eq]
    apply none Runner.isWaiting
    intro runner _ dead
    cases stage : runner.stage <;> simp_all [Runner.isLive, Runner.isWaiting]
  · have keys : agent.settle.worker.drain.1.map TaskRecord.key =
        agent.settle.worker.tracker.updates.keys :=
      Ledger.map_values_eq_keys schedule.settle.keyed.updates
    rw [List.perm_ext_iff_of_nodup]
    · intro record
      exact foretold.mem_drain_iff fun number runner found => (ceased number runner found).2
    · apply List.Nodup.of_map TaskRecord.key
      rw [keys]
      exact Ledger.nodup_keys _
    · apply List.Nodup.of_map TaskRecord.key
      rw [map_key_filterMap known]
      exact distinct

/-- Whatever the order in which tasks with foretold outcomes are submitted, the number of slots, the
turns that the runners take, and whoever asks for a task in flight or looks at the changed records
in between: after everything has run, nothing is in flight, and the records that are handed over
are the same, one final record for each task. -/
theorem outcomes_are_independent {size sizeThere : Nat} {figures figuresThere : MachineFigures}
    {files filesThere : FileTree} {orderThere : List Submission} {there : Agent}
    (schedule : (make (.ofSize size) registry address figures files).Schedule order agent)
    (scheduleThere : (make (.ofSize sizeThere) registry address figuresThere filesThere).Schedule
      orderThere there)
    (reordered : order.Perm orderThere) (distinct : (order.map Submission.key).Nodup)
    (known : ∀ task ∈ order, (task.foretold? registry).isSome = true) :
    let ended := agent.settle.worker
    let told := ended.drain.1
    ended.tracker.unfinished = ∅ ∧ ended.pool.active = 0 ∧ ended.pool.queued = 0 ∧
    told.Perm there.settle.worker.drain.1 ∧
    told.Perm (order.filterMap (Submission.final? registry address)) ∧
    (told.map TaskRecord.key).Perm (order.map Submission.key) ∧
    ∀ record ∈ told, record.status.isFinal = true := by
  intro ended told
  have distinctThere : (orderThere.map Submission.key).Nodup :=
    (reordered.map Submission.key).nodup_iff.mp distinct
  have knownThere : ∀ task ∈ orderThere, (task.foretold? registry).isSome = true :=
    fun task member => known task (reordered.mem_iff.mpr member)
  rcases schedule.perm_drain distinct known with ⟨unfinished, inactive, unqueued, here⟩
  rcases scheduleThere.perm_drain distinctThere knownThere with ⟨-, -, -, same⟩
  refine ⟨unfinished, inactive, unqueued, ?_, here, ?_, ?_⟩
  · exact here.trans ((reordered.filterMap _).trans same.symm)
  · rw [← map_key_filterMap known]
    exact here.map TaskRecord.key
  · intro record member
    rcases List.mem_filterMap.mp (here.mem_iff.mp member) with ⟨task, -, ends⟩
    exact (key_of_final? ends).2

/-- A job that always gives one value, beside the built-in ones. -/
def withFive : Registry := Registry.builtin.insert "five" (.constant (.integer 5))

/-- An agent with these jobs and no task. -/
def oneOfSize (size : Nat) : Agent :=
  .make (.ofSize size) withFive ⟨"host", 1, 2⟩
    ⟨.ofInt .single 0, 0, .ofInt .double 0, .ofInt .double 0, .ofInt .double 0⟩ .initial

def assorted (number : Int64) (name : String) (arguments : Json) : Submission :=
  ⟨⟨1, number⟩, ⟨name⟩, arguments, "scratch"⟩

/-- A task of every kind whose outcome is foretold. -/
def assortment : List Submission :=
  [assorted 1 "noop" .null, assorted 2 "echo" (.bool true), assorted 3 "fail" .null,
    assorted 4 "sleep" (.object [("ms", .integer 20)]), assorted 5 "five" .null,
    assorted 6 "nothing" .null]

/-- On one slot, with a rest after the second task, a look at the changed records, and another job
for the fourth; and on three slots, in the opposite order without any of that. -/
theorem outcomes_are_independent_assortment : ∃ here there,
    (oneOfSize 1).Schedule assortment here ∧ (oneOfSize 3).Schedule assortment.reverse there ∧
    here.settle.worker.drain.1.Perm there.settle.worker.drain.1 ∧
    (here.settle.worker.drain.1.map TaskRecord.key).Perm (assortment.map Submission.key) ∧
    ∀ record ∈ here.settle.worker.drain.1, record.status.isFinal = true := by
  have begun := ((Schedule.rest : (oneOfSize 1).Schedule [] _).submitted (assorted 1 "noop" .null))
    |>.submitted (assorted 2 "echo" (.bool true))
  have looked := (begun.settle.returned (.refl _)).submitted (assorted 3 "fail" .null)
    |>.submitted (assorted 4 "sleep" (.object [("ms", .integer 20)]))
  have here := (looked.repeated (assorted 4 "echo" .null) rfl).submitted (assorted 5 "five" .null)
    |>.submitted (assorted 6 "nothing" .null)
  have there := ((Schedule.rest : (oneOfSize 3).Schedule [] _).submitted
      (assorted 6 "nothing" .null)).submitted (assorted 5 "five" .null)
    |>.submitted (assorted 4 "sleep" (.object [("ms", .integer 20)]))
    |>.submitted (assorted 3 "fail" .null)
    |>.submitted (assorted 2 "echo" (.bool true))
    |>.submitted (assorted 1 "noop" .null)
  have distinct : (assortment.map Submission.key).Nodup := by decide
  have known : ∀ task ∈ assortment, (task.foretold? withFive).isSome = true := by decide
  rcases outcomes_are_independent here there (List.reverse_perm assortment).symm distinct known with
    ⟨-, -, -, same, -, keys, final⟩
  exact ⟨_, _, here, there, same, keys, final⟩

end Agent

end TaskAgent
