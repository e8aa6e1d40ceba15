import TaskAgent.Agent.State
import TaskAgent.Proofs.Worker.Fate

/-!
# Moves of an agent, read as steps of its worker

A move of a runner is a step of the worker, with what it does to the computation of the runner; a
step inside a job that does not touch the signal of its task is nothing to the worker.
`Agent.event?` tells which step it is, and `Agent.Moved` lists what a move can be, so that no later
proof takes a move apart. What the worker does in the course of many moves is in this way a run of
its own, and every law of workers holds of agents.
-/

namespace TaskAgent

/-- The step of the worker in which a job touches the signal of its task. -/
def Touch.event (number : Nat) : Touch → Event
  | enter => .enter number
  | leave => .leave number

theorem Touch.mover?_event (number : Nat) (touch : Touch) :
    (touch.event number).mover? = some number := by
  cases touch <;> rfl

/-- A job begins only with the start of its runner. -/
theorem Runner.Lives.isWorking_of_ne_start {registry : Registry} {number : Nat} {event : Event}
    {runner moved : Runner} (lives : Lives registry number event runner moved)
    (unstarted : event ≠ .start number) (idle : runner.isWorking = false) :
    moved.isWorking = false := by
  cases lives with
  | untouched alien => exact idle
  | interrupted => exact idle
  | granted waits => rfl
  | refused waits => rfl
  | started stepped => exact absurd rfl unstarted
  | entered stepped =>
      rcases Works.change_cases stepped with ⟨-, rfl⟩
      exact idle
  | left stepped =>
      rcases Works.change_cases stepped with ⟨-, rfl⟩
      exact idle
  | finished stepped =>
      rcases Works.finish_cases stepped with ⟨-, rfl⟩
      rfl
  | committed stepped =>
      rcases Works.commit_cases stepped with ⟨outcome, -, ⟨-, rfl⟩ | ⟨-, -, rfl⟩⟩ <;> rfl
  | reported stage => rfl
  | gone stage => rfl

namespace Worker

variable {worker changed : Worker} {event : Event} {number : Nat}

/-- The step of a runner changes no other runner. -/
theorem exists_set_of_mover? (stepped : worker.step? event = some changed)
    (mover : event.mover? = some number) :
    ∃ after, changed.runners = worker.runners.set number after := by
  cases event <;> simp only [Event.mover?, Option.some.injEq, reduceCtorEq] at mover <;>
    subst mover
  case grant =>
    rcases exists_of_grant? stepped with ⟨runner, -, -, -, -, rfl⟩
    exact ⟨_, rfl⟩
  case refuse =>
    rcases exists_of_refuse? stepped with ⟨runner, -, -, -, rfl⟩
    exact ⟨_, rfl⟩
  case report =>
    rcases exists_of_report? stepped with ⟨runner, outcome, -, -, rfl⟩
    exact ⟨_, rfl⟩
  case exit =>
    rcases exists_of_exit? stepped with ⟨runner, -, -, rfl⟩
    exact ⟨_, rfl⟩
  all_goals
    rcases exists_of_changeRunner? stepped with ⟨runner, moved, -, -, rfl⟩
    exact ⟨moved, rfl⟩

theorem registry_of_mover? (stepped : worker.step? event = some changed)
    (mover : event.mover? = some number) : changed.registry = worker.registry := by
  rw [registry_of_step? stepped]
  cases event with
  | register name definition => cases mover
  | _ => rfl

/-- No runner closes the pool. -/
theorem closed_of_mover? (stepped : worker.step? event = some changed)
    (mover : event.mover? = some number) : changed.pool.closed = worker.pool.closed := by
  cases change_of_step? stepped with
  | @left number runner found stage => cases runner.slot <;> rfl
  | closed => cases mover
  | _ => rfl

/-- A job that touches the signal of its task changes nothing else. -/
theorem getElem?_of_touch {runner : Runner} {touch : Option Touch}
    (found : worker.runners[number]? = some runner)
    (touched : worker.run? (touch.map (Touch.event number)).toList = some changed) :
    changed.runners[number]? =
      some { runner with signal := touch.elim runner.signal (Touch.apply · runner.signal) } := by
  cases touch with
  | none =>
      cases touched
      exact found
  | some touch =>
      rcases exists_of_run?_cons touched with ⟨after, stepped, same⟩
      cases same
      cases touch with
      | enter =>
          rcases exists_of_changeRunner? stepped with ⟨before, moved, foundBefore, changes, rfl⟩
          cases found.symm.trans foundBefore
          rcases Runner.Works.change_cases changes with ⟨-, rfl⟩
          exact getElem?_setRunner_self found _
      | leave =>
          rcases exists_of_changeRunner? stepped with ⟨before, moved, foundBefore, changes, rfl⟩
          cases found.symm.trans foundBefore
          rcases Runner.Works.change_cases changes with ⟨-, rfl⟩
          exact getElem?_setRunner_self found _

theorem exists_signal_of_touch {runner : Runner} {touch : Option Touch}
    (found : worker.runners[number]? = some runner)
    (touched : worker.run? (touch.map (Touch.event number)).toList = some changed) :
    ∃ signal, changed.runners[number]? = some { runner with signal } :=
  ⟨_, getElem?_of_touch found touched⟩

end Worker

namespace Agent

/-- The step of the worker in the next move of a runner at its stage. -/
def eventAt? (agent : Agent) (number : Nat) (runner : Runner) : Stage → Option Event
  | .waiting => some (if agent.worker.pool.closed then .refuse number else .grant number)
  | .admitted | .refused => some (.start number)
  | .working _ =>
    match agent.computations.find? number with
    | none => none
    | some computation =>
      match computation.outcome? with
      | some outcome => some (.finish number outcome)
      | none =>
        (computation.next? (contextOf runner.submission) runner.signal agent.world).bind
          fun move => move.touch.map (Touch.event number)
  | .ended _ => some (.commit number)
  | .reporting _ => some (.report number)
  | .leaving => some (.exit number)
  | .gone => none

/-- The step of the worker in the next move of a runner, if there is one in it. -/
def event? (agent : Agent) (number : Nat) : Option Event :=
  match agent.worker.runners[number]? with
  | some runner => agent.eventAt? number runner runner.stage
  | none => none

/-- What a move of a runner can be. -/
inductive Moved (agent : Agent) (number : Nat) (runner : Runner) : Option Event → Agent → Prop where
  /-- A step of the worker while the job of the runner does not run, nor runs after it. -/
  | served {event : Event} {worker : Worker} {after : Runner}
      (mover : event.mover? = some number) (stepped : agent.worker.step? event = some worker)
      (found : worker.runners[number]? = some after) (before : runner.isWorking = false)
      (idle : after.isWorking = false) :
      Moved agent number runner (some event) { agent with worker }
  /-- The job begins. -/
  | begun {worker : Worker} {after : Runner} {definition : Definition}
      (stepped : agent.worker.step? (.start number) = some worker)
      (found : worker.runners[number]? = some after) (works : after.stage = .working definition) :
      Moved agent number runner (some (.start number))
        { agent with
          worker
          computations := agent.computations.insert number (beginning after.submission definition) }
  /-- The job hands over how it ended. -/
  | ended {worker : Worker} {computation : Computation} {outcome : Outcome}
      (computing : agent.computations.find? number = some computation)
      (ended : computation.outcome? = some outcome)
      (stepped : agent.worker.step? (.finish number outcome) = some worker) :
      Moved agent number runner (some (.finish number outcome))
        { agent with worker, computations := agent.computations.erase number }
  /-- The job makes a step. -/
  | advanced {worker : Worker} {computation : Computation} {move : TaskAgent.Move}
      {definition : Definition} (works : runner.stage = .working definition)
      (computing : agent.computations.find? number = some computation)
      (unended : computation.outcome? = none)
      (next : computation.next? (contextOf runner.submission) runner.signal agent.world =
        some move)
      (touched : agent.worker.run? (move.touch.map (Touch.event number)).toList = some worker) :
      Moved agent number runner (move.touch.map (Touch.event number))
        { agent with
          worker
          computations := agent.computations.insert number move.computation
          world := move.world }

variable {agent moved : Agent} {number : Nat} {runner : Runner} {event : Option Event}

theorem touch?_eq_run? (worker : Worker) (number : Nat) (touch : Option Touch) :
    touch? worker number touch = worker.run? (touch.map (Touch.event number)).toList := by
  cases touch with
  | none => rfl
  | some touch =>
      cases touch with
      | enter =>
          cases entered : worker.enter? number <;>
            simp [touch?, Touch.event, Worker.run?, Worker.step?, entered]
      | leave =>
          cases left : worker.leave? number <;>
            simp [touch?, Touch.event, Worker.run?, Worker.step?, left]

theorem moved_of_withWorker? {event : Event} {worker : Option Worker}
    (found : agent.worker.runners[number]? = some runner)
    (stepped : agent.worker.step? event = worker) (mover : event.mover? = some number)
    (unstarted : event ≠ .start number) (idle : runner.isWorking = false)
    (moves : agent.withWorker? worker = some moved) :
    agent.Moved number runner (some event) moved := by
  rcases Option.map_eq_some_iff.mp moves with ⟨changed, same, rfl⟩
  have stepped := stepped.trans same
  rcases Worker.lives_of_step? stepped found with ⟨after, foundAfter, lives⟩
  exact .served mover stepped foundAfter idle (lives.isWorking_of_ne_start unstarted idle)

theorem moved_of_start? (idle : runner.isWorking = false)
    (moves : agent.start? number = some moved) :
    agent.Moved number runner (some (.start number)) moved := by
  unfold start? at moves
  split at moves
  · cases moves
  · next worker stepped =>
      split at moves
      · next after found =>
          split at moves
          · next definition works =>
              cases moves
              exact .begun stepped found works
          · next rests =>
              cases moves
              refine .served rfl stepped found idle ?_
              cases stage : after.stage with
              | working definition => exact absurd stage (rests definition)
              | _ => simp [Runner.isWorking, stage]
      · cases moves

theorem moved_of_work? {definition : Definition} (works : runner.stage = .working definition)
    (moves : agent.work? number runner = some moved) :
    agent.Moved number runner (agent.eventAt? number runner (.working definition)) moved := by
  unfold work? at moves
  split at moves
  · cases moves
  · next computation computing =>
      split at moves
      · next outcome ended =>
          rcases Option.map_eq_some_iff.mp moves with ⟨worker, stepped, rfl⟩
          simp only [eventAt?, computing, ended]
          exact .ended computing ended stepped
      · next unended =>
          unfold advance? at moves
          split at moves
          · cases moves
          · next move next =>
              rcases Option.map_eq_some_iff.mp moves with ⟨worker, touched, rfl⟩
              rw [touch?_eq_run?] at touched
              simp only [eventAt?, computing, unended, next, Option.bind_some]
              exact .advanced works computing unended next touched

/-- Every move is in the list. -/
theorem exists_of_move? (moves : agent.move? number = some moved) :
    ∃ runner, agent.worker.runners[number]? = some runner ∧
      agent.Moved number runner (agent.event? number) moved := by
  unfold move? at moves
  split at moves
  · next runner found =>
      refine ⟨runner, found, ?_⟩
      simp only [event?, found]
      cases stage : runner.stage with
      | waiting =>
          rw [stage] at moves
          have idle : runner.isWorking = false := by simp [Runner.isWorking, stage]
          cases closed : agent.worker.pool.closed with
          | true =>
              simp only [moveAt?, eventAt?, closed, if_true] at moves ⊢
              exact moved_of_withWorker? found rfl rfl (by simp) idle moves
          | false =>
              simp only [moveAt?, eventAt?, closed, Bool.false_eq_true, if_false] at moves ⊢
              exact moved_of_withWorker? found rfl rfl (by simp) idle moves
      | admitted =>
          rw [stage] at moves
          exact moved_of_start? (by simp [Runner.isWorking, stage]) moves
      | refused =>
          rw [stage] at moves
          exact moved_of_start? (by simp [Runner.isWorking, stage]) moves
      | working definition =>
          rw [stage] at moves
          exact moved_of_work? stage moves
      | ended outcome =>
          rw [stage] at moves
          exact moved_of_withWorker? found rfl rfl (by simp) (by simp [Runner.isWorking, stage])
            moves
      | reporting outcome =>
          rw [stage] at moves
          exact moved_of_withWorker? found rfl rfl (by simp) (by simp [Runner.isWorking, stage])
            moves
      | leaving =>
          rw [stage] at moves
          exact moved_of_withWorker? found rfl rfl (by simp) (by simp [Runner.isWorking, stage])
            moves
      | gone =>
          rw [stage] at moves
          cases moves
  · cases moves

namespace Moved

/-- To the worker a move is the step that goes along with it, or nothing. -/
theorem run? (moves : agent.Moved number runner event moved) :
    agent.worker.run? event.toList = some moved.worker := by
  cases moves with
  | served mover stepped found before idle =>
      rw [Option.toList_some, Worker.run?_cons_of_step? stepped]
      rfl
  | begun stepped found works =>
      rw [Option.toList_some, Worker.run?_cons_of_step? stepped]
      rfl
  | ended computing ended stepped =>
      rw [Option.toList_some, Worker.run?_cons_of_step? stepped]
      rfl
  | advanced works computing unended next touched => exact touched

theorem reporter_eq (moves : agent.Moved number runner event moved) :
    moved.reporter = agent.reporter ∧ moved.figures = agent.figures := by
  cases moves <;> exact ⟨rfl, rfl⟩

theorem mover?_eq {step : Event} (moves : agent.Moved number runner (some step) moved) :
    step.mover? = some number := by
  generalize same : some step = event at moves
  cases moves with
  | served mover stepped found before idle => exact Option.some.inj same ▸ mover
  | begun stepped found works => exact Option.some.inj same ▸ rfl
  | ended computing ended stepped => exact Option.some.inj same ▸ rfl
  | @advanced worker computation move definition works computing unended next touched =>
      cases touches : move.touch with
      | none => simp [touches] at same
      | some touch =>
          simp only [touches, Option.map_some, Option.some.injEq] at same
          exact same ▸ touch.mover?_event number

/-- What of the worker a move leaves as it is: the known jobs and the other runners. -/
theorem exists_set (moves : agent.Moved number runner event moved)
    (found : agent.worker.runners[number]? = some runner) :
    moved.worker.registry = agent.worker.registry ∧
      ∃ after, moved.worker.runners = agent.worker.runners.set number after := by
  have ran := moves.run?
  cases event with
  | none =>
      rcases List.getElem?_eq_some_iff.mp found with ⟨inside, rfl⟩
      rw [← Option.some.inj ran]
      exact ⟨rfl, _, (List.set_getElem_self inside).symm⟩
  | some event =>
      rcases Worker.exists_of_run?_cons ran with ⟨worker, stepped, same⟩
      have mover := moves.mover?_eq
      rw [← Option.some.inj same]
      exact ⟨Worker.registry_of_mover? stepped mover, Worker.exists_set_of_mover? stepped mover⟩

/-- The computations of the other runners go on from where they stand. -/
theorem find?_computations {other : Nat} (moves : agent.Moved number runner event moved)
    (differs : number ≠ other) :
    moved.computations.find? other = agent.computations.find? other := by
  cases moves with
  | served mover stepped found before idle => rfl
  | begun stepped found works => exact (Ledger.find?_insert ..).trans (if_neg differs)
  | ended computing ended stepped => exact (Ledger.find?_erase ..).trans (if_neg differs)
  | advanced works computing unended next touched =>
      exact (Ledger.find?_insert ..).trans (if_neg differs)

/-- To the worker a move is nothing or a step of the runner. -/
theorem worker_cases (moves : agent.Moved number runner event moved) :
    moved.worker = agent.worker ∨
      ∃ step, agent.worker.step? step = some moved.worker ∧ step.mover? = some number := by
  have ran := moves.run?
  cases event with
  | none => exact Or.inl (Option.some.inj ran).symm
  | some step =>
      rcases Worker.exists_of_run?_cons ran with ⟨worker, stepped, same⟩
      cases same
      exact Or.inr ⟨step, stepped, moves.mover?_eq⟩

/-- What a move makes true of its runner and leaves true of all others holds of every runner. -/
theorem forall_runners {holds : Nat → Runner → Prop}
    (moves : agent.Moved number runner event moved)
    (found : agent.worker.runners[number]? = some runner)
    (own : ∃ after, moved.worker.runners[number]? = some after ∧ holds number after)
    (others : ∀ other rival, number ≠ other → agent.worker.runners[other]? = some rival →
      holds other rival) :
    ∀ other rival, moved.worker.runners[other]? = some rival → holds other rival := by
  rcases (moves.exists_set found).2 with ⟨after, runners⟩
  intro other rival foundOther
  by_cases same : number = other
  · subst same
    rcases own with ⟨again, foundAgain, held⟩
    cases foundOther.symm.trans foundAgain
    exact held
  · rw [runners, List.getElem?_set_ne same] at foundOther
    exact others other rival same foundOther

end Moved

theorem run?_of_move? (moves : agent.move? number = some moved) :
    agent.worker.run? (agent.event? number).toList = some moved.worker := by
  rcases exists_of_move? moves with ⟨runner, -, moves⟩
  exact moves.run?

end Agent

end TaskAgent
