import TaskAgent.Proofs.Agent.Rest
import TaskAgent.Proofs.Worker.Closing

/-!
# What a runner carries

As long as the pool is open a runner carries a computation while its job runs, and after it the
outcome until it is reported. If every step of the computation keeps it of one kind, and whoever
ends like this does so with an outcome of one kind, then all that the runner carries is of these
kinds (`Agent.Carries`), whatever the other runners do (`Agent.Moved.carries`).

A runner that carries something and cannot move waits for a slot or is stuck in its job
(`Agent.Carries.of_move?_eq_none`).
-/

namespace TaskAgent.Agent

variable {agent changed : Agent} {doing : Computation → Prop} {ending : Outcome → Prop}
  {number : Nat} {runner : Runner}

/-- The runner was not turned away, its job is doing something of a kind, and its task ends in a
way of a kind. -/
def Carries (agent : Agent) (doing : Computation → Prop) (ending : Outcome → Prop) (number : Nat)
    (runner : Runner) : Prop :=
  match runner.stage with
  | .waiting | .admitted | .leaving | .gone => True
  | .refused => False
  | .working _ => ∃ computation, agent.computations.find? number = some computation ∧
      doing computation
  | .ended outcome | .reporting outcome => ending outcome

/-- What a task begins with is of the kinds. -/
structure Begins (registry : Registry) (doing : Computation → Prop) (ending : Outcome → Prop)
    (submission : Submission) : Prop where
  known : ∀ {definition}, registry.find? submission.config.name = some definition →
    doing (beginning submission definition)
  unknown : registry.find? submission.config.name = none →
    ending (.error (.unknownJob submission.config.name))

theorem Carries.congr {after : Runner} (carries : agent.Carries doing ending number runner)
    (computations : changed.computations.find? number = agent.computations.find? number)
    (stage : after.stage = runner.stage) : changed.Carries doing ending number after := by
  unfold Carries at carries ⊢
  rw [stage, computations]
  exact carries

theorem carries_ofSubmission (submission : Submission) :
    agent.Carries doing ending number (.ofSubmission submission) := trivial

/-- A step that serves a runner whose job does not run. -/
theorem Carries.served {registry : Registry} {event : Event} {after : Runner}
    (carries : agent.Carries doing ending number runner)
    (begins : Begins registry doing ending runner.submission)
    (lives : Runner.Lives registry number event runner after) (mover : event.mover? = some number)
    (unrefused : event ≠ .refuse number) (before : runner.isWorking = false)
    (idle : after.isWorking = false) : changed.Carries doing ending number after := by
  unfold Carries at carries
  cases lives with
  | untouched alien => exact absurd mover alien
  | interrupted => cases mover
  | granted waits => trivial
  | refused waits => exact absurd rfl unrefused
  | started stepped =>
      rcases Runner.Works.start_cases stepped with
        ⟨-, -, rfl⟩ | ⟨stage, -, rfl⟩ | ⟨-, -, rfl⟩
      · cases known : registry.find? runner.submission.config.name with
        | none => simpa [Carries, Runner.beginning, known] using begins.unknown known
        | some definition => simp [Runner.beginning, known, Runner.isWorking] at idle
      · simp [stage] at carries
      · trivial
  | entered stepped =>
      rcases (Runner.Works.change_cases stepped).1 with ⟨definition, stage⟩
      simp [Runner.isWorking, stage] at before
  | left stepped =>
      rcases (Runner.Works.change_cases stepped).1 with ⟨definition, stage⟩
      simp [Runner.isWorking, stage] at before
  | finished stepped =>
      rcases (Runner.Works.finish_cases stepped).1 with ⟨definition, stage⟩
      simp [Runner.isWorking, stage] at before
  | committed stepped =>
      rcases Runner.Works.commit_cases stepped with ⟨outcome, stage, ⟨-, rfl⟩ | ⟨-, -, rfl⟩⟩
      · simpa [Carries, stage] using carries
      · trivial
  | reported stage => trivial
  | gone stage => trivial

/-- The runner's own move. -/
theorem Moved.carries {step : Option Event} (moves : agent.Moved number runner step changed)
    (found : agent.worker.runners[number]? = some runner)
    (carries : agent.Carries doing ending number runner)
    (begins : Begins agent.worker.registry doing ending runner.submission)
    (goesOn : ∀ {computation move}, doing computation →
      computation.next? (contextOf runner.submission) runner.signal agent.world = some move →
        doing move.computation)
    (ends : ∀ {computation outcome}, doing computation → computation.outcome? = some outcome →
      ending outcome)
    (unclosed : changed.worker.pool.closed = false) :
    ∃ after, changed.worker.runners[number]? = some after ∧
      changed.Carries doing ending number after := by
  cases moves with
  | @served event worker after mover stepped foundAfter before idle =>
      rcases Worker.lives_of_step? stepped found with ⟨same, foundSame, lives⟩
      cases foundAfter.symm.trans foundSame
      have unrefused : event ≠ .refuse number := by
        rintro rfl
        rcases Worker.exists_of_refuse? stepped with ⟨-, -, -, closed, -⟩
        rw [Worker.unclosed_of_step? stepped unclosed] at closed
        cases closed
      exact ⟨after, foundAfter, carries.served begins lives mover unrefused before idle⟩
  | @begun worker after definition stepped foundAfter works =>
      rcases Worker.exists_of_changeRunner? stepped with ⟨before, after, foundBefore, starts, rfl⟩
      cases found.symm.trans foundBefore
      cases (Worker.getElem?_setRunner_self found after).symm.trans foundAfter
      refine ⟨_, foundAfter, ?_⟩
      rcases Runner.Works.start_cases starts with ⟨-, -, rfl⟩ | ⟨-, -, rfl⟩ | ⟨-, -, rfl⟩
      · have first : Runner.beginning agent.worker.registry runner.submission.config =
            .working definition := works
        simp only [Carries, first]
        exact ⟨_, (Ledger.find?_insert ..).trans (if_pos rfl),
          begins.known (find?_of_beginning works)⟩
      · cases works
      · cases works
  | ended computing ended stepped =>
      rcases Worker.exists_of_changeRunner? stepped with ⟨before, after, foundBefore, finishes, rfl⟩
      cases found.symm.trans foundBefore
      refine ⟨after, Worker.getElem?_setRunner_self found after, ?_⟩
      rcases Runner.Works.finish_cases finishes with ⟨⟨definition, stage⟩, rfl⟩
      simp only [Carries, stage] at carries
      rcases carries with ⟨computation, computed, does⟩
      cases computing.symm.trans computed
      exact ends does ended
  | @advanced worker computation move definition works computing unended next touched =>
      rcases Worker.exists_signal_of_touch found touched with ⟨signal, foundAfter⟩
      refine ⟨_, foundAfter, ?_⟩
      simp only [Carries, works] at carries ⊢
      rcases carries with ⟨same, computed, does⟩
      cases computing.symm.trans computed
      exact ⟨move.computation, (Ledger.find?_insert ..).trans (if_pos rfl), goesOn does next⟩

/-- The runner of a task whose end is open can move, unless it waits and no slot is free or its job
is stuck. -/
theorem Carries.of_move?_eq_none (carries : agent.Carries doing ending number runner)
    (found : agent.worker.runners[number]? = some runner) (isOpen : runner.IsOpen)
    (unclosed : agent.worker.pool.closed = false) (still : agent.move? number = none) :
    (runner.isWaiting = true ∧ agent.worker.pool.available = 0) ∨
      runner.isWorking = true ∧ ∃ computation, agent.computations.find? number = some computation ∧
        doing computation ∧ computation.outcome? = none ∧
          computation.next? (contextOf runner.submission) runner.signal agent.world = none := by
  have unmoved := still
  simp only [move?, found] at still
  cases stage : runner.stage with
  | waiting =>
      have waits : runner.isWaiting = true := by simp [Runner.isWaiting, stage]
      refine Or.inl ⟨waits, ?_⟩
      simpa [stage, moveAt?, withWorker?, Worker.grant?, found, waits, unclosed] using still
  | admitted =>
      rw [stage] at still
      exact absurd still (start?_ne_none found (Or.inl stage))
  | refused => simp [Carries, stage] at carries
  | working definition =>
      simp only [Carries, stage] at carries
      rcases carries with ⟨computation, computing, does⟩
      have works : runner.isWorking = true := by simp [Runner.isWorking, stage]
      exact Or.inr ⟨works, computation, computing, does,
        held_of_move?_eq_none found stage computing unmoved⟩
  | ended outcome =>
      simp only [stage, moveAt?, withWorker?, Worker.commit?, Worker.changeRunner?, found,
        Option.map_eq_none_iff] at still
      exact absurd still (Runner.commit?_ne_none stage)
  | reporting outcome => simp [stage, moveAt?, withWorker?, Worker.report?, found] at still
  | leaving => simp [Runner.IsOpen, stage] at isOpen
  | gone => simp [Runner.IsOpen, stage] at isOpen

end TaskAgent.Agent
