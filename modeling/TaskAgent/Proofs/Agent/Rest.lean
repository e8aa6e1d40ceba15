import TaskAgent.Agent.Service
import TaskAgent.Proofs.Agent.Passage
import TaskAgent.Proofs.Worker.InFlight

/-!
# What an agent is like at rest

The agent keeps a computation for exactly those runners whose job runs (`Agent.Staffed`). So when
it has settled, whoever holds a slot does its job and is held up in it, by a closed gate or in a
long rest (`Agent.IsSettled.isHeldUp`), and whoever waits does so because no slot is free
(`Agent.IsSettled.available_eq_zero`).
-/

namespace TaskAgent

namespace Worker

variable {worker changed : Worker} {event : Event} {number : Nat}

/-- Whether the job of the runner in a place runs. -/
def works (worker : Worker) (number : Nat) : Bool :=
  worker.runners[number]?.any Runner.isWorking

theorem works_of_found {runner : Runner} (found : worker.runners[number]? = some runner) :
    worker.works number = runner.isWorking := by
  simp [works, found]

/-- No job begins or ends by what is asked from outside. -/
theorem works_of_outside (stepped : worker.step? event = some changed)
    (outside : event.mover? = none) (number : Nat) :
    changed.works number = worker.works number := by
  cases found : worker.runners[number]? with
  | none =>
      have before : worker.works number = false := by simp [works, found]
      cases foundAfter : changed.runners[number]? with
      | none => simp [works, found, foundAfter]
      | some runner =>
          rcases ofSubmission_of_step? stepped found foundAfter with ⟨-, submission, rfl⟩
          rw [works_of_found foundAfter, before]
          rfl
  | some runner =>
      rcases lives_of_step? stepped found with ⟨after, foundAfter, lives⟩
      rw [works_of_found found, works_of_found foundAfter]
      have alien : event.mover? ≠ some number := by simp [outside]
      cases lives with
      | untouched => rfl
      | interrupted => rfl
      | _ => exact absurd rfl alien

end Worker

namespace Agent

variable {agent changed : Agent} {events : List Event} {number : Nat} {runner : Runner}

/-- The computations are those of the runners whose job runs. -/
def Staffed (agent : Agent) : Prop :=
  ∀ number, agent.computations.contains number = agent.worker.works number

theorem staffed_make (pool : Pool) (registry : Registry) (address : Address)
    (figures : MachineFigures) (files : FileTree) :
    (make pool registry address figures files).Staffed := by
  intro number
  rfl

theorem contains_insert (computations : Ledger Nat Computation) (number : Nat)
    (computation : Computation) :
    (computations.insert number computation).contains number = true := by
  simp [Ledger.contains, Ledger.find?_insert]

theorem Moved.staffed {event : Option Event} (moves : agent.Moved number runner event changed)
    (found : agent.worker.runners[number]? = some runner) (staffed : agent.Staffed) :
    changed.Staffed := by
  intro other
  by_cases same : number = other
  · subst same
    have here := staffed number
    cases moves with
    | served mover stepped foundAfter before idle =>
        rw [Worker.works_of_found found, before] at here
        rw [Worker.works_of_found foundAfter, idle]
        exact here
    | begun stepped foundAfter works =>
        rw [Worker.works_of_found foundAfter, contains_insert]
        simp [Runner.isWorking, works]
    | ended computing ended stepped =>
        rcases Worker.exists_of_changeRunner? stepped with
          ⟨before, after, foundBefore, ends, rfl⟩
        rcases Runner.Works.finish_cases ends with ⟨-, rfl⟩
        rw [Worker.works_of_found (Worker.getElem?_setRunner_self foundBefore _)]
        simp [Ledger.contains, Ledger.find?_erase, Runner.isWorking]
    | advanced works computing unended next touched =>
        rcases Worker.exists_signal_of_touch found touched with ⟨signal, foundAfter⟩
        rw [Worker.works_of_found foundAfter, contains_insert]
        simp [Runner.isWorking, works]
  · rcases (moves.exists_set found).2 with ⟨after, runners⟩
    have here := staffed other
    rw [Worker.works, runners, List.getElem?_set_ne same]
    rw [Ledger.contains, moves.find?_computations same]
    exact here

theorem Occurs.staffed (occurs : agent.Occurs events changed) (staffed : agent.Staffed) :
    changed.Staffed := by
  cases occurs with
  | asked outside stepped =>
      intro number
      exact (staffed number).trans (Worker.works_of_outside stepped outside number).symm
  | elsewhere world => exact staffed
  | moved moves =>
      rcases exists_of_move? moves with ⟨runner, found, moves⟩
      exact moves.staffed found staffed

theorem Passage.staffed (passage : agent.Passage events changed) (staffed : agent.Staffed) :
    changed.Staffed := by
  induction passage with
  | rest => exact staffed
  | next passage occurs ih => exact occurs.staffed ih

theorem Staffed.exists_computation (staffed : agent.Staffed)
    (found : agent.worker.runners[number]? = some runner) (works : runner.isWorking = true) :
    ∃ computation, agent.computations.find? number = some computation := by
  have here := staffed number
  rw [Worker.works_of_found found, works, Ledger.contains] at here
  exact Option.isSome_iff_exists.mp here

theorem Staffed.exists_runner (staffed : agent.Staffed) {computation : Computation}
    (computing : agent.computations.find? number = some computation) :
    ∃ runner definition, agent.worker.runners[number]? = some runner ∧
      runner.stage = .working definition := by
  have here := staffed number
  cases found : agent.worker.runners[number]? with
  | none => simp [Ledger.contains, computing, Worker.works, found] at here
  | some runner =>
      rw [Worker.works_of_found found, Ledger.contains, computing] at here
      cases stage : runner.stage with
      | working definition => exact ⟨runner, definition, rfl, stage⟩
      | _ => simp [Runner.isWorking, stage] at here

theorem start?_ne_none (found : agent.worker.runners[number]? = some runner)
    (ready : runner.stage = .admitted ∨ runner.stage = .refused) : agent.start? number ≠ none := by
  intro still
  unfold start? at still
  split at still
  · next unstarted =>
      simp only [Worker.start?, Worker.changeRunner?, found, Option.map_eq_none_iff] at unstarted
      exact Runner.start?_ne_none _ ready unstarted
  · next worker stepped =>
      rcases Worker.exists_of_changeRunner? stepped with ⟨before, after, foundBefore, -, rfl⟩
      rw [Worker.getElem?_setRunner_self foundBefore] at still
      simp only at still
      split at still <;> cases still

/-- A computation that can make a step or has ended lets its runner move. -/
theorem held_of_move?_eq_none {definition : Definition} {computation : Computation}
    (found : agent.worker.runners[number]? = some runner)
    (stage : runner.stage = .working definition)
    (computing : agent.computations.find? number = some computation)
    (still : agent.move? number = none) :
    computation.outcome? = none ∧
      computation.next? (contextOf runner.submission) runner.signal agent.world = none := by
  simp only [move?, found, moveAt?, stage, work?, computing] at still
  split at still
  · next outcome ended =>
      simp [Worker.finish?, Worker.changeRunner?, found, Runner.finish?, stage] at still
  · next unended =>
      refine ⟨unended, ?_⟩
      unfold advance? at still
      split at still
      · next stuck => exact stuck
      · next move next =>
          cases touches : move.touch with
          | none => simp [touches, touch?] at still
          | some touch =>
              cases touch <;>
                simp [touches, touch?, Worker.enter?, Worker.leave?, Worker.changeRunner?, found,
                  Runner.change?, stage] at still

namespace IsSettled

theorem firstMove?_eq_none (settled : agent.IsSettled) : agent.firstMove? = none := by
  unfold IsSettled step? at settled
  split at settled
  · cases settled
  · next still => exact still

theorem move?_eq_none (settled : agent.IsSettled) (number : Nat) : agent.move? number = none :=
  move?_eq_none_of_firstMove? settled.firstMove?_eq_none number

/-- Whoever waits does so in an open pool without a free slot. -/
theorem of_waiting (settled : agent.IsSettled)
    (found : agent.worker.runners[number]? = some runner) (waits : runner.stage = .waiting) :
    agent.worker.pool.closed = false ∧ agent.worker.pool.available = 0 := by
  have still := settled.move?_eq_none number
  have waiting : runner.isWaiting = true := Runner.isWaiting_eq_true_iff.mpr waits
  cases closed : agent.worker.pool.closed with
  | true =>
      simp [move?, found, moveAt?, waits, withWorker?, Worker.refuse?, waiting, closed] at still
  | false =>
      simpa [move?, found, moveAt?, waits, withWorker?, Worker.grant?, waiting, closed] using still

/-- Whoever holds a slot does its job. -/
theorem isWorking (settled : agent.IsSettled) (accounted : agent.worker.Accounted)
    (found : agent.worker.runners[number]? = some runner) (slot : runner.slot = true) :
    runner.isWorking = true := by
  have still := settled.move?_eq_none number
  have placed := accounted.placed found
  simp only [move?, found] at still
  cases stage : runner.stage with
  | waiting => simp [Runner.IsPlaced, stage, slot] at placed
  | admitted =>
      rw [stage] at still
      exact absurd still (start?_ne_none found (Or.inl stage))
  | refused => simp [Runner.IsPlaced, stage, slot] at placed
  | working definition => simp [Runner.isWorking, stage]
  | ended outcome =>
      simp only [stage, moveAt?, withWorker?, Worker.commit?, Worker.changeRunner?, found,
        Option.map_eq_none_iff] at still
      exact absurd still (Runner.commit?_ne_none stage)
  | reporting outcome =>
      simp [stage, moveAt?, withWorker?, Worker.report?, found] at still
  | leaving => simp [stage, moveAt?, withWorker?, Worker.exit?, found] at still
  | gone => simp [Runner.IsPlaced, stage, slot] at placed

/-- Nobody rests whose rest is waited for. -/
theorem wakeTime?_eq_none (settled : agent.IsSettled) (staffed : agent.Staffed) :
    agent.wakeTime? false = none := by
  cases wakes : agent.wakeTime? false with
  | none => rfl
  | some time =>
      -- whoever rests until then could move then
      rcases List.mem_filterMap.mp (List.min?_mem wakes) with ⟨computation, member, rests⟩
      rcases Ledger.mem_values.mp member with ⟨number, computing⟩
      rcases staffed.exists_runner computing with ⟨runner, definition, found, stage⟩
      have still : (agent.atTime time).firstMove? = none := by
        have still := settled.firstMove?_eq_none
        unfold IsSettled step? at settled
        rw [still, wakes] at settled
        exact settled
      have unmoved := move?_eq_none_of_firstMove? still number
      have found : (agent.atTime time).worker.runners[number]? = some runner := found
      have stuck := held_of_move?_eq_none found stage computing unmoved
      exact absurd stuck.2 (Computation.next?_ne_none_of_wakeTime? rests (Nat.le_refl _))

/-- Whoever does its job is held up in it, and not by a short rest. -/
theorem isHeldUp (settled : agent.IsSettled) (staffed : agent.Staffed)
    (found : agent.worker.runners[number]? = some runner) (works : runner.isWorking = true) :
    ∃ computation, agent.computations.find? number = some computation ∧
      computation.IsHeldUp agent.world ∧ computation.wakeTime? false = none := by
  rcases staffed.exists_computation found works with ⟨computation, computing⟩
  rcases staffed.exists_runner computing with ⟨same, definition, foundAgain, stage⟩
  cases found.symm.trans foundAgain
  rcases held_of_move?_eq_none found stage computing (settled.move?_eq_none number) with
    ⟨unended, stuck⟩
  refine ⟨computation, computing, Computation.isHeldUp_of_next? unended stuck, ?_⟩
  have unawaited := settled.wakeTime?_eq_none staffed
  rw [wakeTime?, List.min?_eq_none_iff, List.filterMap_eq_nil_iff] at unawaited
  exact unawaited computation (Ledger.mem_values.mpr ⟨number, computing⟩)

end IsSettled

end Agent

end TaskAgent
