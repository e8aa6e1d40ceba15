import TaskAgent.Worker.Event

/-!
# Steps, read backwards

A step that gives a worker tells by that what the worker and its runner were like before and what
has become of them. Each function of a step that can fail is read backwards once, here.
-/

namespace TaskAgent

theorem Runner.isWaiting_eq_true_iff {runner : Runner} :
    runner.isWaiting = true ↔ runner.stage = .waiting := by
  cases stage : runner.stage <;> simp [isWaiting, stage]

namespace Worker

variable {worker changed : Worker} {number : Nat} {key : TaskKey}

theorem exists_of_complete {result : Json}
    (stepped : worker.step? (.complete key result) = some changed) :
    ∃ tracker, changed = { worker with tracker } := by
  simp only [step?, complete] at stepped
  cases after : worker.tracker.complete key result <;> simp [after, Except.map] at stepped
  · exact ⟨worker.tracker, stepped.symm⟩
  · exact ⟨_, stepped.symm⟩

theorem exists_of_fail {message : String}
    (stepped : worker.step? (.fail key message) = some changed) :
    ∃ tracker, changed = { worker with tracker } := by
  simp only [step?, fail] at stepped
  cases after : worker.tracker.fail key message <;> simp [after, Except.map] at stepped
  · exact ⟨worker.tracker, stepped.symm⟩
  · exact ⟨_, stepped.symm⟩

theorem exists_of_changeRunner? {change : Runner → Option Runner}
    (stepped : worker.changeRunner? number change = some changed) :
    ∃ runner moved, worker.runners[number]? = some runner ∧ change runner = some moved ∧
      changed = worker.setRunner number moved := by
  unfold changeRunner? at stepped
  split at stepped
  · next runner found =>
      rcases Option.map_eq_some_iff.mp stepped with ⟨moved, moves, rfl⟩
      exact ⟨runner, moved, found, moves, rfl⟩
  · cases stepped

theorem exists_of_grant? (stepped : worker.grant? number = some changed) :
    ∃ runner, worker.runners[number]? = some runner ∧ runner.stage = .waiting ∧
      worker.pool.closed = false ∧ 0 < worker.pool.available ∧
        changed = { worker.setRunner number { runner with stage := .admitted, slot := true } with
          pool := worker.pool.grant } := by
  unfold grant? at stepped
  split at stepped
  · next runner found =>
      split at stepped
      · next allowed =>
          simp only [Bool.and_eq_true, Bool.not_eq_true', decide_eq_true_eq,
            Runner.isWaiting_eq_true_iff] at allowed
          rcases allowed with ⟨⟨waits, unclosed⟩, free⟩
          cases stepped
          exact ⟨runner, found, waits, unclosed, free, rfl⟩
      · cases stepped
  · cases stepped

theorem exists_of_refuse? (stepped : worker.refuse? number = some changed) :
    ∃ runner, worker.runners[number]? = some runner ∧ runner.stage = .waiting ∧
      worker.pool.closed = true ∧
        changed = { worker.setRunner number { runner with stage := .refused } with
          pool := worker.pool.refuse } := by
  unfold refuse? at stepped
  split at stepped
  · next runner found =>
      split at stepped
      · next allowed =>
          simp only [Bool.and_eq_true, Runner.isWaiting_eq_true_iff] at allowed
          rcases allowed with ⟨waits, closed⟩
          cases stepped
          exact ⟨runner, found, waits, closed, rfl⟩
      · cases stepped
  · cases stepped

theorem exists_of_report? (stepped : worker.report? number = some changed) :
    ∃ runner outcome, worker.runners[number]? = some runner ∧
      runner.stage = .reporting outcome ∧
        changed = { worker.setRunner number { runner with stage := .leaving } with
          tracker := reported worker.tracker runner.submission.key outcome } := by
  unfold report? at stepped
  split at stepped
  · next runner found =>
      split at stepped
      · next outcome stage =>
          cases stepped
          exact ⟨runner, outcome, found, stage, rfl⟩
      · cases stepped
  · cases stepped

theorem exists_of_exit? (stepped : worker.exit? number = some changed) :
    ∃ runner, worker.runners[number]? = some runner ∧ runner.stage = .leaving ∧
      changed = { worker.setRunner number { runner with stage := .gone, slot := false } with
        pool := if runner.slot then worker.pool.release else worker.pool } := by
  unfold exit? at stepped
  split at stepped
  · next runner found =>
      split at stepped
      · next stage =>
          cases stepped
          exact ⟨runner, found, stage, rfl⟩
      · cases stepped
  · cases stepped

end Worker

end TaskAgent
