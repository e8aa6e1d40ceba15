import TaskAgent.Proofs.Worker.Chronicle
import TaskAgent.Proofs.Worker.Handshake
import TaskAgent.Proofs.Worker.Slots

/-!
# No task is stuck in flight

A runner is live until it has nothing left to do but to leave. Whatever its job does, it is live
as long as its end is open, because every way out of the life of a runner either reports or
follows a cancellation that has ended the task already. So a task in flight always has one live
runner behind its handle (`Worker.Carried`), and a worker without live runners has no task in
flight: each that was submitted to it has a final record (`Worker.in_flight_is_carried`).
-/

namespace TaskAgent

namespace Runner

variable {runner : Runner} {closed : Bool}

/-- Whether the runner still has to decide or to report how its task ended. -/
def isLive (runner : Runner) : Bool :=
  match runner.stage with
  | .leaving | .gone => false
  | _ => true

/-- Whether the runner is bound to report. -/
def isReporting (runner : Runner) : Bool :=
  match runner.stage with
  | .reporting _ => true
  | _ => false

/-- The runner was refused a slot and has not said so yet. -/
def IsTurnedAway (runner : Runner) : Prop :=
  runner.stage = .refused ∨ runner.stage = .ended (.error .poolClosed)

theorem IsOpen.isLive (isOpen : runner.IsOpen) : runner.isLive = true := by
  rcases runner with ⟨submission, signal, stage, slot⟩
  cases stage with
  | leaving => exact isOpen.elim
  | gone => exact isOpen.elim
  | _ => rfl

theorem IsSettled.isInterrupted (settled : runner.IsSettled) (live : runner.isLive = true) :
    runner.signal.isInterrupted = true := by
  rcases runner with ⟨submission, signal, stage, slot⟩
  cases stage <;> cases signal <;> simp_all [IsSettled, Runner.isLive, Signal.isInterrupted]

/-- A live runner waits, holds a slot, is bound to report or is being turned away. -/
theorem IsPlaced.of_isLive (placed : runner.IsPlaced closed) (live : runner.isLive = true) :
    runner.isWaiting = true ∨ runner.slot = true ∨ runner.isReporting = true ∨
      closed = true ∧ runner.IsTurnedAway := by
  rcases runner with ⟨submission, signal, stage, slot⟩
  cases stage with
  | waiting => exact Or.inl rfl
  | admitted => exact Or.inr (Or.inl placed)
  | working definition => exact Or.inr (Or.inl placed)
  | refused => exact Or.inr (Or.inr (Or.inr ⟨placed.2, Or.inl rfl⟩))
  | ended outcome =>
      rcases placed with slot | ⟨closed, rfl⟩
      · exact Or.inr (Or.inl slot)
      · exact Or.inr (Or.inr (Or.inr ⟨closed, Or.inr rfl⟩))
  | reporting outcome => exact Or.inr (Or.inr (Or.inl rfl))
  | leaving => cases live
  | gone => cases live

theorem start?_ne_none (registry : Registry)
    (ready : runner.stage = .admitted ∨ runner.stage = .refused) :
    runner.start? registry ≠ none := by
  rcases ready with stage | stage <;> cases signal : runner.signal <;>
    simp [start?, Signal.start?, stage, signal]

theorem commit?_ne_none {outcome : Outcome} (stage : runner.stage = .ended outcome) :
    runner.commit? ≠ none := by
  cases signal : runner.signal <;> simp [commit?, Signal.commit?, stage, signal]

end Runner

namespace Worker

variable {worker : Worker} {events : List Event} {key : TaskKey} {number : Nat} {runner : Runner}

/-- The task in flight under a key has this runner behind its handle; no other live runner of the
same key will ever report. -/
structure Carried (worker : Worker) (key : TaskKey) (number : Nat) (runner : Runner) : Prop where
  handle : worker.tracker.handles.find? key = some number
  found : worker.runners[number]? = some runner
  own : runner.submission.key = key
  live : runner.isLive = true
  signal : runner.signal = .queued ∨ runner.signal = .running ∨ runner.signal = .shielded ∨
    runner.signal = .reported
  place : runner.isWaiting = true ∨ runner.slot = true ∨ runner.isReporting = true ∨
    worker.pool.closed = true ∧ runner.IsTurnedAway
  alone : ∀ {other : Nat} {rival : Runner}, worker.runners[other]? = some rival →
    rival.submission.key = key → rival.isLive = true → other ≠ number →
      rival.signal.isInterrupted = true

theorem Coherent.carried (coherent : worker.Coherent) (accounted : worker.Accounted)
    (inFlight : worker.tracker.isInFlight key = true) :
    ∃ number runner, worker.Carried key number runner := by
  rcases Tracker.isInFlight_eq_true_iff.mp inFlight with ⟨record, unfinished⟩
  rcases coherent.handle_of_unfinished unfinished with ⟨-, number, handle⟩
  rcases coherent.handle_iff.mp handle with ⟨runner, found, own, isOpen⟩
  refine ⟨number, runner, handle, found, own, isOpen.isLive, isOpen.signal, ?_, ?_⟩
  · exact (accounted.placed found).of_isLive isOpen.isLive
  · intro other rival foundOther same live differs
    rcases coherent.agreed foundOther with openOther | settled
    · have handleOther := coherent.handle foundOther openOther
      rw [same, handle] at handleOther
      cases handleOther
      exact absurd rfl differs
    · exact settled.isInterrupted live

/-- No two tasks in flight have the same live runner. -/
theorem Coherent.unfinishedCount_le (coherent : worker.Coherent) :
    worker.tracker.unfinishedCount ≤ worker.runners.countP Runner.isLive := by
  rw [List.countP_eq_length_filter, ← List.length_map (·.submission.key)]
  apply Ledger.size_le_of_keys_subset
  intro key listed
  rcases Ledger.mem_keys.mp listed with ⟨record, unfinished⟩
  rcases coherent.handle_of_unfinished unfinished with ⟨-, number, handle⟩
  rcases coherent.handle_iff.mp handle with ⟨runner, found, own, isOpen⟩
  refine List.mem_map.mpr ⟨runner, ?_, own⟩
  exact List.mem_filter.mpr ⟨List.mem_of_getElem? found, isOpen.isLive⟩

/-- No runner can move without being given a slot and without its job coming to an end. -/
def AtRest (worker : Worker) : Prop :=
  ∀ number, worker.refuse? number = none ∧ worker.start? number = none ∧
    worker.commit? number = none ∧ worker.report? number = none ∧ worker.exit? number = none

theorem AtRest.isLive_eq_false (rest : worker.AtRest) (accounted : worker.Accounted)
    (inactive : worker.pool.active = 0) (unqueued : worker.pool.queued = 0)
    (found : worker.runners[number]? = some runner) : runner.isLive = false := by
  have member := List.mem_of_getElem? found
  rw [accounted.active_eq, List.countP_eq_zero] at inactive
  rw [accounted.queued_eq, List.countP_eq_zero] at unqueued
  have placed := accounted.placed found
  rcases rest number with ⟨-, unstarted, uncommitted, unreported, -⟩
  simp only [start?, commit?, changeRunner?, found, Option.map_eq_none_iff]
    at unstarted uncommitted
  cases stage : runner.stage with
  | waiting => exact absurd (by simp [Runner.isWaiting, stage]) (unqueued runner member)
  | admitted => exact absurd unstarted (Runner.start?_ne_none _ (Or.inl stage))
  | refused => exact absurd unstarted (Runner.start?_ne_none _ (Or.inr stage))
  | working definition =>
      simp only [Runner.IsPlaced, stage] at placed
      exact absurd placed (inactive runner member)
  | ended outcome => exact absurd uncommitted (Runner.commit?_ne_none stage)
  | reporting outcome => simp [report?, found, stage] at unreported
  | leaving => simp [Runner.isLive, stage]
  | gone => simp [Runner.isLive, stage]

/-- Every task in flight has exactly one live runner that can still end it. Where no runner is
live, nothing is in flight and every task that was submitted has ended. -/
theorem in_flight_is_carried {size : Nat} {registry : Registry} {address : Address}
    (ran : (make (.ofSize size) registry address).run? events = some worker)
    (own : ∀ event ∈ events, event.isDeclaration = false) :
    (∀ key, worker.tracker.isInFlight key = true →
      ∃ number runner, worker.Carried key number runner) ∧
    worker.tracker.unfinishedCount ≤ worker.runners.countP Runner.isLive ∧
    (worker.AtRest → worker.pool.active = 0 → worker.pool.queued = 0 →
      worker.runners.countP Runner.isLive = 0) ∧
    (worker.runners.countP Runner.isLive = 0 →
      worker.tracker.unfinished = ∅ ∧
      ∀ submission, Event.submit submission ∈ events →
        ∃ record, ((make (.ofSize size) registry address).chronicle events).newest?
            submission.key = some record ∧
          record.status.isFinal = true) := by
  have coherent := coherent_of_run? ran own (coherent_make (.ofSize size) registry address)
  have accounted := accounted_of_run? ran (accounted_make size registry address)
  have keyed : (make (.ofSize size) registry address).tracker.Keyed :=
    Tracker.keyed_ofAddress address
  have initially := Chronicle.covers_make (.ofSize size) registry address
  have covers := covers_of_run? ran keyed initially
  refine ⟨?_, coherent.unfinishedCount_le, ?_, ?_⟩
  · intro key inFlight
    exact coherent.carried accounted inFlight
  · intro rest inactive unqueued
    rw [List.countP_eq_zero]
    intro runner member live
    rcases List.getElem?_of_mem member with ⟨number, found⟩
    rw [rest.isLive_eq_false accounted inactive unqueued found] at live
    cases live
  · intro dead
    have none := coherent.unfinishedCount_le
    rw [dead, Nat.le_zero] at none
    have unfinished : worker.tracker.unfinished = ∅ := Ledger.eq_empty_of_size_eq_zero none
    refine ⟨unfinished, ?_⟩
    intro submission submitted
    rcases newest?_of_submit ran keyed initially submitted with ⟨record, newest⟩
    exact ⟨record, newest, covers.ended (by rw [unfinished]; rfl) newest⟩

/-- A task waits, is called off and submitted again, and both of its runners are turned away from
the pool, which was closed in the meantime. -/
def rejection : List Event :=
  let task : Submission := ⟨⟨1, 2⟩, ⟨"job"⟩, .null, "scratch"⟩
  [.submit task, .cancel task.key, .submit task, .close, .refuse 0, .refuse 1, .start 0, .start 1,
    .commit 1, .report 1, .exit 1, .exit 0]

theorem in_flight_is_carried_rejection :
    ∃ worker, (make (.ofSize 1) .empty ⟨"host", 1, 2⟩).run? rejection = some worker ∧
      worker.tracker.unfinished = ∅ ∧
      ∃ record, ((make (.ofSize 1) .empty ⟨"host", 1, 2⟩).chronicle rejection).newest? ⟨1, 2⟩ =
          some record ∧
        record.status.isFinal = true := by
  refine ⟨_, rfl, ?_⟩
  have own : ∀ event ∈ rejection, event.isDeclaration = false := by decide
  have ran : (make (.ofSize 1) .empty ⟨"host", 1, 2⟩).run? rejection = some _ := rfl
  rcases (in_flight_is_carried ran own).2.2.2 rfl with ⟨empty, ended⟩
  exact ⟨empty, ended ⟨⟨1, 2⟩, ⟨"job"⟩, .null, "scratch"⟩ List.mem_cons_self⟩

end Worker

end TaskAgent
