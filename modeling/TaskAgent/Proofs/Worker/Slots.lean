import TaskAgent.Proofs.Worker.Change

/-!
# Where runners stand

The counts of a pool are counts of runners: those that wait, and those that hold a slot
(`Worker.Accounted`). A runner holds its slot from the moment it is given one until it leaves; a
runner without a slot that does not wait any more was turned away from a closed pool.

This holds of every event, also of reports from outside, because the records of the tracker have
no part in it.
-/

namespace TaskAgent

namespace Runner

variable {registry : Registry} {runner moved : Runner} {closed : Bool}

/-- A runner holds a slot, or it was turned away, as is proper at its stage. -/
def IsPlaced (closed : Bool) (runner : Runner) : Prop :=
  match runner.stage with
  | .waiting | .gone => runner.slot = false
  | .admitted | .working _ => runner.slot = true
  | .refused => runner.slot = false ∧ closed = true
  | .ended outcome | .reporting outcome =>
    runner.slot = true ∨ closed = true ∧ outcome = .error .poolClosed
  | .leaving => runner.slot = true ∨ closed = true

theorem IsPlaced.close (placed : runner.IsPlaced closed) : runner.IsPlaced true := by
  rcases runner with ⟨submission, signal, stage, slot⟩
  cases stage with
  | refused => exact ⟨placed.1, rfl⟩
  | ended outcome => exact placed.imp_right fun turnedAway => ⟨rfl, turnedAway.2⟩
  | reporting outcome => exact placed.imp_right fun turnedAway => ⟨rfl, turnedAway.2⟩
  | leaving => exact Or.inr rfl
  | _ => exact placed

namespace Works

theorem isWaiting_eq_false (works : runner.Works registry moved) :
    runner.isWaiting = false ∧ moved.isWaiting = false := by
  cases works with
  | start stepped =>
      rcases start_cases stepped with ⟨stage, -, rfl⟩ | ⟨stage, -, rfl⟩ | ⟨stage | stage, -, rfl⟩
      · unfold beginning
        split <;> simp [isWaiting, stage]
      · simp [isWaiting, stage]
      · simp [isWaiting, stage]
      · simp [isWaiting, stage]
  | enter stepped =>
      rcases change_cases stepped with ⟨⟨definition, stage⟩, rfl⟩
      simp [isWaiting, stage]
  | leave stepped =>
      rcases change_cases stepped with ⟨⟨definition, stage⟩, rfl⟩
      simp [isWaiting, stage]
  | finish outcome stepped =>
      rcases finish_cases stepped with ⟨⟨definition, stage⟩, rfl⟩
      simp [isWaiting, stage]
  | commit stepped =>
      rcases commit_cases stepped with ⟨outcome, stage, ⟨-, rfl⟩ | ⟨-, -, rfl⟩⟩
      · simp [isWaiting, stage]
      · simp [isWaiting, stage]

theorem isPlaced (works : runner.Works registry moved) (placed : runner.IsPlaced closed) :
    moved.IsPlaced closed := by
  cases works with
  | start stepped =>
      rcases start_cases stepped with ⟨stage, -, rfl⟩ | ⟨stage, -, rfl⟩ | ⟨stage | stage, -, rfl⟩
      · have slot : runner.slot = true := by simpa [IsPlaced, stage] using placed
        unfold beginning
        split <;> simp [IsPlaced, slot]
      · simp only [IsPlaced, stage] at placed
        simp [IsPlaced, placed.2]
      · simp only [IsPlaced, stage] at placed
        simp [IsPlaced, placed]
      · simp only [IsPlaced, stage] at placed
        simp [IsPlaced, placed.2]
  | enter stepped =>
      rcases change_cases stepped with ⟨⟨definition, stage⟩, rfl⟩
      simpa [IsPlaced, stage] using placed
  | leave stepped =>
      rcases change_cases stepped with ⟨⟨definition, stage⟩, rfl⟩
      simpa [IsPlaced, stage] using placed
  | finish outcome stepped =>
      rcases finish_cases stepped with ⟨⟨definition, stage⟩, rfl⟩
      have slot : runner.slot = true := by simpa [IsPlaced, stage] using placed
      simp [IsPlaced, slot]
  | commit stepped =>
      rcases commit_cases stepped with ⟨outcome, stage, ⟨-, rfl⟩ | ⟨-, -, rfl⟩⟩
      · simpa [IsPlaced, stage] using placed
      · simp only [IsPlaced, stage] at placed
        exact placed.imp_right And.left

end Works

end Runner

namespace Worker

variable {worker changed : Worker} {event : Event} {number : Nat} {runner moved : Runner}

theorem countP_setRunner (found : worker.runners[number]? = some runner) (moved : Runner)
    (p : Runner → Bool) :
    (worker.setRunner number moved).runners.countP p + (p runner).toNat =
      worker.runners.countP p + (p moved).toNat := by
  rcases List.getElem?_eq_some_iff.mp found with ⟨inside, rfl⟩
  have counted := List.boole_getElem_le_countP (p := p) inside
  rw [setRunner, List.countP_set inside]
  generalize p worker.runners[number] = before at counted ⊢
  cases before <;> cases p moved <;>
    simp only [Bool.toNat_true, Bool.toNat_false, if_true, Bool.false_eq_true, if_false]
      at counted ⊢ <;>
    omega

/-- The pool counts the runners that wait and those that hold a slot. -/
structure Accounted (worker : Worker) : Prop where
  queued_eq : worker.pool.queued = worker.runners.countP Runner.isWaiting
  slots_eq : worker.pool.available + worker.runners.countP Runner.slot = worker.pool.size
  placed : ∀ {number : Nat} {runner : Runner}, worker.runners[number]? = some runner →
    runner.IsPlaced worker.pool.closed

theorem accounted_make (size : Nat) (registry : Registry) (address : Address) :
    (make (.ofSize size) registry address).Accounted := by
  constructor
  · rfl
  · rfl
  · intro number runner found
    simp [make] at found

namespace Accounted

theorem active_eq (accounted : worker.Accounted) :
    worker.pool.active = worker.runners.countP Runner.slot := by
  have slots := accounted.slots_eq
  unfold Pool.active
  omega

theorem queued_pos (accounted : worker.Accounted) (found : worker.runners[number]? = some runner)
    (waits : runner.stage = .waiting) : 0 < worker.pool.queued := by
  rw [accounted.queued_eq, List.countP_pos_iff]
  exact ⟨runner, List.mem_of_getElem? found, by simp [Runner.isWaiting, waits]⟩

theorem congr (accounted : worker.Accounted) (runners : changed.runners = worker.runners)
    (pool : changed.pool = worker.pool) : changed.Accounted := by
  constructor
  · rw [runners, pool]
    exact accounted.queued_eq
  · rw [runners, pool]
    exact accounted.slots_eq
  · rw [runners, pool]
    exact accounted.placed

theorem close (accounted : worker.Accounted) : worker.close.Accounted := by
  constructor
  · exact accounted.queued_eq
  · exact accounted.slots_eq
  · intro number runner found
    exact (accounted.placed found).close

theorem accept (accounted : worker.Accounted) (submission : Submission) (tracker : Tracker) :
    ({ worker with
      pool := worker.pool.enqueue
      tracker
      runners := worker.runners ++ [.ofSubmission submission] } : Worker).Accounted := by
  constructor
  · simp [Pool.enqueue, accounted.queued_eq, Runner.isWaiting, Runner.ofSubmission]
  · simpa [Pool.enqueue, Runner.ofSubmission] using accounted.slots_eq
  · intro number runner found
    rcases getElem?_concat_eq_some_iff.mp found with old | ⟨-, rfl⟩
    · exact accounted.placed old
    · simp [Runner.IsPlaced, Runner.ofSubmission]

/-- A runner that moves takes the counts of the pool along. -/
theorem move (accounted : worker.Accounted) (found : worker.runners[number]? = some runner)
    (runners : changed.runners = (worker.setRunner number moved).runners)
    (queued : changed.pool.queued + runner.isWaiting.toNat =
      worker.pool.queued + moved.isWaiting.toNat)
    (available : changed.pool.available + moved.slot.toNat =
      worker.pool.available + runner.slot.toNat)
    (size : changed.pool.size = worker.pool.size)
    (closed : changed.pool.closed = worker.pool.closed)
    (placed : moved.IsPlaced worker.pool.closed) : changed.Accounted := by
  constructor
  · have waiting := countP_setRunner found moved Runner.isWaiting
    have before := accounted.queued_eq
    rw [runners]
    omega
  · have holding := countP_setRunner found moved Runner.slot
    have before := accounted.slots_eq
    rw [runners, size]
    omega
  · intro other rival foundOther
    rw [runners, getElem?_setRunner found] at foundOther
    rw [closed]
    split at foundOther
    · cases foundOther
      exact placed
    · exact accounted.placed foundOther

/-- Every event leaves the counts right. -/
theorem change (accounted : worker.Accounted) (change : worker.Change event changed) :
    changed.Accounted := by
  cases change with
  | ignored quiet => exact accounted
  | closed => exact accounted.close
  | registered name definition => exact accounted.congr rfl rfl
  | drained => exact accounted.congr rfl rfl
  | restored records => exact accounted.congr rfl rfl
  | @accepted submission fresh => exact accounted.accept submission _
  | canceled handle unfinished found called =>
      have placed := accounted.placed found
      exact accounted.move found rfl rfl rfl rfl rfl placed
  | granted found waits unclosed free =>
      have slot := accounted.placed found
      simp only [Runner.IsPlaced, waits] at slot
      have queued := accounted.queued_pos found waits
      refine accounted.move found rfl ?_ ?_ rfl rfl ?_
      · simp [Pool.grant, Runner.isWaiting, waits]
        omega
      · simp [Pool.grant, slot]
        omega
      · simp [Runner.IsPlaced]
  | refused found waits closed =>
      have slot := accounted.placed found
      simp only [Runner.IsPlaced, waits] at slot
      have queued := accounted.queued_pos found waits
      refine accounted.move found rfl ?_ rfl rfl rfl ?_
      · simp [Pool.refuse, Runner.isWaiting, waits]
        omega
      · simp [Runner.IsPlaced, slot, closed]
  | worked quiet found works =>
      have placed := works.isPlaced (accounted.placed found)
      rcases works.isWaiting_eq_false with ⟨before, after⟩
      exact accounted.move found rfl (by rw [before, after]; rfl) (by rw [works.slot_eq]; rfl) rfl
        rfl placed
  | reported found stage unfinished =>
      have placed := accounted.placed found
      simp only [Runner.IsPlaced, stage] at placed
      refine accounted.move found rfl ?_ rfl rfl rfl (placed.imp_right And.left)
      simp [Runner.isWaiting, stage, setRunner]
  | missed found stage absent =>
      have placed := accounted.placed found
      simp only [Runner.IsPlaced, stage] at placed
      refine accounted.move found rfl ?_ rfl rfl rfl (placed.imp_right And.left)
      simp [Runner.isWaiting, stage, setRunner]
  | @left number runner found stage =>
      refine accounted.move found rfl ?_ ?_ ?_ ?_ ?_
      · cases runner.slot <;> simp [Runner.isWaiting, stage, Pool.release]
      · cases runner.slot <;> simp [Pool.release]
      · cases runner.slot <;> simp [Pool.release]
      · cases runner.slot <;> simp [Pool.release]
      · simp [Runner.IsPlaced]
  | declared declares finishes => exact accounted.congr rfl rfl

end Accounted

theorem accounted_of_run? {events : List Event} (ran : worker.run? events = some changed)
    (accounted : worker.Accounted) : changed.Accounted :=
  keeps_of_run? ran accounted fun _ _ _ _ stepped before => before.change (change_of_step? stepped)

end Worker

end TaskAgent
