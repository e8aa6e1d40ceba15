import TaskAgent.Proofs.Agent.Moves
import TaskAgent.Proofs.Job.Cost
import TaskAgent.Proofs.Worker.Conservation

/-!
# Agents settle

Every move lowers the cost of the agent, by what it lowers the cost of its runner
(`Agent.cost_lt_of_move?`). So the moves of `Agent.settle` are enough: when they are made, no more
can be (`Agent.isSettled_settle`).

Time that passes costs nothing and takes no part in what the worker is like. A move is therefore
looked at in the agent as it is at the time of the move (`Agent.ready`).
-/

namespace TaskAgent.Agent

variable {agent moved other : Agent} {number : Nat} {runner after : Runner} {event : Option Event}
  {runners : List Runner} {patient : Bool}

/-! ### What moves cost -/

theorem totalCost_congr {first : Nat}
    (same : ∀ place runner, first ≤ place → other.runnerCost place runner =
      agent.runnerCost place runner) (runners : List Runner) :
    other.totalCost first runners = agent.totalCost first runners := by
  induction runners generalizing first with
  | nil => rfl
  | cons runner rest ih =>
      rw [totalCost, totalCost, same first runner (Nat.le_refl first), ih]
      intro place runner later
      exact same place runner (Nat.le_of_succ_le later)

theorem totalCost_set_lt {first place : Nat} (found : runners[place]? = some runner)
    (lower : other.runnerCost (first + place) after < agent.runnerCost (first + place) runner)
    (same : ∀ away rival, first + place ≠ away →
      other.runnerCost away rival = agent.runnerCost away rival) :
    other.totalCost first (runners.set place after) < agent.totalCost first runners := by
  induction runners generalizing first place with
  | nil => cases found
  | cons head rest ih =>
      cases place with
      | zero =>
          cases found
          rw [List.set_cons_zero, totalCost, totalCost, totalCost_congr]
          · exact Nat.add_lt_add_right lower _
          · intro place rival later
            exact same place rival (by omega)
      | succ place =>
          have shifted : first + (place + 1) = first + 1 + place := by omega
          rw [shifted] at lower same
          rw [List.set_cons_succ, totalCost, totalCost, same first head (by omega)]
          exact Nat.add_lt_add_left (ih (by simpa using found) lower same) _

/-- A step that serves a runner whose job does not run brings the runner closer to its end. -/
theorem runnerCost_lt_of_lives {registry : Registry} {event : Event}
    (lives : Runner.Lives registry number event runner after) (mover : event.mover? = some number)
    (known : agent.worker.registry = registry) (registered : other.worker.registry = registry)
    (before : runner.isWorking = false) (idle : after.isWorking = false) :
    other.runnerCost number after < agent.runnerCost number runner := by
  cases lives with
  | untouched alien => exact absurd mover alien
  | interrupted => cases mover
  | granted waits => simp [runnerCost, waits, known, registered]
  | refused waits =>
      simp only [runnerCost, waits]
      omega
  | started stepped =>
      rcases Runner.Works.start_cases stepped with
        ⟨stage, -, rfl⟩ | ⟨stage, -, rfl⟩ | ⟨stage | stage, -, rfl⟩
      · rcases Runner.beginning_cases registry runner.submission.config with
          ⟨_, begins⟩ | ⟨_, begins⟩
        · simp [Runner.isWorking, begins] at idle
        · simp only [runnerCost, stage, begins]
          omega
      · simp [runnerCost, stage]
      · simp only [runnerCost, stage]
        omega
      · simp [runnerCost, stage]
  | entered stepped =>
      rcases (Runner.Works.change_cases stepped).1 with ⟨definition, stage⟩
      simp [Runner.isWorking, stage] at before
  | left stepped =>
      rcases (Runner.Works.change_cases stepped).1 with ⟨definition, stage⟩
      simp [Runner.isWorking, stage] at before
  | finished stepped =>
      rcases (Runner.Works.finish_cases stepped).1 with ⟨definition, stage⟩
      simp [Runner.isWorking, stage] at before
  | committed stepped =>
      rcases Runner.Works.commit_cases stepped with ⟨outcome, stage, ⟨-, rfl⟩ | ⟨-, -, rfl⟩⟩ <;>
        simp [runnerCost, stage]
  | reported stage => simp [runnerCost, stage]
  | gone stage => simp [runnerCost, stage]

theorem find?_of_beginning {registry : Registry} {config : JobConfig} {definition : Definition}
    (begins : Runner.beginning registry config = .working definition) :
    registry.find? config.name = some definition := by
  unfold Runner.beginning at begins
  split at begins
  · next known =>
      cases begins
      exact known
  · cases begins

/-- While its job runs, a runner costs what its computation costs. -/
theorem runnerCost_of_working {definition : Definition} {computation : Computation}
    (stage : runner.stage = .working definition)
    (computing : agent.computations.find? number = some computation) :
    agent.runnerCost number runner = computation.cost + 4 := by
  simp [runnerCost, stage, computing]

namespace Moved

/-- The cost of a runner depends on itself, its computation and the known jobs. -/
theorem runnerCost_eq {away : Nat} (moves : agent.Moved number runner event moved)
    (found : agent.worker.runners[number]? = some runner) (differs : number ≠ away)
    (rival : Runner) : moved.runnerCost away rival = agent.runnerCost away rival := by
  unfold runnerCost
  rw [(moves.exists_set found).1, moves.find?_computations differs]

theorem runnerCost_lt (moves : agent.Moved number runner event moved)
    (found : agent.worker.runners[number]? = some runner) :
    ∃ after, moved.worker.runners[number]? = some after ∧
      moved.runnerCost number after < agent.runnerCost number runner := by
  cases moves with
  | served mover stepped foundAfter before idle =>
      rcases Worker.lives_of_step? stepped found with ⟨after, same, lives⟩
      cases foundAfter.symm.trans same
      refine ⟨_, foundAfter, ?_⟩
      exact runnerCost_lt_of_lives lives mover rfl (Worker.registry_of_mover? stepped mover) before
        idle
  | begun stepped foundAfter works =>
      rcases Worker.exists_of_changeRunner? stepped with ⟨before, after, foundBefore, starts, rfl⟩
      cases found.symm.trans foundBefore
      have same := (Worker.getElem?_setRunner_self found after).symm.trans foundAfter
      cases same
      refine ⟨_, foundAfter, ?_⟩
      rcases Runner.Works.start_cases starts with ⟨stage, -, rfl⟩ | ⟨-, -, rfl⟩ | ⟨-, -, rfl⟩
      · have known := find?_of_beginning works
        rw [runnerCost_of_working works ((Ledger.find?_insert ..).trans (if_pos rfl))]
        simp [runnerCost, stage, jobCost, known]
      · cases works
      · cases works
  | ended computing ended stepped =>
      rcases Worker.exists_of_changeRunner? stepped with ⟨before, after, foundBefore, ends, rfl⟩
      cases found.symm.trans foundBefore
      refine ⟨after, Worker.getElem?_setRunner_self found after, ?_⟩
      rcases Runner.Works.finish_cases ends with ⟨⟨definition, stage⟩, rfl⟩
      rw [runnerCost_of_working stage computing]
      simp only [runnerCost]
      omega
  | @advanced worker computation move definition works computing unended next touched =>
      have lower := Computation.cost_lt_of_next? next
      rcases Worker.exists_signal_of_touch found touched with ⟨signal, foundAfter⟩
      refine ⟨{ runner with signal }, foundAfter, ?_⟩
      have stage : ({ runner with signal } : Runner).stage = .working definition := works
      rw [runnerCost_of_working works computing,
        runnerCost_of_working stage ((Ledger.find?_insert ..).trans (if_pos rfl))]
      omega

end Moved

/-- Every move brings the agent closer to rest. -/
theorem cost_lt_of_move? (moves : agent.move? number = some moved) : moved.cost < agent.cost := by
  rcases exists_of_move? moves with ⟨runner, found, moves⟩
  rcases moves.runnerCost_lt found with ⟨after, foundAfter, lower⟩
  rcases (moves.exists_set found).2 with ⟨same, runners⟩
  have inside := (List.getElem?_eq_some_iff.mp found).1
  rw [runners, List.getElem?_set_self inside] at foundAfter
  cases foundAfter
  rw [cost, cost, runners]
  refine totalCost_set_lt found (by simpa using lower) ?_
  intro away rival differs
  exact moves.runnerCost_eq found (by omega) rival

/-! ### When no move is left -/

/-- The agent at another time. -/
def atTime (agent : Agent) (time : Nat) : Agent :=
  { agent with world := { agent.world with now := time } }

theorem cost_atTime (agent : Agent) (time : Nat) : (agent.atTime time).cost = agent.cost := by
  have same : ∀ place runner, 0 ≤ place →
      (agent.atTime time).runnerCost place runner = agent.runnerCost place runner :=
    fun _ _ _ => rfl
  exact totalCost_congr same agent.worker.runners

/-- The first runner that can move. -/
def mover? (agent : Agent) : Option Nat :=
  (List.range agent.worker.runners.length).find? fun number => (agent.move? number).isSome

theorem findSome?_eq_bind {α β : Type} (f : α → Option β) (list : List α) :
    list.findSome? f = (list.find? fun element => (f element).isSome).bind f := by
  induction list with
  | nil => rfl
  | cons element rest ih =>
      rw [List.findSome?_cons, List.find?_cons, ih]
      cases here : f element <;> simp [here]

theorem firstMove?_eq (agent : Agent) : agent.firstMove? = agent.mover?.bind agent.move? :=
  findSome?_eq_bind ..

theorem inside_of_move? (moves : agent.move? number = some moved) :
    number < agent.worker.runners.length := by
  rcases exists_of_move? moves with ⟨runner, found, -⟩
  exact (List.getElem?_eq_some_iff.mp found).1

theorem move?_eq_none_of_firstMove? (still : agent.firstMove? = none) (number : Nat) :
    agent.move? number = none := by
  cases moves : agent.move? number with
  | none => rfl
  | some moved =>
      have listed := List.mem_range.mpr (inside_of_move? moves)
      have none := List.findSome?_eq_none_iff.mp still number listed
      rw [none] at moves
      cases moves

/-- The agent as it is at its next move: now, or when the first rest is over that is waited
for. -/
def ready (patient : Bool) (agent : Agent) : Agent :=
  match agent.mover? with
  | some _ => agent
  | none =>
    match agent.wakeTime? patient with
    | some time => agent.atTime time
    | none => agent

theorem step?_eq (patient : Bool) (agent : Agent) :
    agent.step? patient = (agent.ready patient).mover?.bind (agent.ready patient).move? := by
  rw [← firstMove?_eq]
  unfold step? ready
  cases first : agent.mover? with
  | some number =>
      have moves : (agent.move? number).isSome = true := by simpa using List.find?_some first
      rcases Option.isSome_iff_exists.mp moves with ⟨moved, moves⟩
      simp [firstMove?_eq, first, moves]
  | none =>
      cases wakes : agent.wakeTime? patient with
      | some time => simp [firstMove?_eq agent, first, atTime]
      | none => simp [firstMove?_eq agent, first]

/-- A step of the agent is the move of the first runner that can move when it is ready. -/
theorem exists_of_step? (stepped : agent.step? patient = some moved) :
    ∃ number, (agent.ready patient).mover? = some number ∧
      (agent.ready patient).move? number = some moved := by
  rw [step?_eq] at stepped
  exact Option.bind_eq_some_iff.mp stepped

theorem ready_cases (patient : Bool) (agent : Agent) :
    agent.ready patient = agent ∨ ∃ time, agent.ready patient = agent.atTime time := by
  unfold ready
  split
  · exact Or.inl rfl
  · split
    · exact Or.inr ⟨_, rfl⟩
    · exact Or.inl rfl

theorem cost_lt_of_step? (stepped : agent.step? patient = some moved) :
    moved.cost < agent.cost := by
  rcases exists_of_step? stepped with ⟨number, -, moves⟩
  have lower := cost_lt_of_move? moves
  rcases agent.ready_cases patient with same | ⟨time, same⟩
  · rwa [same] at lower
  · rwa [same, cost_atTime] at lower

theorem step?_moveUpTo {moves : Nat} (enough : agent.cost ≤ moves) :
    (moveUpTo patient moves agent).step? patient = none := by
  induction moves generalizing agent with
  | zero =>
      cases stepped : agent.step? patient with
      | none => exact stepped
      | some moved =>
          have lower := cost_lt_of_step? stepped
          omega
  | succ moves ih =>
      rw [moveUpTo]
      cases stepped : agent.step? patient with
      | none => exact stepped
      | some moved =>
          have lower := cost_lt_of_step? stepped
          exact ih (by omega)

/-- Nothing can move, but for gates that open and long rests that end. -/
def IsSettled (agent : Agent) : Prop := agent.step? false = none

theorem isSettled_settle (agent : Agent) : agent.settle.IsSettled :=
  step?_moveUpTo (Nat.le_refl _)

end TaskAgent.Agent
