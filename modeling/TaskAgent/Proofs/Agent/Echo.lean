import TaskAgent.Proofs.Agent.Carrying

/-!
# The job that gives its arguments back

As long as the pool is open, every runner of the job `echo` is on the way to report the arguments
of its own task, whatever the other runners do and whoever is called off (`Agent.Echoes`). This is
kept by every move of an agent (`Agent.Echoing.move?`) and by whatever else happens to its worker
(`Agent.Echoing.outside`), as long as the name stands for the built-in job.
-/

namespace TaskAgent

namespace Computation

variable {computation : Computation} {value : Json}

/-- The computation gives the value next, or has come to do so. -/
def IsGiving (value : Json) (computation : Computation) : Prop :=
  computation = ⟨.running [.give value], []⟩ ∨ computation = ⟨.giving value, []⟩

theorem IsGiving.outcome_eq {outcome : Outcome} (gives : computation.IsGiving value)
    (ended : computation.outcome? = some outcome) : outcome = .ok value := by
  rcases gives with rfl | rfl
  · cases ended
  · cases ended
    rfl

theorem IsGiving.next? {context : TaskContext} {signal : Signal} {world : World} {move : Move}
    (gives : computation.IsGiving value)
    (next : computation.next? context signal world = some move) :
    move.computation.IsGiving value := by
  rcases gives with rfl | rfl
  · cases next
    exact Or.inr rfl
  · cases next

end Computation

namespace Agent

variable {agent changed : Agent} {event : Event} {number : Nat} {runner : Runner}

/-- The runner is on the way to report the arguments of its task. -/
def Echoes (agent : Agent) (number : Nat) (runner : Runner) : Prop :=
  match runner.stage with
  | .waiting | .admitted | .leaving | .gone => True
  | .refused => False
  | .working _ => ∃ computation, agent.computations.find? number = some computation ∧
      computation.IsGiving runner.submission.arguments
  | .ended outcome | .reporting outcome => outcome = .ok runner.submission.arguments

/-- The runner carries the arguments, or a computation that gives them. -/
theorem echoes_iff_carries : agent.Echoes number runner ↔
    agent.Carries (Computation.IsGiving runner.submission.arguments)
      (· = .ok runner.submission.arguments) number runner := Iff.rfl

theorem Echoes.congr {after : Runner} (echoes : agent.Echoes number runner)
    (computations : changed.computations.find? number = agent.computations.find? number)
    (submission : after.submission = runner.submission) (stage : after.stage = runner.stage) :
    changed.Echoes number after := by
  rw [echoes_iff_carries, submission]
  exact (echoes_iff_carries.mp echoes).congr computations stage

/-- Every runner of the job `echo` gives back what its task was given. -/
structure Echoing (agent : Agent) : Prop where
  known : agent.worker.registry.find? "echo" = some (.builtin .echo)
  echoes : agent.worker.pool.closed = false → ∀ {number : Nat} {runner : Runner},
    agent.worker.runners[number]? = some runner → runner.submission.config.name = "echo" →
      agent.Echoes number runner

theorem echoing_make (pool : Pool) (address : Address) (figures : MachineFigures)
    (files : FileTree) : (make pool .builtin address figures files).Echoing := by
  have known : Registry.builtin.find? "echo" = some (.builtin .echo) := rfl
  refine ⟨known, fun unclosed number runner found => ?_⟩
  simp [make, Worker.make] at found

namespace Echoing

theorem congr (echoing : agent.Echoing) (worker : changed.worker = agent.worker)
    (computations : changed.computations = agent.computations) : changed.Echoing := by
  constructor
  · rw [worker]
    exact echoing.known
  · intro unclosed number runner found named
    rw [worker] at unclosed found
    exact (echoing.echoes unclosed found named).congr (by rw [computations]) rfl rfl

/-- A step of the worker that is no runner's own can call a task off or bring a new one. -/
theorem outside {worker : Worker} (echoing : agent.Echoing)
    (stepped : agent.worker.step? event = some worker) (outside : event.mover? = none)
    (unnamed : ∀ definition, event ≠ .register "echo" definition) :
    ({ agent with worker } : Agent).Echoing := by
  constructor
  · rw [Worker.registry_of_step? stepped]
    cases event with
    | register name definition =>
        have differs : name ≠ "echo" := by
          rintro rfl
          exact unnamed definition rfl
        exact (Ledger.find?_insert ..).trans ((if_neg differs).trans echoing.known)
    | _ => exact echoing.known
  · intro unclosed number runner found named
    have unclosed := Worker.unclosed_of_step? stepped unclosed
    cases before : agent.worker.runners[number]? with
    | none =>
        rcases Worker.ofSubmission_of_step? stepped before found with ⟨-, submission, rfl⟩
        trivial
    | some old =>
        rcases Worker.lives_of_step? stepped before with ⟨after, foundAfter, lives⟩
        cases found.symm.trans foundAfter
        have alien : event.mover? ≠ some number := by simp [outside]
        cases lives with
        | untouched => exact (echoing.echoes unclosed before named).congr rfl rfl rfl
        | interrupted => exact (echoing.echoes unclosed before named).congr rfl rfl rfl
        | _ => exact absurd rfl alien

end Echoing

theorem Moved.echoes {step : Option Event} (moves : agent.Moved number runner step changed)
    (found : agent.worker.runners[number]? = some runner) (echoes : agent.Echoes number runner)
    (known : agent.worker.registry.find? runner.submission.config.name = some (.builtin .echo))
    (unclosed : changed.worker.pool.closed = false) :
    ∃ after, changed.worker.runners[number]? = some after ∧ changed.Echoes number after := by
  have begins : Begins agent.worker.registry (Computation.IsGiving runner.submission.arguments)
      (· = .ok runner.submission.arguments) runner.submission := by
    constructor
    · intro definition other
      cases known.symm.trans other
      exact Or.inl rfl
    · intro unknown
      cases known.symm.trans unknown
  rcases moves.carries found (echoes_iff_carries.mp echoes) begins (·.next? ·) (·.outcome_eq ·)
    unclosed with ⟨after, foundAfter, carries⟩
  refine ⟨after, foundAfter, ?_⟩
  rw [echoes_iff_carries, Worker.submission_eq_of_run? moves.run? found foundAfter]
  exact carries

/-- Every move of the agent. -/
theorem Echoing.move? (echoing : agent.Echoing) (moves : agent.move? number = some changed) :
    changed.Echoing := by
  rcases exists_of_move? moves with ⟨runner, found, moved⟩
  rcases moved.exists_set found with ⟨registry, after, runners⟩
  constructor
  · rw [registry]
    exact echoing.known
  · intro unclosed other rival foundOther named
    have earlier := Worker.unclosed_of_run? moved.run? unclosed
    by_cases same : number = other
    · subst same
      have own := Worker.submission_eq_of_run? moved.run? found foundOther
      rw [own] at named
      rcases moved.echoes found (echoing.echoes earlier found named) (named ▸ echoing.known)
        unclosed with ⟨again, foundAgain, echoes⟩
      cases foundOther.symm.trans foundAgain
      exact echoes
    · rw [runners, List.getElem?_set_ne same] at foundOther
      exact (echoing.echoes earlier foundOther named).congr (moved.find?_computations same) rfl rfl

/-- The runner of a task whose end is open can move, unless it waits and no slot is free. -/
theorem Echoes.of_move?_eq_none (echoes : agent.Echoes number runner)
    (found : agent.worker.runners[number]? = some runner) (isOpen : runner.IsOpen)
    (unclosed : agent.worker.pool.closed = false) (still : agent.move? number = none) :
    runner.isWaiting = true ∧ agent.worker.pool.available = 0 := by
  rcases (echoes_iff_carries.mp echoes).of_move?_eq_none found isOpen unclosed still with
    waits | ⟨-, computation, -, rfl | rfl, unended, stuck⟩
  · exact waits
  · cases stuck
  · cases unended

end Agent

end TaskAgent
