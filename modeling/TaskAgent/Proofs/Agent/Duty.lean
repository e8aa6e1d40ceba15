import TaskAgent.Proofs.Agent.Echo
import TaskAgent.Proofs.Master.Commission

/-!
# Agents on duty

An agent on duty works while its reporter corresponds with the master. Its runners move as those of
an agent do, one at a time and in any order (`Agent.move?`), and what their moves do to the worker
is done in the correspondence. Between two such moves the reporter may move, anything may be asked
of the worker, and the world may change in any way, as it does when time passes or a gate opens.

Every move on duty is at most one step of the correspondence (`Duty.correspondence_cases`), so the
laws of correspondences hold, and those of agents that survive what is asked from outside
(`Duty.Regular`).
-/

namespace TaskAgent

/-- An agent at work, with its correspondence. -/
structure Duty where
  correspondence : Correspondence
  computations : Ledger Nat Computation
  world : World
  figures : MachineFigures

theorem Event.isTransfer_of_mover? {event : Event} {number : Nat}
    (mover : event.mover? = some number) : event.isTransfer = false := by
  cases event with
  | drain => cases mover
  | restore records => cases mover
  | _ => rfl

theorem Event.mover?_of_isTransfer {event : Event} (transfers : event.isTransfer = true) :
    event.mover? = none := by
  cases event with
  | drain => rfl
  | restore records => rfl
  | _ => cases transfers

theorem Event.isDeclaration_of_isTransfer {event : Event} (transfers : event.isTransfer = true) :
    event.isDeclaration = false := by
  cases event with
  | drain => rfl
  | restore records => rfl
  | _ => cases transfers

/-- Whether it is the step of a runner. -/
def Correspondence.Move.isOwn : Correspondence.Move → Bool
  | work event => event.mover?.isSome
  | _ => false

namespace Duty

/-- A single step of an agent on duty. -/
inductive Move where
  /-- A runner makes its next move. -/
  | run (number : Nat)
  | turn (world : World)
  /-- The reporter moves, or something is asked of the worker. -/
  | talk (move : Correspondence.Move)

/-- An agent without tasks, whose master does not know it. -/
def start (pool : Pool) (registry : Registry) (address : Address) (figures : MachineFigures)
    (files : FileTree) : Duty :=
  ⟨.start pool registry address, ∅, ⟨[], ∅, files, 0⟩, figures⟩

def mail (duty : Duty) : Mail := duty.correspondence.mail

def worker (duty : Duty) : Worker := duty.mail.worker

/-- The agent without its correspondence. -/
def agent (duty : Duty) : Agent :=
  ⟨duty.worker, duty.computations, duty.world, duty.correspondence.reporter, duty.figures⟩

def step? (scratch : String) (duty : Duty) : Move → Option Duty
  | .run number =>
    (duty.agent.move? number).bind fun moved =>
      (duty.correspondence.run? scratch ((duty.agent.event? number).map .work).toList).map
        fun correspondence =>
          { duty with correspondence, computations := moved.computations, world := moved.world }
  | .turn world => some { duty with world }
  | .talk move =>
    if move.isOwn then none
    else (duty.correspondence.step? scratch move).map fun correspondence =>
      { duty with correspondence }

def run? (scratch : String) (duty : Duty) : List Move → Option Duty
  | [] => some duty
  | move :: rest => (duty.step? scratch move).bind fun changed => changed.run? scratch rest

variable {duty changed final : Duty} {scratch : String} {move : Move} {moves : List Move}
  {number : Nat} {address : Address}

/-! ### Moves of runners -/

theorem agent_eq {correspondence : Correspondence} {moved : Agent}
    (worker : correspondence.mail.worker = moved.worker)
    (reporter : correspondence.reporter = moved.reporter) (figures : duty.figures = moved.figures) :
    ({ duty with
      correspondence
      computations := moved.computations
      world := moved.world } : Duty).agent = moved := by
  rcases moved with ⟨movedWorker, computations, world, movedReporter, movedFigures⟩
  cases worker
  cases reporter
  cases figures
  rfl

theorem exists_of_work {event : Event} {correspondence : Correspondence}
    (ran : duty.correspondence.run? scratch [.work event] = some correspondence) :
    duty.correspondence.step? scratch (.work event) = some correspondence ∧
      duty.worker.run? [event] = some correspondence.mail.worker ∧
        correspondence.reporter = duty.correspondence.reporter := by
  rcases Correspondence.exists_of_run?_cons ran with ⟨after, stepped, same⟩
  cases same
  refine ⟨stepped, ?_⟩
  cases Correspondence.exchange_of_step? stepped with
  | worked steppedWorker reporter pending again =>
      exact ⟨Worker.run?_cons_of_step? steppedWorker [], reporter⟩

/-- To the agent a move of a runner on duty is the move it makes, and to the correspondence it is
the step of the worker that goes along with it, if there is one. -/
theorem exists_of_run (stepped : duty.step? scratch (.run number) = some changed) :
    duty.agent.move? number = some changed.agent ∧
      (changed.correspondence = duty.correspondence ∨ ∃ event, event.mover? = some number ∧
        duty.correspondence.step? scratch (.work event) = some changed.correspondence) := by
  rcases Option.bind_eq_some_iff.mp stepped with ⟨moved, moves, rest⟩
  rcases Option.map_eq_some_iff.mp rest with ⟨correspondence, ran, rfl⟩
  rcases Agent.exists_of_move? moves with ⟨runner, found, isMove⟩
  have ranWorker := isMove.run?
  rcases isMove.reporter_eq with ⟨reporter, figures⟩
  cases asks : duty.agent.event? number with
  | none =>
      rw [asks] at ran ranWorker
      cases ran
      have same := agent_eq (Option.some.inj ranWorker) reporter.symm figures.symm
      exact ⟨moves.trans (congrArg some same.symm), Or.inl rfl⟩
  | some event =>
      rw [asks] at ran ranWorker isMove
      rcases exists_of_work ran with ⟨steppedWork, ranWork, kept⟩
      have worker := Option.some.inj (ranWork.symm.trans ranWorker)
      have same := agent_eq worker (kept.trans reporter.symm) figures.symm
      exact ⟨moves.trans (congrArg some same.symm), Or.inr ⟨event, isMove.mover?_eq, steppedWork⟩⟩

/-- Every move that a runner of the agent can make can be made on duty. -/
theorem exists_run_of_move? {moved : Agent} (scratch : String)
    (moves : duty.agent.move? number = some moved) :
    ∃ changed, duty.step? scratch (.run number) = some changed := by
  rcases Agent.exists_of_move? moves with ⟨runner, found, isMove⟩
  have ranWorker := isMove.run?
  simp only [step?, moves, Option.bind_some]
  cases asks : duty.agent.event? number with
  | none => exact ⟨_, rfl⟩
  | some event =>
      rw [asks] at ranWorker isMove
      rcases Worker.exists_of_run?_cons ranWorker with ⟨worker, steppedWorker, -⟩
      have single := Event.isTransfer_of_mover? isMove.mover?_eq
      have stepped : ∃ correspondence,
          duty.correspondence.step? scratch (.work event) = some correspondence := by
        have steppedWorker : duty.correspondence.mail.worker.step? event = some worker :=
          steppedWorker
        simp [Correspondence.step?, single, Mail.undergo?, steppedWorker]
      rcases stepped with ⟨correspondence, stepped⟩
      refine ⟨_, Option.map_eq_some_iff.mpr ⟨correspondence, ?_, rfl⟩⟩
      exact Correspondence.run?_cons_of_step? stepped []

/-! ### Laws on duty -/

theorem exists_of_talk {turn : Correspondence.Move}
    (stepped : duty.step? scratch (.talk turn) = some changed) :
    ∃ correspondence, turn.isOwn = false ∧
      duty.correspondence.step? scratch turn = some correspondence ∧
        changed = { duty with correspondence } := by
  simp only [step?] at stepped
  split at stepped
  · cases stepped
  · next outside =>
      rcases Option.map_eq_some_iff.mp stepped with ⟨correspondence, steppedTurn, rfl⟩
      exact ⟨correspondence, by simpa using outside, steppedTurn, rfl⟩

/-- Every move is at most one step of the correspondence: that of a runner, or the move itself. -/
theorem correspondence_cases (stepped : duty.step? scratch move = some changed) :
    changed.correspondence = duty.correspondence ∨
      ∃ turn, duty.correspondence.step? scratch turn = some changed.correspondence ∧
        ((∃ event number, turn = .work event ∧ event.mover? = some number) ∨
          move = .talk turn) := by
  cases move with
  | run number =>
      rcases exists_of_run stepped with ⟨-, still | ⟨event, mover, steppedWork⟩⟩
      · exact Or.inl still
      · exact Or.inr ⟨_, steppedWork, Or.inl ⟨event, number, rfl, mover⟩⟩
  | turn world =>
      cases stepped
      exact Or.inl rfl
  | talk turn =>
      rcases exists_of_talk stepped with ⟨correspondence, -, steppedTurn, rfl⟩
      exact Or.inr ⟨turn, steppedTurn, Or.inr rfl⟩

theorem exists_of_run?_cons {rest : List Move}
    (ran : duty.run? scratch (move :: rest) = some final) :
    ∃ changed, duty.step? scratch move = some changed ∧ changed.run? scratch rest = some final :=
  Option.bind_eq_some_iff.mp ran

/-- What holds at first and is kept by every move of a sequence holds at its end. -/
theorem keeps_of_run? {motive : Duty → Prop} (ran : duty.run? scratch moves = some final)
    (initially : motive duty)
    (kept : ∀ move ∈ moves, ∀ before after : Duty,
      before.step? scratch move = some after → motive before → motive after) :
    motive final := by
  induction moves generalizing duty with
  | nil =>
      cases ran
      exact initially
  | cons move rest ih =>
      rcases exists_of_run?_cons ran with ⟨changed, stepped, ranRest⟩
      apply ih ranRest
      · exact kept move List.mem_cons_self duty changed stepped initially
      · intro later member
        exact kept later (List.mem_cons_of_mem _ member)

/-- Only runners report how tasks end, and the name `echo` keeps its meaning. -/
def Move.IsRegular : Move → Prop
  | talk (.work event) =>
    event.isDeclaration = false ∧ ∀ definition, event ≠ .register "echo" definition
  | _ => True

/-- The move does not ask for the task to be run or called off. -/
def Move.Spares (key : TaskKey) : Move → Prop
  | talk move => move.Spares key
  | _ => True

/-- What holds of an agent on duty while only runners report. -/
structure Regular (address : Address) (duty : Duty) : Prop where
  posted : duty.correspondence.Posted
  sound : duty.mail.Sound
  coherent : duty.worker.Coherent
  echoing : duty.agent.Echoing
  reachable : duty.worker.tracker.address = address

theorem regular_start (pool : Pool) (address : Address) (figures : MachineFigures)
    (files : FileTree) : Regular address (start pool .builtin address figures files) where
  posted := Correspondence.posted_start pool .builtin address
  sound := Mail.sound_make pool .builtin address
  coherent := Worker.coherent_make pool .builtin address
  echoing := Agent.echoing_make pool address figures files
  reachable := rfl

/-- What a step of the correspondence asks of the worker is regular if the step is. -/
theorem isRegular_of_event? {turn : Correspondence.Move} {event : Event}
    (regular : (Move.talk turn).IsRegular)
    (asks : duty.correspondence.event? scratch turn = some event) :
    event.isDeclaration = false ∧ ∀ definition, event ≠ .register "echo" definition := by
  cases turn with
  | work event =>
      cases asks
      exact regular
  | obey =>
      simp only [Correspondence.event?] at asks
      split at asks
      · next command rest pending =>
          cases command with
          | register => cases asks
          | _ =>
              cases asks
              refine ⟨rfl, ?_⟩
              intro definition same
              cases same
      · cases asks
  | _ => cases asks

theorem mover?_of_event? {turn : Correspondence.Move} {event : Event} (outside : turn.isOwn = false)
    (asks : duty.correspondence.event? scratch turn = some event) : event.mover? = none := by
  cases turn with
  | work event =>
      cases asks
      simpa [Correspondence.Move.isOwn] using outside
  | obey =>
      simp only [Correspondence.event?] at asks
      split at asks
      · next command rest pending => cases command <;> cases asks <;> rfl
      · cases asks
  | _ => cases asks

/-- The worker stays, or one event happens to it: the step of a runner, a transfer of records, or
what the move asks of it. -/
theorem worker_cases (stepped : duty.step? scratch move = some changed) :
    changed.worker = duty.worker ∨
      ∃ event, duty.worker.step? event = some changed.worker ∧
        ((∃ number, event.mover? = some number) ∨ event.isTransfer = true ∨
          ∃ turn, move = .talk turn ∧ duty.correspondence.event? scratch turn = some event) := by
  rcases correspondence_cases stepped with same | ⟨turn, steppedTurn, whose⟩
  · exact Or.inl (congrArg (fun state => state.mail.worker) same)
  · rcases (Correspondence.touches_of_step? steppedTurn).worker_cases with
      same | ⟨event, steppedWorker, transfers | asks⟩
    · exact Or.inl same
    · exact Or.inr ⟨event, steppedWorker, Or.inr (Or.inl transfers)⟩
    · refine Or.inr ⟨event, steppedWorker, ?_⟩
      rcases whose with ⟨own, number, rfl, mover⟩ | rfl
      · cases asks
        exact Or.inl ⟨number, mover⟩
      · exact Or.inr (Or.inr ⟨turn, rfl, asks⟩)

namespace Regular

theorem coherent_of_step? (regular : duty.Regular address) (proper : move.IsRegular)
    (stepped : duty.step? scratch move = some changed) : changed.worker.Coherent := by
  rcases worker_cases stepped with same | ⟨event, steppedWorker, whose⟩
  · exact same ▸ regular.coherent
  · refine regular.coherent.change (Worker.change_of_step? steppedWorker) ?_
    rcases whose with ⟨number, mover⟩ | transfers | ⟨turn, rfl, asks⟩
    · exact Event.isDeclaration_of_mover? mover
    · exact Event.isDeclaration_of_isTransfer transfers
    · exact (isRegular_of_event? proper asks).1

theorem echoing_of_step? (regular : duty.Regular address) (proper : move.IsRegular)
    (stepped : duty.step? scratch move = some changed) : changed.agent.Echoing := by
  cases move with
  | run number => exact regular.echoing.move? (exists_of_run stepped).1
  | turn world =>
      cases stepped
      exact regular.echoing.congr rfl rfl
  | talk turn =>
      rcases exists_of_talk stepped with ⟨correspondence, outside, steppedTurn, rfl⟩
      rcases (Correspondence.touches_of_step? steppedTurn).worker_cases with
        same | ⟨event, steppedWorker, transfers | asks⟩
      · exact regular.echoing.congr same rfl
      · have unnamed : ∀ definition, event ≠ .register "echo" definition := by
          rintro definition rfl
          cases transfers
        have after := regular.echoing.outside steppedWorker
          (Event.mover?_of_isTransfer transfers) unnamed
        exact after.congr rfl rfl
      · have after := regular.echoing.outside steppedWorker (mover?_of_event? outside asks)
          (isRegular_of_event? proper asks).2
        exact after.congr rfl rfl

/-- Every move keeps what holds on duty. -/
theorem step (regular : duty.Regular address) (proper : move.IsRegular)
    (stepped : duty.step? scratch move = some changed) : changed.Regular address := by
  have kept : changed.mail.Sound ∧ changed.correspondence.Posted := by
    rcases correspondence_cases stepped with same | ⟨turn, steppedTurn, -⟩
    · rw [mail, same]
      exact ⟨regular.sound, regular.posted⟩
    · rcases Correspondence.follows_step? regular.posted steppedTurn with ⟨course, posted⟩
      exact ⟨regular.sound.course course, posted⟩
  refine ⟨kept.2, kept.1, regular.coherent_of_step? proper stepped,
    regular.echoing_of_step? proper stepped, ?_⟩
  rw [← regular.reachable]
  rcases worker_cases stepped with same | ⟨event, steppedWorker, -⟩
  · rw [same]
  · rw [Worker.tracker_of_step? steppedWorker, Tracker.address_apply]

theorem run (regular : duty.Regular address) (proper : ∀ move ∈ moves, move.IsRegular)
    (ran : duty.run? scratch moves = some final) : final.Regular address :=
  keeps_of_run? ran regular fun move member _ _ stepped before =>
    before.step (proper move member) stepped

end Regular

end Duty

end TaskAgent
