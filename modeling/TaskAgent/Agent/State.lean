import TaskAgent.Job.Computation
import TaskAgent.Master.Reporter
import TaskAgent.Worker.Event

/-!
# Agents

An agent is a worker together with what its runners compute, the world in which they do so, and
the reporter that talks to the master. An agent moves one runner at a time; when none can move,
time passes until the next short rest of a computation is over, and if there is none the agent
has settled (`Agent.step?`). Who is patient also waits for the end of long rests.

Runners are looked at in order of acceptance, so slots are given to waiting tasks first come,
first served. Every move lowers the cost of the agent, so it settles after at most that many
moves (`Agent.settle`).
-/

namespace TaskAgent

/-- A worker at work. -/
structure Agent where
  /-- The tasks and the slots. -/
  worker : Worker
  /-- The computations of the runners that do their job, by the number of the runner. -/
  computations : Ledger Nat Computation
  /-- What the jobs share. -/
  world : World
  /-- What keeps the master informed. -/
  reporter : Reporter
  /-- What the machine says of itself. -/
  figures : MachineFigures

namespace Agent

/-- The job of a task, about to begin. -/
def beginning (submission : Submission) (definition : Definition) : Computation :=
  .ofProgram (definition.program submission.arguments)

/-- What a job is told about its task. -/
def contextOf (submission : Submission) : TaskContext := ⟨submission.key, submission.scratch⟩

/-- A runner starts, and its job with it. -/
def start? (agent : Agent) (number : Nat) : Option Agent :=
  match agent.worker.start? number with
  | none => none
  | some worker =>
    match worker.runners[number]? with
    | some runner =>
      match runner.stage with
      | .working definition =>
        some { agent with
          worker
          computations :=
            agent.computations.insert number (beginning runner.submission definition) }
      | _ => some { agent with worker }
    | none => none

/-- The worker after a step of a job that touches the signal of its task. -/
def touch? (worker : Worker) (number : Nat) : Option Touch → Option Worker
  | some .enter => worker.enter? number
  | some .leave => worker.leave? number
  | none => some worker

/-- The job of a runner makes a step. -/
def advance? (agent : Agent) (number : Nat) (runner : Runner) (computation : Computation) :
    Option Agent :=
  match computation.next? (contextOf runner.submission) runner.signal agent.world with
  | none => none
  | some move =>
    (touch? agent.worker number move.touch).map fun worker =>
      { agent with
        worker
        computations := agent.computations.insert number move.computation
        world := move.world }

/-- The job of a runner makes a step or, at its end, hands over how it ended. -/
def work? (agent : Agent) (number : Nat) (runner : Runner) : Option Agent :=
  match agent.computations.find? number with
  | none => none
  | some computation =>
    match computation.outcome? with
    | some outcome =>
      (agent.worker.finish? number outcome).map fun worker =>
        { agent with worker, computations := agent.computations.erase number }
    | none => agent.advance? number runner computation

/-- A step of the worker that leaves computations and world as they are. -/
def withWorker? (agent : Agent) (worker : Option Worker) : Option Agent :=
  worker.map fun worker => { agent with worker }

/-- The next move of a runner at its stage. -/
def moveAt? (agent : Agent) (number : Nat) (runner : Runner) : Stage → Option Agent
  | .waiting =>
    agent.withWorker?
      (if agent.worker.pool.closed then agent.worker.refuse? number
      else agent.worker.grant? number)
  | .admitted | .refused => agent.start? number
  | .working _ => agent.work? number runner
  | .ended _ => agent.withWorker? (agent.worker.commit? number)
  | .reporting _ => agent.withWorker? (agent.worker.report? number)
  | .leaving => agent.withWorker? (agent.worker.exit? number)
  | .gone => none

/-- The next move of a runner, if it can move. -/
def move? (agent : Agent) (number : Nat) : Option Agent :=
  match agent.worker.runners[number]? with
  | some runner => agent.moveAt? number runner runner.stage
  | none => none

/-- The move of the first runner that can move. -/
def firstMove? (agent : Agent) : Option Agent :=
  (List.range agent.worker.runners.length).findSome? agent.move?

/-- When the first rest is over that is waited for. -/
def wakeTime? (patient : Bool) (agent : Agent) : Option Nat :=
  (agent.computations.values.filterMap (Computation.wakeTime? patient)).min?

/-- A move of the agent, if one can be made. -/
def step? (patient : Bool) (agent : Agent) : Option Agent :=
  match agent.firstMove? with
  | some moved => some moved
  | none =>
    match agent.wakeTime? patient with
    | some time => { agent with world := { agent.world with now := time } }.firstMove?
    | none => none

/-- How many moves a task takes that has not begun, beyond those of its runner. -/
def jobCost (registry : Registry) (submission : Submission) : Nat :=
  match registry.find? submission.config.name with
  | some definition => (beginning submission definition).cost
  | none => 0

/-- How many moves a runner takes at most. -/
def runnerCost (agent : Agent) (number : Nat) (runner : Runner) : Nat :=
  match runner.stage with
  | .waiting => jobCost agent.worker.registry runner.submission + 6
  | .admitted => jobCost agent.worker.registry runner.submission + 5
  | .refused => 5
  | .working _ => ((agent.computations.find? number).map Computation.cost).getD 0 + 4
  | .ended _ => 3
  | .reporting _ => 2
  | .leaving => 1
  | .gone => 0

/-- How many moves runners take at most of which the first has the number `number`. -/
def totalCost (agent : Agent) (number : Nat) : List Runner → Nat
  | [] => 0
  | runner :: rest => agent.runnerCost number runner + agent.totalCost (number + 1) rest

/-- How many moves the agent makes at most until none is left. -/
def cost (agent : Agent) : Nat := agent.totalCost 0 agent.worker.runners

/-- The agent after at most so many moves. -/
def moveUpTo (patient : Bool) : Nat → Agent → Agent
  | 0, agent => agent
  | moves + 1, agent =>
    match agent.step? patient with
    | some moved => moveUpTo patient moves moved
    | none => agent

/-- The agent when only gates and long rests keep computations from going on. -/
def settle (agent : Agent) : Agent := moveUpTo false agent.cost agent

/-- The agent when only gates keep computations from going on. -/
def finish (agent : Agent) : Agent := moveUpTo true agent.cost agent

def openGate (agent : Agent) (gate : String) : Agent :=
  { agent with world := { agent.world with gates := gate :: agent.world.gates } }

end Agent

end TaskAgent
