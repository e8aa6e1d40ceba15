import TaskAgent.Agent.Exchange
import TaskAgent.Config.Config

/-!
# Services

An agent in service: it registers at the master of its configuration, beats until a shutdown is
asked for, and then closes its pool, so that no waiting task is started any more.
-/

namespace TaskAgent

namespace Agent

/-- An agent without tasks. -/
def make (pool : Pool) (registry : Registry) (address : Address) (figures : MachineFigures)
    (files : FileTree) : Agent :=
  { worker := .make pool registry address
    computations := ∅
    world := ⟨[], ∅, files, 0⟩
    reporter := .new
    figures }

/-- The agent that a configuration describes, with the built-in jobs. -/
def ofConfig? (config : Config) (figures : MachineFigures) (files : FileTree) :
    Except PoolFault Agent :=
  (Pool.make? config.poolSize.toNat).map fun pool =>
    make pool .builtin config.address figures files

def close (agent : Agent) : Agent := { agent with worker := agent.worker.close }

end Agent

namespace Exchange

/-- The agent serves the master until a shutdown is asked for. -/
def serve (exchange : Exchange) : Exchange :=
  match exchange.registerUntilOk false with
  | (none, exchange) => exchange
  | (some _, exchange) =>
    let exchange := exchange.beatUntilShutDown
    { exchange with agent := exchange.agent.close }

end Exchange

/-- What becomes of an agent in service under a configuration, with given replies of its
master. -/
def Config.serve (config : Config) (figures : MachineFigures) (files : FileTree)
    (reachable : Bool) (replies : List Reply) : Except PoolFault Exchange :=
  (Agent.ofConfig? config figures files).map fun agent =>
    Exchange.serve
      ⟨agent, ⟨config.masterUrl, reachable, replies, .shutsDown, []⟩, config.scratchDir⟩

end TaskAgent
