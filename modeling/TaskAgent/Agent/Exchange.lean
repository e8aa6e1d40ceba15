import TaskAgent.Agent.State
import TaskAgent.Master.Scripted

/-!
# Exchanges with a master

How an agent talks to a scripted master until what its reporter was asked to do is done. A
registration takes one request and gives a number; a heartbeat takes at most three: a registration
before it, the heartbeat, and a registration after it.
-/

namespace TaskAgent

/-- An agent and the master it talks to. -/
structure Exchange where
  agent : Agent
  master : ScriptedMaster
  /-- The directory for the temporary files of tasks that are run on order. -/
  scratch : String

namespace Exchange

/-- The number of requests that the longest exchange takes. -/
def longest : Nat := 3

/-- The agent with the reporter and the worker after a move of the reporter. -/
def taken (exchange : Exchange) (progress : Progress) : Exchange :=
  { exchange with
    agent := { exchange.agent with reporter := progress.reporter, worker := progress.worker } }

/-- Goes on until the reporter is done, for at most so many requests. -/
def follow (exchange : Exchange) (progress : Progress) :
    Nat → Except MasterError Unit × Exchange
  | 0 => (.ok (), exchange.taken progress)
  | requests + 1 =>
    match progress.turn with
    | .done result => (result, exchange.taken progress)
    | .ask request =>
      let (reply, master) := exchange.master.serve request
      follow { exchange with master }
        (progress.reporter.hear exchange.scratch exchange.agent.figures progress.worker reply)
        requests

/-- The agent registers once and takes the number that it is given. -/
def register (exchange : Exchange) : Except MasterError AgentId × Exchange :=
  let (reply, master) := exchange.master.serve (.registration exchange.agent.worker.registration)
  let (result, reporter) := exchange.agent.reporter.enroll reply
  (result, { exchange with agent := { exchange.agent with reporter }, master })

def beat (exchange : Exchange) : Except MasterError Unit × Exchange :=
  exchange.follow (exchange.agent.reporter.beat exchange.agent.figures exchange.agent.worker)
    (longest + 1)

def settle (exchange : Exchange) : Exchange :=
  { exchange with agent := exchange.agent.settle }

/-- The agent registers again and again until it is given a number or a shutdown is asked for,
which it may have been before; at most so many times. -/
def registerUntil (asked : Bool) : Nat → Exchange → Option AgentId × Exchange
  | 0, exchange => (none, exchange)
  | attempts + 1, exchange =>
    match exchange.register with
    | (.ok number, exchange) => (some number, exchange)
    | (.error _, exchange) =>
      if asked || exchange.master.isShutDown then (none, exchange)
      else registerUntil asked attempts exchange

/-- The agent registers until it is given a number or a shutdown is asked for. -/
def registerUntilOk (asked : Bool) (exchange : Exchange) : Option AgentId × Exchange :=
  registerUntil asked (exchange.master.replies.length + 1) exchange

/-- The agent beats until a shutdown is asked for, at most so many times, and settles before
every beat. -/
def beatUntil : Nat → Exchange → Exchange
  | 0, exchange => exchange
  | beats + 1, exchange =>
    if exchange.master.isShutDown then exchange
    else beatUntil beats exchange.settle.beat.2

/-- The agent beats until a shutdown is asked for. -/
def beatUntilShutDown (exchange : Exchange) : Exchange :=
  beatUntil exchange.master.replies.length exchange

end Exchange

end TaskAgent
