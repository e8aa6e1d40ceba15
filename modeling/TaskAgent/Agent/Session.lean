import TaskAgent.Agent.Exchange

/-!
# Sessions

A session drives one agent by hand, action by action, and tells after each what came of it. The
agent moves only when an action lets it: between actions submitted tasks wait and interrupted
ones stand still.

Records that were handed over can be kept under a name and taken back later. A master is scripted
anew for every action that talks to one.
-/

namespace TaskAgent

/-- What can be done in a session. -/
inductive Action where
  | submit (submission : Submission)
  | settle
  /-- Open a gate; the agent settles before and after. -/
  | release (gate : String)
  /-- Call a task off. -/
  | cancel (key : TaskKey)
  | complete (key : TaskKey) (result : Json)
  | fail (key : TaskKey) (message : String)
  /-- Hand over the records that changed and keep them under a name, if one is given. -/
  | drain (name : Option String)
  /-- Take records back. -/
  | restore (records : List TaskRecord)
  /-- Take back the records kept under a name. -/
  | restoreKept (name : String)
  /-- Tell the records of the tasks in flight. -/
  | unfinished
  /-- Tell the address of the agent and the number of its slots. -/
  | address
  | close
  /-- Make a job known. -/
  | registerJob (name : String) (definition : Definition)
  /-- Tell the names of the known jobs. -/
  | jobNames
  | register (replies : List Reply)
  | beat (replies : List Reply)
  /-- Register until it succeeds; `asked` tells whether a shutdown was asked for before. -/
  | registerUntilOk (replies : List Reply) (asked : Bool)
  /-- Beat until the replies are used up and begin with a new reporter. -/
  | beatUntilShutDown (replies : List Reply)

/-- What comes of an action. -/
inductive Answer where
  | nothing
  /-- The report about a task was refused. -/
  | violation (fault : Violation)
  | records (records : List TaskRecord)
  /-- The address of the agent and the number of its slots. -/
  | address (address : Address) (poolSize : Nat)
  | names (names : List String)
  /-- The number that a registration gave, and the requests. -/
  | registered (result : Except MasterError (Option AgentId)) (log : List (String × Request))
  /-- How a beat went, and the requests. -/
  | beaten (result : Except MasterError Unit) (log : List (String × Request))
  /-- The number that the agent was given at last, if it was, and the requests. -/
  | joined (agent : Option AgentId) (log : List (String × Request))
  | beats (log : List (String × Request))

/-- An agent driven by hand. -/
structure Session where
  agent : Agent
  kept : Ledger String (List TaskRecord)
  /-- The address of the master. -/
  base : String
  reachable : Bool

namespace Session

/-- The directory for the temporary files of tasks that are run on order. -/
def orderScratch : String := "hb-scratch"

/-- A change of the worker alone. -/
def onWorker (session : Session) (change : Worker → Worker) : Session :=
  { session with agent := { session.agent with worker := change session.agent.worker } }

/-- The session after a report about a task, and whether the report was refused. -/
def reported (session : Session) (after : Except Violation Worker) : Answer × Session :=
  match after with
  | .ok worker => (.nothing, session.onWorker fun _ => worker)
  | .error fault => (.violation fault, session)

/-- The exchange with a master that has the given replies. -/
def exchange (session : Session) (replies : List Reply) (ending : Ending) : Exchange :=
  ⟨session.agent, ⟨session.base, session.reachable, replies, ending, []⟩, orderScratch⟩

def after (session : Session) (exchange : Exchange) : Session :=
  { session with agent := exchange.agent }

def settle (session : Session) : Session := { session with agent := session.agent.settle }

/-- Does one action. -/
def perform (session : Session) : Action → Answer × Session
  | .submit submission => (.nothing, session.onWorker (·.submit submission))
  | .settle => (.nothing, session.settle)
  | .release gate =>
    let settled := session.settle
    (.nothing, { settled with agent := settled.agent.openGate gate }.settle)
  | .cancel key => (.nothing, session.onWorker (·.cancel key))
  | .complete key result => session.reported (session.agent.worker.complete key result)
  | .fail key message => session.reported (session.agent.worker.fail key message)
  | .drain name =>
    let (records, worker) := session.agent.worker.drain
    let drained := session.onWorker fun _ => worker
    match name with
    | some name => (.records records, { drained with kept := drained.kept.insert name records })
    | none => (.records records, drained)
  | .restore records => (.nothing, session.onWorker (·.restore records))
  | .restoreKept name =>
    (.nothing, session.onWorker (·.restore ((session.kept.find? name).getD [])))
  | .unfinished => (.records session.agent.worker.tracker.unfinishedTasks, session)
  | .address =>
    (.address session.agent.worker.tracker.address session.agent.worker.pool.size, session)
  | .close => (.nothing, session.onWorker (·.close))
  | .registerJob name definition => (.nothing, session.onWorker (·.register name definition))
  | .jobNames => (.names session.agent.worker.registry.keys, session)
  | .register replies =>
    let (result, exchange) := (session.settle.exchange replies .goesOn).register
    (.registered (result.map some) exchange.master.log,
      session.after exchange.settle)
  | .beat replies =>
    let (result, exchange) := (session.settle.exchange replies .goesOn).beat
    (.beaten result exchange.master.log, session.after exchange.settle)
  | .registerUntilOk replies asked =>
    let (number, exchange) :=
      (session.settle.exchange replies .shutsDown).registerUntilOk asked
    (.joined number exchange.master.log,
      session.after exchange.settle)
  | .beatUntilShutDown replies =>
    let exchange := (session.settle.exchange replies .shutsDown).beatUntilShutDown.settle
    let ended := session.after exchange
    (.beats exchange.master.log, { ended with agent := { ended.agent with reporter := .new } })

/-- Does actions in turn and tells, for each, what came of it and the session after it. -/
def performAll (session : Session) : List Action → List (Answer × Session)
  | [] => []
  | action :: rest =>
    let (answer, changed) := session.perform action
    (answer, changed) :: changed.performAll rest

end Session

end TaskAgent
