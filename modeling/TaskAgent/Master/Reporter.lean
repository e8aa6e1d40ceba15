import TaskAgent.Master.Reply
import TaskAgent.Worker.State

/-!
# Reporters

A reporter keeps the master informed about a worker. It has at most one request under way, and it
moves only when it is asked to register or to beat, or when the reply to its request comes; the
worker may do anything in between.

A heartbeat takes the changed records along. When it does not arrive they are restored, so no
record is lost; records that changed in the meantime are newer and stay. The orders that come
back are carried out in turn, and an order to register again is carried out after all others, so
that a failed registration keeps no task from being started.
-/

namespace TaskAgent

open Decimal

/-- What the machine says of itself. -/
structure MachineFigures where
  /-- The load of the processors, in hundredths of their capacity. -/
  cpuPercent : Floating
  /-- The memory in use. -/
  memoryBytes : UInt64
  /-- The mean load over one minute. -/
  loadOne : Floating
  /-- The mean load over five minutes. -/
  loadFive : Floating
  /-- The mean load over fifteen minutes. -/
  loadFifteen : Floating

/-- A message to the master. -/
inductive Request where
  /-- To make the agent known. -/
  | registration (message : Registration)
  /-- To tell how it is. -/
  | heartbeat (message : Heartbeat)

namespace Request

/-- Where a message is sent to, below the address of the master. -/
def path : Request → String
  | registration _ => "/api/v1/workers/register"
  | heartbeat _ => "/api/v1/workers/heartbeat"

/-- What is sent. -/
def body : Request → Json
  | registration message => message.toJson
  | heartbeat message => message.toJson

end Request

/-- What a reporter waits for. -/
inductive Phase where
  /-- For nothing. -/
  | idle
  /-- For the reply to a registration, and whether it beats afterwards. -/
  | registering (beats : Bool)
  /-- For the reply to a heartbeat of the agent with these records. -/
  | beating (agent : AgentId) (records : List TaskRecord)

/-- What keeps the master informed. -/
structure Reporter where
  /-- The number of the agent, if it has one. -/
  agent : Option AgentId
  /-- What it waits for. -/
  phase : Phase

/-- What comes of a move of a reporter. -/
inductive Turn where
  /-- A request is sent. -/
  | ask (request : Request)
  /-- What it was asked to do is done. -/
  | done (result : Except MasterError Unit)

/-- A reporter and its worker after a move, and what comes of it. -/
structure Progress where
  /-- The reporter. -/
  reporter : Reporter
  /-- The worker. -/
  worker : Worker
  /-- What comes of the move. -/
  turn : Turn

/-- What is sent to register a worker. -/
def Worker.registration (worker : Worker) : Registration :=
  ⟨worker.tracker.address, UInt32.ofNat worker.pool.size⟩

/-- How a worker on a machine is. -/
def Worker.health (worker : Worker) (figures : MachineFigures) : Health :=
  { cpuPercent := figures.cpuPercent
    memoryBytes := figures.memoryBytes
    loadOne := figures.loadOne
    loadFive := figures.loadFive
    loadFifteen := figures.loadFifteen
    poolSize := UInt32.ofNat worker.pool.size
    activeTasks := UInt32.ofNat worker.pool.active
    unfinishedTasks := UInt32.ofNat worker.tracker.unfinishedCount }

/-- Carries out an order; an order to register again changes nothing here. -/
def Worker.obey (scratch : String) (worker : Worker) : Command → Worker
  | .run key config arguments => worker.submit ⟨key, config, arguments, scratch⟩
  | .cancel key => worker.cancel key
  | .register => worker

/-- Whether an order is to register again. -/
def Command.isRegister : Command → Bool
  | register => true
  | _ => false

namespace Reporter

/-- A reporter of an agent that the master does not know. -/
def new : Reporter := ⟨none, .idle⟩

/-- Registers the worker. -/
def register (reporter : Reporter) (beats : Bool) (worker : Worker) : Progress :=
  ⟨{ reporter with phase := .registering beats }, worker,
    .ask (.registration worker.registration)⟩

/-- Sends a heartbeat with the records that changed. -/
def send (reporter : Reporter) (figures : MachineFigures) (agent : AgentId) (worker : Worker) :
    Progress :=
  let (records, drained) := worker.drain
  ⟨{ reporter with phase := .beating agent records }, drained,
    .ask (.heartbeat ⟨agent, drained.health figures, records⟩)⟩

/-- Beats: sends a heartbeat, after a registration if the agent has no number. -/
def beat (reporter : Reporter) (figures : MachineFigures) (worker : Worker) : Progress :=
  match reporter.agent with
  | some agent => reporter.send figures agent worker
  | none => reporter.register true worker

/-- What the reply to a registration gives, and the reporter with the number that it has then. -/
def enroll (reporter : Reporter) (reply : Reply) : Except MasterError AgentId × Reporter :=
  match reply.registered with
  | .ok agent => (.ok agent, ⟨some agent, .idle⟩)
  | .error error => (.error error, ⟨reporter.agent, .idle⟩)

/-- Ends what it was asked to do. -/
def conclude (reporter : Reporter) (worker : Worker) (result : Except MasterError Unit) :
    Progress :=
  ⟨{ reporter with phase := .idle }, worker, .done result⟩

/-- Carries out the orders that came with the reply to a heartbeat. -/
def obey (reporter : Reporter) (scratch : String) (worker : Worker) (orders : Orders) :
    Progress :=
  let obeyed := orders.commands.foldl (Worker.obey scratch) worker
  if orders.commands.any Command.isRegister then
    { reporter with agent := none }.register false obeyed
  else reporter.conclude obeyed (.ok ())

/-- Takes the reply to the request under way; `scratch` is the directory for the temporary files
of tasks that are run on order. -/
def hear (reporter : Reporter) (scratch : String) (figures : MachineFigures) (worker : Worker)
    (reply : Reply) : Progress :=
  match reporter.phase with
  | .idle => reporter.conclude worker (.ok ())
  | .registering beats =>
    match reporter.enroll reply with
    | (.ok agent, known) =>
      if beats then known.send figures agent worker else known.conclude worker (.ok ())
    | (.error error, known) => known.conclude worker (.error error)
  | .beating _ records =>
    match reply.orders with
    | .ok (some orders) => reporter.obey scratch worker orders
    | .ok none =>
      { reporter with agent := none }.register false (worker.restore records)
    | .error error => reporter.conclude (worker.restore records) (.error error)

end Reporter

end TaskAgent
