import TaskAgent.Message.Command
import TaskAgent.Message.Registration
import TaskAgent.Task.Record

/-!
# Heartbeats

At every beat an agent tells the master how it is and which records changed, and is given
commands.
-/

namespace TaskAgent

open Decimal

/-- The state of an agent and of the machine it runs on. -/
structure Health where
  /-- The load of the processors, in hundredths of their capacity. -/
  cpuPercent : Floating
  /-- The memory in use. -/
  memoryBytes : UInt64
  loadOne : Floating
  loadFive : Floating
  loadFifteen : Floating
  /-- The number of slots. -/
  poolSize : UInt32
  /-- The number of slots in use. -/
  activeTasks : UInt32
  /-- The number of tasks that have not ended. -/
  unfinishedTasks : UInt32

namespace Health

/-- A state as a message. -/
def toJson (health : Health) : Json :=
  .object [("cpu_percent", .real health.cpuPercent),
    ("mem_bytes", .ofNat health.memoryBytes.toNat),
    ("load_average",
      .array [.real health.loadOne, .real health.loadFive, .real health.loadFifteen]),
    ("pool_size", .ofNat health.poolSize.toNat),
    ("active_tasks", .ofNat health.activeTasks.toNat),
    ("unfinished_tasks", .ofNat health.unfinishedTasks.toNat)]

/-- Whether every figure is zero, of either sign. -/
def isZero (health : Health) : Bool :=
  health.cpuPercent.magnitude.isZero && health.memoryBytes == 0 &&
    health.loadOne.magnitude.isZero && health.loadFive.magnitude.isZero &&
    health.loadFifteen.magnitude.isZero && health.poolSize == 0 && health.activeTasks == 0 &&
    health.unfinishedTasks == 0

/-- Reads a state; the load is a list of exactly three numbers. -/
def read? : Nat → Json.Written → Option Health :=
  Json.Written.record?
    ["cpu_percent", "mem_bytes", "load_average", "pool_size", "active_tasks",
      "unfinished_tasks"]
    fun inner fields =>
      match Json.Written.required? fields "cpu_percent" (Json.Written.floating? .single),
        Json.Written.required? fields "mem_bytes" Json.Written.uint64?,
        Json.Written.required? fields "load_average"
          (Json.Written.list? (fun _ => Json.Written.floating? .double) inner),
        Json.Written.required? fields "pool_size" Json.Written.uint32?,
        Json.Written.required? fields "active_tasks" Json.Written.uint32?,
        Json.Written.required? fields "unfinished_tasks" Json.Written.uint32? with
      | some cpuPercent, some memoryBytes, some [one, five, fifteen], some poolSize,
          some activeTasks, some unfinishedTasks =>
        some ⟨cpuPercent, memoryBytes, one, five, fifteen, poolSize, activeTasks,
          unfinishedTasks⟩
      | _, _, _, _, _, _ => none

end Health

/-- What an agent sends at a beat. -/
structure Heartbeat where
  agent : AgentId
  /-- How it is. -/
  health : Health
  /-- The records that changed since the last heartbeat that arrived. -/
  records : List TaskRecord

namespace Heartbeat

/-- A heartbeat as a message. -/
def toJson (heartbeat : Heartbeat) : Json :=
  .object [("worker_id", .integer heartbeat.agent.toInt), ("health", heartbeat.health.toJson),
    ("task_infos", .array (heartbeat.records.map TaskRecord.toJson))]

def read? : Nat → Json.Written → Option Heartbeat :=
  Json.Written.record? ["worker_id", "health", "task_infos"] fun inner fields =>
    match Json.Written.required? fields "worker_id" Json.Written.int64?,
      Json.Written.required? fields "health" (Health.read? inner),
      Json.Written.required? fields "task_infos"
        (Json.Written.list? TaskRecord.read? inner) with
    | some agent, some health, some records => some ⟨agent, health, records⟩
    | _, _, _ => none

end Heartbeat

/-- What the master answers to a heartbeat that it accepts. -/
structure Orders where
  /-- The commands, in the order in which they are to be carried out. -/
  commands : List Command
deriving Inhabited

namespace Orders

/-- The answer as a message. -/
def toJson (orders : Orders) : Json :=
  .object [("commands", .array (orders.commands.map Command.toJson))]

/-- Reads the answer; without commands it asks for nothing. -/
def read? : Nat → Json.Written → Option Orders :=
  Json.Written.record? ["commands"] fun inner fields =>
    (Json.Written.optional? fields "commands" []
      (Json.Written.list? Command.read? inner)).map Orders.mk

end Orders

end TaskAgent
