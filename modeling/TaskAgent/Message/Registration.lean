import TaskAgent.Address

/-!
# Registration

An agent makes itself known to the master with its address and the number of its slots, and is
given a number.
-/

namespace TaskAgent

/-- The number under which the master knows an agent. -/
abbrev AgentId := Int64

/-- What an agent sends to be registered. -/
structure Registration where
  /-- Where the agent can be reached. -/
  address : Address
  /-- How many tasks it runs at a time. -/
  poolSize : UInt32
deriving DecidableEq, Inhabited

namespace Registration

/-- A registration as a message. -/
def toJson (registration : Registration) : Json :=
  .object [("address", registration.address.toJson),
    ("pool_size", .ofNat registration.poolSize.toNat)]

def read? : Nat → Json.Written → Option Registration :=
  Json.Written.record? ["address", "pool_size"] fun inner fields =>
    match Json.Written.required? fields "address" (Address.read? inner),
      Json.Written.required? fields "pool_size" Json.Written.uint32? with
    | some address, some poolSize => some ⟨address, poolSize⟩
    | _, _ => none

end Registration

/-- What the master answers to a registration. -/
structure Registered where
  /-- The number of the agent from now on. -/
  agent : AgentId
deriving DecidableEq, Inhabited

namespace Registered

/-- The answer as a message. -/
def toJson (registered : Registered) : Json :=
  .object [("worker_id", .integer registered.agent.toInt)]

def read? : Nat → Json.Written → Option Registered :=
  Json.Written.record? ["worker_id"] fun _ fields =>
    (Json.Written.required? fields "worker_id" Json.Written.int64?).map Registered.mk

end Registered

end TaskAgent
