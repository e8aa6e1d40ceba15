import TaskAgent.Json.Record
import TaskAgent.Json.Printer

/-!
# Network addresses

Where an agent can be reached: a host and two ports, one for calls and one for data.
-/

namespace TaskAgent

/-- The address of an agent. -/
structure Address where
  host : String
  /-- The port for calls. -/
  rpcPort : UInt16
  dataPort : UInt16
deriving DecidableEq, Inhabited

namespace Address

/-- How an address is shown to people. -/
def display (address : Address) : String :=
  address.host ++ ":" ++ toString address.rpcPort ++ "/" ++ toString address.dataPort

/-- An address as a message. -/
def toJson (address : Address) : Json :=
  .object [("host", .string address.host), ("rpc_port", .ofNat address.rpcPort.toNat),
    ("data_port", .ofNat address.dataPort.toNat)]

def read? : Nat → Json.Written → Option Address :=
  Json.Written.record? ["host", "rpc_port", "data_port"] fun _ fields =>
    match Json.Written.required? fields "host" Json.Written.text?,
      Json.Written.required? fields "rpc_port" Json.Written.uint16?,
      Json.Written.required? fields "data_port" Json.Written.uint16? with
    | some host, some rpcPort, some dataPort => some ⟨host, rpcPort, dataPort⟩
    | _, _, _ => none

end Address

end TaskAgent
