import TaskAgent.Decimal.Numeral

/-!
# Options

What can be set when an agent is started: each option has a name on the command line, an
environment variable and, except for the host, a value of its own when neither is given.

Numbers are written with digits and an optional plus sign; a port may also have a minus sign,
which only zero can bear.
-/

namespace TaskAgent

open Decimal

/-- The options, in the order in which they are declared. -/
inductive OptionName where
  /-- The address of the master. -/
  | masterUrl
  /-- How many tasks run at a time. -/
  | poolSize
  /-- The host under which the agent is announced. -/
  | host
  /-- The port for calls. -/
  | rpcPort
  | dataPort
  /-- The time between heartbeats, in milliseconds. -/
  | heartbeatInterval
  /-- The directory in which tasks work. -/
  | scratchDir
deriving DecidableEq, Repr

namespace OptionName

/-- Every option, in the order in which the environment is looked through. -/
def all : List OptionName :=
  [masterUrl, poolSize, host, rpcPort, dataPort, heartbeatInterval, scratchDir]

/-- The name of an option on the command line, after two dashes. -/
def long : OptionName → String
  | masterUrl => "master-url"
  | poolSize => "pool-size"
  | host => "host"
  | rpcPort => "rpc-port"
  | dataPort => "data-port"
  | heartbeatInterval => "heartbeat-interval-ms"
  | scratchDir => "scratch-dir"

/-- The environment variable of an option. -/
def environmentName : OptionName → String
  | masterUrl => "MASTER_URL"
  | poolSize => "WORKER_POOL_SIZE"
  | host => "WORKER_HOST"
  | rpcPort => "WORKER_RPC_PORT"
  | dataPort => "WORKER_DATA_PORT"
  | heartbeatInterval => "HEARTBEAT_INTERVAL_MS"
  | scratchDir => "WORKER_SCRATCH_DIR"

/-- The option of that name on the command line. -/
def ofLong? (name : List Char) : Option OptionName :=
  all.find? fun option => option.long.toList == name

end OptionName

/-- The values of all options. -/
structure Options where
  /-- The address of the master. -/
  masterUrl : String := "http://localhost:8080"
  /-- How many tasks run at a time. -/
  poolSize : UInt64 := 2
  /-- The host under which the agent is announced, if one is given. -/
  host : Option String := none
  /-- The port for calls. -/
  rpcPort : UInt16 := 29998
  dataPort : UInt16 := 29999
  /-- The time between heartbeats, in milliseconds. -/
  heartbeatIntervalMs : UInt64 := 1000
  /-- The directory in which tasks work. -/
  scratchDir : String := "/data/tmp"
deriving DecidableEq

/-- Why a command line is refused. -/
inductive Refusal where
  /-- An argument that is no option, or a value where none is expected. -/
  | unknownArgument
  /-- An option without its value, or an empty directory. -/
  | missingValue
  /-- A value that is not of the kind the option takes. -/
  | invalidValue
  /-- An option given twice. -/
  | repeatedOption
  /-- A value attached to an option that takes none. -/
  | unneededValue
  /-- Not a fault: the help was asked for. -/
  | helpAsked
deriving DecidableEq, Repr

def digitsNumber? (digits : List Char) : Option Nat :=
  if digits.isEmpty || !digits.all Char.isDigit then none else some (ofDigits digits)

/-- A number written with digits and perhaps a plus sign. -/
def unsignedNumber? (text : String) : Option Nat :=
  match text.toList with
  | '+' :: digits => digitsNumber? digits
  | digits => digitsNumber? digits

/-- A natural number written with digits and perhaps a sign; minus goes with zero alone. -/
def signedNumber? (text : String) : Option Nat :=
  match text.toList with
  | '-' :: digits =>
    match digitsNumber? digits with
    | some 0 => some 0
    | _ => none
  | _ => unsignedNumber? text

/-- A number of 64 bits. -/
def wordValue (text : String) : Except Refusal UInt64 :=
  match unsignedNumber? text with
  | some value => if value < UInt64.size then .ok (UInt64.ofNat value) else .error .invalidValue
  | none => .error .invalidValue

/-- A port. -/
def portValue (text : String) : Except Refusal UInt16 :=
  match signedNumber? text with
  | some value => if value < UInt16.size then .ok (UInt16.ofNat value) else .error .invalidValue
  | none => .error .invalidValue

/-- The options with one of them set to the value that a text gives. -/
def Options.set (options : Options) (name : OptionName) (text : String) :
    Except Refusal Options :=
  match name with
  | .masterUrl => .ok { options with masterUrl := text }
  | .poolSize => (wordValue text).map fun value => { options with poolSize := value }
  | .host => .ok { options with host := some text }
  | .rpcPort => (portValue text).map fun value => { options with rpcPort := value }
  | .dataPort => (portValue text).map fun value => { options with dataPort := value }
  | .heartbeatInterval =>
    (wordValue text).map fun value => { options with heartbeatIntervalMs := value }
  | .scratchDir =>
    if text.isEmpty then .error .missingValue else .ok { options with scratchDir := text }

end TaskAgent
