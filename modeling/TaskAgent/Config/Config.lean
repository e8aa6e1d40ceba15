import TaskAgent.Address
import TaskAgent.Config.Options
import TaskAgent.Text.Blank

/-!
# Configuration

A configuration is made of options that hold what an agent needs: at least one slot, time between
heartbeats, a master that speaks the hypertext protocol, and a host to be announced under. Of
several faults the first in this order is reported.
-/

namespace TaskAgent

/-- What an agent runs with. -/
structure Config where
  /-- The address of the master, without slashes at its end. -/
  masterUrl : String
  /-- How many tasks run at a time. -/
  poolSize : UInt64
  /-- Where the agent can be reached. -/
  address : Address
  /-- The time between heartbeats, in milliseconds. -/
  heartbeatIntervalMs : UInt64
  /-- The directory in which tasks work. -/
  scratchDir : String
deriving DecidableEq

/-- Why options make no configuration. -/
inductive ConfigError where
  | noSlots
  /-- There is no time between heartbeats. -/
  | noInterval
  /-- The address of the master is of another kind. -/
  | notHypertext (url : String)
  /-- There is no name for the host. -/
  | noHost
deriving DecidableEq, Repr

namespace ConfigError

def field : ConfigError → String
  | noSlots => "pool_size"
  | noInterval => "heartbeat_interval_ms"
  | notHypertext _ => "master_url"
  | noHost => "host"

/-- What is wrong with the field. -/
def reason : ConfigError → String
  | noSlots => "debe ser al menos 1"
  | noInterval => "debe ser mayor a 0"
  | notHypertext url => "'" ++ url ++ "' no es una URL http(s)"
  | noHost => "no se pudo determinar el hostname"

def message (fault : ConfigError) : String :=
  "configuración inválida para " ++ fault.field ++ ": " ++ fault.reason

end ConfigError

/-- A text without the slashes at its end. -/
def withoutTrailingSlashes (text : String) : String :=
  String.ofList (text.toList.reverse.dropWhile (· == '/')).reverse

/-- Whether a text starts as the address of a hypertext server does. -/
def startsAsHypertext (text : String) : Bool :=
  "http://".toList.isPrefixOf text.toList || "https://".toList.isPrefixOf text.toList

/-- Whether a text has no character that shows. -/
def isBlankText (text : String) : Bool := text.toList.all Text.isBlank

/-- The host to be announced under: the one given, unless it is blank, or that of the machine. -/
def announcedHost (given : Option String) (machine : String) : String :=
  match given with
  | some host => if isBlankText host then machine else host
  | none => machine

namespace Config

/-- The configuration that options make on a machine of the given name. -/
def ofOptions (machine : String) (options : Options) : Except ConfigError Config :=
  let url := withoutTrailingSlashes options.masterUrl
  let host := announcedHost options.host machine
  if options.poolSize = 0 then .error .noSlots
  else if options.heartbeatIntervalMs = 0 then .error .noInterval
  else if !startsAsHypertext url then .error (.notHypertext url)
  else if host.isEmpty then .error .noHost
  else .ok ⟨url, options.poolSize, ⟨host, options.rpcPort, options.dataPort⟩,
    options.heartbeatIntervalMs, options.scratchDir⟩

end Config

end TaskAgent
