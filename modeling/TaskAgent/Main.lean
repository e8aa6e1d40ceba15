import TaskAgent.Agent.Service
import TaskAgent.Config.CommandLine

/-!
# The program

Reads the command line and the environment and serves the master. The master is at the other end
of standard input and output: every request is written as one line, an object with `path` and
`body`, and every reply is read as one line, an object with `status` and the text of the `body`,
or with neither when the connection was lost. The end of the input asks for a shutdown.
-/

namespace TaskAgent.Program

/-- The time between attempts to register, in milliseconds. -/
def registerRetry : UInt32 := 2000

/-- The environment as far as options are looked up in it. -/
def readEnvironment : IO (List (String × String)) :=
  OptionName.all.filterMapM fun option => do
    return (← IO.getEnv option.environmentName).map fun value => (option.environmentName, value)

/-- The name of the machine, empty if it is not known. -/
def machineName : IO String := do
  try
    return (← IO.FS.readFile "/etc/hostname").trimAscii.toString
  catch _ => return ""

/-- What the help says. -/
def usage : String :=
  "Worker: ejecuta tareas y reporta su estado al master\n\n" ++
    String.join (OptionName.all.map fun option =>
      "      --" ++ option.long ++ " [env: " ++ option.environmentName ++ "]\n")

/-- The figures of a machine that says nothing of itself. -/
def noFigures : MachineFigures :=
  ⟨.ofInt .single 0, 0, .ofInt .double 0, .ofInt .double 0, .ofInt .double 0⟩

/-- The reply that a line stands for. -/
def replyOf (line : String) : Reply :=
  match Json.parse? line with
  | some value =>
    match value.member? "status", value.member? "body" with
    | some (.integer status), some (.string body) => Reply.answer status.toNat body
    | some (.integer status), none => Reply.answer status.toNat ""
    | _, _ => .lost
  | none => .lost

/-- Sends a request and waits for the reply; none when the input has ended. -/
def send (request : Request) : IO (Option Reply) := do
  let output ← IO.getStdout
  let message := Json.object [("path", .string request.path), ("body", request.body)]
  output.putStrLn message.render
  output.flush
  let line ← (← IO.getStdin).getLine
  return if line.isEmpty then none else some (replyOf line)

/-- The reply to a request that cannot reach a master out of the input. -/
def replyTo (config : Config) (request : Request) : IO (Option Reply) :=
  if Url.isUsable (config.masterUrl ++ request.path) then send request
  else return some .unsendable

/-- Goes on until the reporter is done; none when the input has ended. -/
partial def follow (config : Config) (agent : Agent) (progress : Progress) :
    IO (Option (Except MasterError Unit × Agent)) := do
  let agent := { agent with reporter := progress.reporter, worker := progress.worker }
  match progress.turn with
  | .done result => return some (result, agent)
  | .ask request =>
    match ← replyTo config request with
    | none => return none
    | some reply =>
      follow config agent
        (agent.reporter.hear config.scratchDir agent.figures agent.worker reply)

/-- Registers until it succeeds; none when the input has ended. -/
partial def join (config : Config) (agent : Agent) : IO (Option Agent) := do
  match ← follow config agent (agent.reporter.register false agent.worker) with
  | none => return none
  | some (.ok (), agent) => return some agent
  | some (.error _, agent) =>
    IO.sleep registerRetry
    join config agent

/-- Beats until the input ends. -/
partial def beats (config : Config) (agent : Agent) : IO Unit := do
  let agent := agent.settle
  match ← follow config agent (agent.reporter.beat agent.figures agent.worker) with
  | none => return
  | some (_, agent) =>
    IO.sleep (UInt32.ofNat config.heartbeatIntervalMs.toNat)
    beats config agent

def serve (config : Config) : IO UInt32 := do
  match Agent.ofConfig? config noFigures FileTree.initial with
  | .error fault =>
    IO.eprintln fault.message
    return 101
  | .ok agent =>
    match ← join config agent with
    | none => return 0
    | some agent =>
      beats config agent
      return 0

def run (arguments : List String) : IO UInt32 := do
  let environment ← readEnvironment
  match CommandLine.parse arguments fun name => environment.lookup name with
  | .error .helpAsked =>
    IO.print usage
    return 0
  | .error _ => return 2
  | .ok options =>
    match Config.ofOptions (← machineName) options with
    | .error fault =>
      IO.eprintln ("Error: " ++ fault.message)
      return 1
    | .ok config => serve config

end TaskAgent.Program

/-- The entry of the program. -/
def main (arguments : List String) : IO UInt32 := TaskAgent.Program.run arguments
