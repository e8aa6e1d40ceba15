import TaskAgent.Files.Fault
import TaskAgent.Job.Arguments

/-!
# Failures

Why a job ends without a result (`JobError`), and why a task does (`TaskFailure`): a task may
also fail before or beside its job. The message of a task failure is what the master is told.
-/

namespace TaskAgent

/-- Why a job ends without a result. -/
inductive JobError where
  /-- A reason in the words of the job. -/
  | reason (text : String)
  /-- The task was called off. -/
  | interrupted
  /-- The task was called off while a file was read. -/
  | readingInterrupted (path : String)
  | file (fault : FileFault)
  | arguments (fault : ArgumentFault)
  /-- An error and what was being done when it came up. -/
  | within (activity : String) (cause : JobError)

/-- The message for an error, outermost activity first. -/
def JobError.message : JobError → String
  | reason text => text
  | interrupted => "la tarea fue interrumpida"
  | readingInterrupted path => "interrumpida leyendo " ++ path
  | file fault => fault.message
  | arguments fault => fault.message
  | within activity cause => activity ++ ": " ++ cause.message

/-- Why a task ends without a result. -/
inductive TaskFailure where
  /-- Its job is not known. -/
  | unknownJob (name : String)
  /-- It came to a pool that was closed. -/
  | poolClosed
  | job (error : JobError)
  /-- Its job broke down, perhaps with a text. -/
  | brokeDown (text : Option String)

namespace TaskFailure

/-- How a job broke down. -/
def breakdown : Option String → String
  | some text => "task # panicked with message " ++ Text.quoted text
  | none => "task # panicked"

def message : TaskFailure → String
  | unknownJob name => "no hay definición registrada para el job '" ++ name ++ "'"
  | poolClosed => "el pool de ejecución está cerrado"
  | job error => error.message
  | brokeDown text => "la tarea terminó de forma inesperada: " ++ breakdown text

end TaskFailure

/-- How a task ends by itself. -/
abbrev Outcome := Except TaskFailure Json

end TaskAgent
