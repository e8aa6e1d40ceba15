import TaskAgent.Address
import TaskAgent.Task.Key

/-!
# Task records

What the master is told about a task: its status, the result of a task that completed, the
message of one that failed, and the agent that reports it. A record is made with status
`running`; a later record of the same task has one of the three final statuses.
-/

namespace TaskAgent

/-- Where a task stands. -/
inductive Status where
  /-- Accepted, perhaps still waiting for a slot. -/
  | running
  /-- Ended with a result. -/
  | completed
  /-- Ended with an error. -/
  | failed
  /-- Called off before it ended. -/
  | canceled
deriving DecidableEq, Inhabited

namespace Status

/-- The word for a status, in messages and for people. -/
def word : Status → String
  | running => "RUNNING"
  | completed => "COMPLETED"
  | failed => "FAILED"
  | canceled => "CANCELED"

def isFinal : Status → Bool
  | running => false
  | completed | failed | canceled => true

/-- The status a word stands for. -/
def ofWord? (word : String) : Option Status :=
  [running, completed, failed, canceled].find? fun status => status.word == word

/-- Reads a status: its word, or an object with the word as its only member and no value. -/
def read? : Nat → Json.Written → Option Status
  | _, .string (some word) => ofWord? word
  | _ + 1, .object [(some word, .null)] => ofWord? word
  | _, _ => none

end Status

/-- The record of a task. -/
structure TaskRecord where
  /-- The task. -/
  key : TaskKey
  /-- Where it stands. -/
  status : Status
  /-- Its result; only a completed task has one. -/
  result : Option Json
  /-- Its error; only a failed task has one. -/
  errorMessage : Option String
  /-- The agent that reports it. -/
  address : Address
deriving Inhabited

namespace TaskRecord

/-- The record of a task just accepted. -/
def running (key : TaskKey) (address : Address) : TaskRecord :=
  ⟨key, .running, none, none, address⟩

/-- The record of the task after it ended with a result. -/
def complete (record : TaskRecord) (result : Json) : TaskRecord :=
  { record with status := .completed, result := some result }

/-- The record of the task after it ended with an error; an empty message is left out. -/
def fail (record : TaskRecord) (message : String) : TaskRecord :=
  { record with
    status := .failed
    errorMessage := if message.isEmpty then record.errorMessage else some message }

/-- The record of the task after it was called off. -/
def cancel (record : TaskRecord) : TaskRecord := { record with status := .canceled }

/-- Whether nothing but acceptance has happened to the task. -/
def isFresh (record : TaskRecord) : Bool :=
  record.status == .running && record.result.isNone && record.errorMessage.isNone

def optionalField (name : String) : Option Json → List (String × Json)
  | some value => [(name, value)]
  | none => []

/-- A record as a message; a missing result or error is left out. -/
def toJson (record : TaskRecord) : Json :=
  .object (record.key.fields ++ [("status", .string record.status.word)] ++
    optionalField "result" record.result ++
    optionalField "error_message" (record.errorMessage.map .string) ++
    [("worker_address", record.address.toJson)])

/-- Reads a record; a result or error that is `null` counts as missing. -/
def read? : Nat → Json.Written → Option TaskRecord :=
  Json.Written.record?
    ["job_id", "task_id", "status", "result", "error_message", "worker_address"]
    fun inner fields =>
      match Json.Written.required? fields "job_id" Json.Written.int64?,
        Json.Written.required? fields "task_id" Json.Written.int64?,
        Json.Written.required? fields "status" (Status.read? inner),
        Json.Written.optional? fields "result" none
          (Json.Written.orNull? (Json.Written.value? inner)),
        Json.Written.optional? fields "error_message" none
          (Json.Written.orNull? Json.Written.text?),
        Json.Written.required? fields "worker_address" (Address.read? inner) with
      | some job, some task, some status, some result, some errorMessage, some address =>
        some ⟨⟨job, task⟩, status, result, errorMessage, address⟩
      | _, _, _, _, _, _ => none

end TaskRecord

end TaskAgent
