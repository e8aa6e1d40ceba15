import TaskAgent.Task.Key

/-!
# Commands

What the master asks of an agent: to run a task, to call one off, to register again.

The kind of a command is a member `type` of its object, at any place, or the first element of its
list. A command is taken in whole before its kind is known, so the limits of free values hold for
every member of it, also for those that its kind does not have.
-/

namespace TaskAgent

/-- The job that a task belongs to. -/
structure JobConfig where
  /-- The name of the definition that runs its tasks. -/
  name : String
deriving DecidableEq, Inhabited

namespace JobConfig

/-- A job as a message. -/
def toJson (config : JobConfig) : Json := .object [("name", .string config.name)]

def read? : Nat → Json.Written → Option JobConfig :=
  Json.Written.record? ["name"] fun _ fields =>
    (Json.Written.required? fields "name" Json.Written.text?).map JobConfig.mk

end JobConfig

/-- An order of the master. -/
inductive Command where
  /-- Run a task with the given arguments. -/
  | run (key : TaskKey) (config : JobConfig) (arguments : Json)
  /-- Call a task off. -/
  | cancel (key : TaskKey)
  | register
deriving Inhabited

namespace Command

/-- A command as a message, its kind first. -/
def toJson : Command → Json
  | run key config arguments =>
    .object (("type", .string "RUN_TASK") :: key.fields ++
      [("job_config", config.toJson), ("task_args", arguments)])
  | cancel key => .object (("type", .string "CANCEL_TASK") :: key.fields)
  | register => .object [("type", .string "REGISTER")]

/-- What is written as the kind of a command, and where its fields stand. -/
def tagged? : Json.Written → Option (Json.Written × Json.Written)
  | .array (tag :: rest) => some (tag, .array rest)
  | .object members =>
    match members.filter fun member => member.1 == some "type" with
    | [(_, tag)] => some (tag, .object members)
    | _ => none
  | _ => none

/-- Reads the fields of a command of the given kind. -/
def ofKind? (kind : String) : Nat → Json.Written → Option Command :=
  if kind = "RUN_TASK" then
    Json.Written.record? ["job_id", "task_id", "job_config", "task_args"] fun inner fields =>
      match Json.Written.required? fields "job_id" Json.Written.int64?,
        Json.Written.required? fields "task_id" Json.Written.int64?,
        Json.Written.required? fields "job_config" (JobConfig.read? inner),
        Json.Written.optional? fields "task_args" .null (Json.Written.value? inner) with
      | some job, some task, some config, some arguments =>
        some (run ⟨job, task⟩ config arguments)
      | _, _, _, _ => none
  else if kind = "CANCEL_TASK" then
    Json.Written.record? ["job_id", "task_id"] fun _ fields =>
      match Json.Written.required? fields "job_id" Json.Written.int64?,
        Json.Written.required? fields "task_id" Json.Written.int64? with
      | some job, some task => some (cancel ⟨job, task⟩)
      | _, _ => none
  else if kind = "REGISTER" then Json.Written.record? [] fun _ _ => some register
  else fun _ _ => none

def read? (allowance : Nat) (written : Json.Written) : Option Command :=
  match written.value? allowance, tagged? written with
  | some _, some (.string (some kind), body) => ofKind? kind allowance body
  | _, _ => none

end Command

end TaskAgent
