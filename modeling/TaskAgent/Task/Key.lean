import TaskAgent.Json.Record
import TaskAgent.Json.Printer

/-!
# Task keys

A task is identified by the number of its job and its number within the job. Keys are ordered by
job first.
-/

namespace TaskAgent

/-- The identity of a task. -/
structure TaskKey where
  job : Int64
  /-- The number of the task within its job. -/
  task : Int64
deriving DecidableEq, Inhabited

namespace TaskKey

instance : Ord TaskKey := ⟨compareLex (compareOn job) (compareOn task)⟩

instance : Std.TransOrd TaskKey :=
  inferInstanceAs <| Std.TransCmp (compareLex (compareOn job) (compareOn task))

instance : Std.LawfulEqOrd TaskKey where
  compare_self {key} :=
    @Std.ReflCmp.compare_self _ (compareLex (compareOn job) (compareOn task)) inferInstance key
  eq_of_compare {first second} equal := by
    change compareLex (compareOn job) (compareOn task) first second = .eq at equal
    rw [compareLex_eq_eq] at equal
    have jobs : first.job = second.job := Std.LawfulEqCmp.eq_of_compare equal.1
    have tasks : first.task = second.task := Std.LawfulEqCmp.eq_of_compare equal.2
    cases first; cases second; simp_all

/-- How a key is shown to people. -/
def display (key : TaskKey) : String :=
  "tarea " ++ toString key.task ++ " del job " ++ toString key.job

/-- The fields of a key in a message. -/
def fields (key : TaskKey) : List (String × Json) :=
  [("job_id", .integer key.job.toInt), ("task_id", .integer key.task.toInt)]

/-- A key as a message. -/
def toJson (key : TaskKey) : Json := .object key.fields

def read? : Nat → Json.Written → Option TaskKey :=
  Json.Written.record? ["job_id", "task_id"] fun _ fields =>
    match Json.Written.required? fields "job_id" Json.Written.int64?,
      Json.Written.required? fields "task_id" Json.Written.int64? with
    | some job, some task => some ⟨job, task⟩
    | _, _ => none

end TaskKey

end TaskAgent
