import TaskAgent.Job.Failure

/-!
# Instructions

What jobs are made of. A job is a list of instructions; those that have a body of their own are
sections, in which a result or an error first meets the section.

Every instruction has a cost, which bounds the steps that it takes to carry it out.
-/

namespace TaskAgent

/-- The jobs that every agent knows. -/
inductive Builtin where
  /-- Does nothing. -/
  | noop
  /-- Gives its arguments back. -/
  | echo
  /-- Rests for a while, unless it is called off. -/
  | sleep
  /-- Works for a while in a shielded section. -/
  | busy
  | fail
  | wordCount
deriving DecidableEq, Inhabited

/-- A step of a job. -/
inductive Instruction where
  /-- Stand still until a gate is open. -/
  | wait (gate : String)
  /-- Leave a note under a tag. -/
  | log (tag text : String)
  /-- Fail if the task was called off. -/
  | check
  /-- Rest for some milliseconds; an interruption ends the rest with an error. -/
  | sleep (milliseconds : Nat)
  /-- Work for some milliseconds, deaf to interruptions. -/
  | work (milliseconds : Nat)
  /-- Do the body in a shielded section; fail if the task was called off before. -/
  | shield (body : List Instruction)
  /-- Do the body and leave a note, under a tag, of the result or the error that ends it. -/
  | attempt (tag : String) (body : List Instruction)
  /-- Do another job and leave a note of its result under a tag. -/
  | call (tag : String) (job : Builtin) (arguments : Json)
  /-- Count the words of a file, write them to another and end with the result. -/
  | countWords (input output : String)
  /-- End with a result. -/
  | give (value : Json)
  /-- End with an error. -/
  | fail (error : JobError)
  | breakDown (text : Option String)

namespace Instruction

mutual

/-- How many steps an instruction takes at most. -/
def cost : Instruction → Nat
  | sleep _ => 2
  | work _ => 2
  | shield body => totalCost body + 3
  | attempt _ body => totalCost body + 3
  | call _ _ _ => 9
  | _ => 1

/-- How many steps the instructions of a list take at most. -/
def totalCost : List Instruction → Nat
  | [] => 0
  | instruction :: rest => cost instruction + totalCost rest

end

end Instruction

namespace Builtin

def name : Builtin → String
  | noop => "noop"
  | echo => "echo"
  | sleep => "sleep"
  | busy => "busy"
  | fail => "fail"
  | wordCount => "wordcount"

/-- Every job, in the order in which they are registered. -/
def all : List Builtin := [noop, echo, sleep, busy, fail, wordCount]

def ofName? (name : String) : Option Builtin := all.find? fun job => job.name == name

/-- What arguments about a duration should look like. -/
def durationActivity : String := "argumentos inválidos, se espera \x7b\"ms\": n\x7d"

/-- What arguments about files should look like. -/
def pathsActivity : String :=
  "argumentos inválidos, se espera \x7b\"input_path\", \"output_path\"\x7d"

/-- The failure of a job that cannot use its arguments. -/
def refuseArguments (activity : String) (fault : ArgumentFault) : List Instruction :=
  [.fail (.within activity (.arguments fault))]

/-- The result of a job that took its time. -/
def sleptResult (milliseconds : Nat) : Json := .object [("slept_ms", .ofNat milliseconds)]

/-- The reason with which the failing job fails. -/
def failReason (arguments : Json) : String :=
  ((arguments.member? "message").bind Json.text?).getD "falla intencional"

/-- The instructions of a job with given arguments. -/
def program (arguments : Json) : Builtin → List Instruction
  | noop => [.give .null]
  | echo => [.give arguments]
  | sleep =>
    match Arguments.duration arguments with
    | .ok milliseconds => [.sleep milliseconds, .give (sleptResult milliseconds)]
    | .error fault => refuseArguments durationActivity fault
  | busy =>
    match Arguments.duration arguments with
    | .ok milliseconds => [.shield [.work milliseconds], .give (sleptResult milliseconds)]
    | .error fault => refuseArguments durationActivity fault
  | fail => [.fail (.reason (failReason arguments))]
  | wordCount =>
    match Arguments.paths arguments with
    | .ok (input, output) => [.countWords input output]
    | .error fault => refuseArguments pathsActivity fault

/-- The instructions of a built-in job cost less than a call of it. -/
theorem totalCost_program_le (arguments : Json) (job : Builtin) :
    Instruction.totalCost (job.program arguments) ≤ 6 := by
  cases job <;> simp only [program, refuseArguments] <;> (try split) <;>
    simp [Instruction.totalCost, Instruction.cost]

end Builtin

end TaskAgent
