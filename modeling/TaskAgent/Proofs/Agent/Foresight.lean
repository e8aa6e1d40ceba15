import TaskAgent.Proofs.Agent.Carrying

/-!
# Foretold outcomes

How a task ends can be foretold if its job is not known, or looks at nothing but its arguments and
rests only for a short while (`Submission.foretold?`). The instructions of such a job head for its
outcome: whatever the world is like, they come to no other as long as the task is not called off
(`Computation.Heads.next?`), and nothing but a short rest holds them up
(`Computation.Heads.exists_wakeTime?`).
-/

namespace TaskAgent

def Builtin.foretold? (arguments : Json) : Builtin → Option Outcome
  | noop => some (.ok .null)
  | echo => some (.ok arguments)
  | fail => some (.error (.job (.reason (failReason arguments))))
  | sleep =>
    match Arguments.duration arguments with
    | .ok milliseconds =>
      if milliseconds < Nap.leastLong then some (.ok (sleptResult milliseconds)) else none
    | .error fault => some (.error (.job (.within durationActivity (.arguments fault))))
  | busy | wordCount => none

def Definition.foretold? (arguments : Json) : Definition → Option Outcome
  | builtin job => job.foretold? arguments
  | constant value => some (.ok value)
  | script => none

/-- How the task ends if it is not called off, as far as its job and its arguments tell. -/
def Submission.foretold? (registry : Registry) (submission : Submission) : Option Outcome :=
  match registry.find? submission.config.name with
  | some definition => definition.foretold? submission.arguments
  | none => some (.error (.unknownJob submission.config.name))

/-- The final record of a task whose outcome is foretold. -/
def Submission.final? (registry : Registry) (address : Address) (submission : Submission) :
    Option TaskRecord :=
  (submission.foretold? registry).map (TaskRecord.running submission.key address).ended

/-- The instructions come to the outcome by themselves. -/
inductive Instruction.Head : Outcome → List Instruction → Prop where
  | give (value : Json) (rest : List Instruction) : Head (.ok value) (.give value :: rest)
  | fail (error : JobError) (rest : List Instruction) :
      Head (.error (.job error)) (.fail error :: rest)
  | sleep {outcome : Outcome} {milliseconds : Nat} {rest : List Instruction}
      (short : milliseconds < Nap.leastLong) (head : Head outcome rest) :
      Head outcome (.sleep milliseconds :: rest)

open Instruction

variable {outcome : Outcome} {arguments : Json}

theorem Builtin.head_of_foretold? {job : Builtin}
    (foretold : job.foretold? arguments = some outcome) : Head outcome (job.program arguments) := by
  cases job with
  | noop =>
      cases foretold
      exact .give ..
  | echo =>
      cases foretold
      exact .give ..
  | fail =>
      cases foretold
      exact .fail ..
  | sleep =>
      simp only [Builtin.foretold?] at foretold
      simp only [program]
      split
      · next milliseconds duration =>
          simp only [duration, Option.ite_none_right_eq_some, Option.some.injEq] at foretold
          rcases foretold with ⟨short, rfl⟩
          exact .sleep short (.give ..)
      · next fault duration =>
          simp only [duration, Option.some.injEq] at foretold
          subst foretold
          exact .fail ..
  | busy => cases foretold
  | wordCount => cases foretold

theorem Definition.head_of_foretold? {definition : Definition}
    (foretold : definition.foretold? arguments = some outcome) :
    Head outcome (definition.program arguments) := by
  cases definition with
  | builtin job => exact job.head_of_foretold? foretold
  | constant value =>
      cases foretold
      exact .give ..
  | script => cases foretold

namespace Computation

variable {computation : Computation} {context : TaskContext} {signal : Signal} {world : World}
  {move : Move}

/-- The computation comes to the outcome by itself. -/
inductive Heads : Outcome → Computation → Prop where
  | running {outcome : Outcome} {code : List Instruction} (head : Head outcome code) :
      Heads outcome ⟨.running code, []⟩
  | resting {outcome : Outcome} {nap : Nap} {rest : List Instruction} (short : nap.long = false)
      (head : Head outcome rest) : Heads outcome ⟨.resting nap rest, []⟩
  | giving (value : Json) : Heads (.ok value) ⟨.giving value, []⟩
  | failing (error : JobError) : Heads (.error (.job error)) ⟨.failing error, []⟩

namespace Heads

theorem outcome_eq {ended : Outcome} (heads : computation.Heads outcome)
    (ends : computation.outcome? = some ended) : ended = outcome := by
  cases heads with
  | running head => cases ends
  | resting short head => cases ends
  | giving value =>
      cases ends
      rfl
  | failing error =>
      cases ends
      rfl

/-- A step of a task that was not called off. -/
theorem next? (heads : computation.Heads outcome) (calm : signal.isInterrupted = false)
    (next : computation.next? context signal world = some move) :
    move.computation.Heads outcome := by
  cases heads with
  | running head =>
      cases head with
      | give value rest =>
          cases next
          exact .giving value
      | fail error rest =>
          cases next
          exact .failing error
      | @sleep _ milliseconds rest short head =>
          simp only [Computation.next?, execute?, calm] at next
          cases next
          refine .resting ?_ head
          simpa [Nap.start] using short
  | resting short head =>
      simp only [Computation.next?, calm, Bool.and_false, Bool.false_eq_true, if_false] at next
      split at next
      · cases next
        exact .running head
      · cases next
  | giving value => cases next
  | failing error => cases next

theorem exists_wakeTime? (heads : computation.Heads outcome)
    (unended : computation.outcome? = none)
    (stuck : computation.next? context signal world = none) :
    ∃ time, computation.wakeTime? false = some time := by
  cases heads with
  | running head =>
      cases head with
      | give value rest => cases stuck
      | fail error rest => cases stuck
      | sleep short head => cases stuck
  | @resting _ nap rest short head => exact ⟨nap.wakeTime, by simp [wakeTime?, short]⟩
  | giving value => cases unended
  | failing error => cases unended

end Heads

end Computation

namespace Agent

/-- A task does first what its outcome was foretold from. -/
theorem begins_of_foretold? {registry : Registry} {submission : Submission}
    (foretold : submission.foretold? registry = some outcome) :
    Begins registry (Computation.Heads outcome) (· = outcome) submission := by
  constructor
  · intro definition known
    simp only [Submission.foretold?, known] at foretold
    exact .running (definition.head_of_foretold? foretold)
  · intro unknown
    simpa [Submission.foretold?, unknown] using foretold

end Agent

end TaskAgent
