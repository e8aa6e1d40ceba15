import TaskAgent.Job.Script

/-!
# Registries

The jobs that an agent knows, each under a name. A job registered later under a name replaces the
one before it.
-/

namespace TaskAgent

/-- What is done for a job. -/
inductive Definition where
  | builtin (job : Builtin)
  /-- The job that always gives one value. -/
  | constant (value : Json)
  /-- The job whose arguments tell what to do. -/
  | script

/-- The instructions of a job with given arguments. -/
def Definition.program (arguments : Json) : Definition → List Instruction
  | builtin job => job.program arguments
  | constant value => [.give value]
  | script => Script.program arguments

/-- The known jobs. -/
abbrev Registry := Ledger String Definition

namespace Registry

/-- No job. -/
def empty : Registry := Ledger.empty

/-- The built-in jobs, each under its own name. -/
def builtin : Registry :=
  Builtin.all.foldl (fun registry job => registry.insert job.name (.builtin job)) empty

end Registry

end TaskAgent
