/-!
# Pools

A pool has a fixed number of slots, at least one. A task waits in the queue until it is given a
slot, or turned away because the pool was closed; closing leaves the slots in use as they are.
-/

namespace TaskAgent

/-- The slots of an agent. -/
structure Pool where
  /-- The number of slots. -/
  size : Nat
  /-- The number of slots that are free. -/
  available : Nat
  /-- The number of tasks that wait for a slot. -/
  queued : Nat
  /-- Whether no slot is given any more. -/
  closed : Bool
deriving DecidableEq, Inhabited

/-- Why there is no pool. -/
inductive PoolFault where
  /-- There is nothing to run tasks on. -/
  | noRuntime
  /-- No pool has so many slots. -/
  | tooLarge
deriving DecidableEq, Inhabited

namespace Pool

/-- The largest number of slots. -/
def greatestSize : Nat := 2305843009213693951

/-- A new pool; one without slots is given one. -/
def ofSize (size : Nat) : Pool := ⟨max size 1, max size 1, 0, false⟩

/-- A new pool, if there can be one of that size. -/
def make? (size : Nat) : Except PoolFault Pool :=
  if greatestSize < size then .error .tooLarge else .ok (ofSize size)

/-- A new pool on a runtime, which may be missing. -/
def onRuntime? (runtime : Bool) (size : Nat) : Except PoolFault Pool :=
  if runtime then make? size else .error .noRuntime

/-- The number of slots in use. -/
def active (pool : Pool) : Nat := pool.size - pool.available

/-- A task starts to wait. -/
def enqueue (pool : Pool) : Pool := { pool with queued := pool.queued + 1 }

/-- A waiting task is given a slot. -/
def grant (pool : Pool) : Pool :=
  { pool with queued := pool.queued - 1, available := pool.available - 1 }

/-- A waiting task is turned away. -/
def refuse (pool : Pool) : Pool := { pool with queued := pool.queued - 1 }

/-- A slot is given back. -/
def release (pool : Pool) : Pool := { pool with available := pool.available + 1 }

/-- No slot is given any more. -/
def close (pool : Pool) : Pool := { pool with closed := true }

end Pool

def PoolFault.message : PoolFault → String
  | noRuntime =>
    "no hay runtime de tokio disponible: there is no reactor running, " ++
      "must be called from the context of a Tokio 1.x runtime"
  | tooLarge =>
    "a semaphore may not have more than MAX_PERMITS permits (" ++ toString Pool.greatestSize ++
      ")"

end TaskAgent
