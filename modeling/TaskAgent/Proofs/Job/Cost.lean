import TaskAgent.Job.Computation

/-!
# Computations come to an end

Every step of a computation lowers its cost, whatever the world and the signal of its task are
(`Computation.cost_lt_of_next?`). A computation can only be held up on the way: in front of a
closed gate or in a rest (`Computation.isHeldUp_of_next?`).
-/

namespace TaskAgent.Computation

variable {context : TaskContext} {signal : Signal} {world : World} {frames : List Frame}
  {rest : List Instruction} {move : Move}

theorem cost_execute?_lt {instruction : Instruction}
    (stepped : execute? context signal world frames rest instruction = some move) :
    move.computation.cost < cost ⟨.running (instruction :: rest), frames⟩ := by
  cases instruction with
  | wait gate =>
      simp only [execute?] at stepped
      split at stepped
      · cases stepped
        simp [goOn, cost, Control.cost, Instruction.totalCost, Instruction.cost]
      · cases stepped
  | check =>
      cases stepped
      simp only [goOn, cost]
      split <;> simp only [Control.cost, Instruction.totalCost, Instruction.cost] <;> omega
  | sleep milliseconds =>
      cases stepped
      simp only [goOn, cost]
      split <;> simp only [Control.cost, Instruction.totalCost, Instruction.cost] <;> omega
  | shield body =>
      cases stepped
      simp only [shield, goOn]
      split <;>
        simp only [cost, Control.cost, Frame.totalCost, Frame.cost, Frame.rest,
          Instruction.totalCost, Instruction.cost] <;>
        omega
  | call tag job arguments =>
      cases stepped
      have short := Builtin.totalCost_program_le arguments job
      simp only [goOn, cost, Control.cost, Frame.totalCost, Frame.cost, Frame.rest,
        Instruction.totalCost, Instruction.cost]
      omega
  | countWords input output =>
      simp only [execute?] at stepped
      split at stepped <;> cases stepped <;>
        simp only [goOn, cost, Control.cost, Instruction.totalCost, Instruction.cost] <;> omega
  | _ =>
      cases stepped
      simp only [goOn, cost, Control.cost, Frame.totalCost, Frame.cost, Frame.rest,
        Instruction.totalCost, Instruction.cost]
      omega

theorem cost_finishBody_lt (world : World) (frames : List Frame) :
    (finishBody world frames).computation.cost < cost ⟨.running [], frames⟩ := by
  cases frames with
  | nil => simp [finishBody, goOn, cost, Control.cost]
  | cons frame frames =>
      cases frame <;>
        simp only [finishBody, unshield, goOn, cost, Control.cost, Frame.totalCost, Frame.cost,
          Frame.rest, Instruction.totalCost] <;>
        omega

theorem cost_carryResult?_lt {value : Json}
    (stepped : carryResult? world value frames = some move) :
    move.computation.cost < cost ⟨.giving value, frames⟩ := by
  cases frames with
  | nil => cases stepped
  | cons frame frames =>
      cases frame <;> cases stepped <;>
        simp only [unshield, goOn, cost, Control.cost, Frame.totalCost, Frame.cost, Frame.rest] <;>
        omega

theorem cost_carryError?_lt {error : JobError}
    (stepped : carryError? world error frames = some move) :
    move.computation.cost < cost ⟨.failing error, frames⟩ := by
  cases frames with
  | nil => cases stepped
  | cons frame frames =>
      cases frame <;> cases stepped <;>
        simp only [unshield, goOn, cost, Control.cost, Frame.totalCost, Frame.cost, Frame.rest] <;>
        omega

/-- Every step brings a computation closer to its end. -/
theorem cost_lt_of_next? {computation : Computation}
    (stepped : computation.next? context signal world = some move) :
    move.computation.cost < computation.cost := by
  rcases computation with ⟨control, frames⟩
  cases control with
  | running code =>
      cases code with
      | nil =>
          cases stepped
          exact cost_finishBody_lt world frames
      | cons instruction rest => exact cost_execute?_lt stepped
  | resting nap rest =>
      simp only [next?] at stepped
      split at stepped
      · cases stepped
        simp only [goOn, cost, Control.cost]
        omega
      · split at stepped
        · cases stepped
          simp [goOn, cost, Control.cost]
        · cases stepped
  | giving value => exact cost_carryResult?_lt stepped
  | failing error => exact cost_carryError?_lt stepped
  | breaking text =>
      cases frames with
      | nil => cases stepped
      | cons frame frames =>
          cases stepped
          simp only [goOn, cost, Control.cost, Frame.totalCost, Frame.cost]
          omega

/-- The computation waits for a gate that is closed, or rests and is not yet to go on. -/
inductive IsHeldUp (world : World) : Computation → Prop where
  | gate {name : String} {rest : List Instruction} {frames : List Frame}
      (closed : name ∉ world.gates) : IsHeldUp world ⟨.running (.wait name :: rest), frames⟩
  | nap {nap : Nap} {rest : List Instruction} {frames : List Frame}
      (early : world.now < nap.wakeTime) : IsHeldUp world ⟨.resting nap rest, frames⟩

/-- What keeps a computation from its next step before its end. -/
theorem isHeldUp_of_next? {computation : Computation} (unended : computation.outcome? = none)
    (stuck : computation.next? context signal world = none) : computation.IsHeldUp world := by
  rcases computation with ⟨control, frames⟩
  cases control with
  | running code =>
      cases code with
      | nil => cases stuck
      | cons instruction rest =>
          cases instruction with
          | wait gate =>
              simp only [next?, execute?] at stuck
              split at stuck
              · cases stuck
              · next closed => exact .gate closed
          | countWords input output =>
              simp only [next?, execute?] at stuck
              split at stuck <;> cases stuck
          | _ => cases stuck
  | resting nap rest =>
      simp only [next?] at stuck
      split at stuck
      · cases stuck
      · split at stuck
        · cases stuck
        · next early => exact .nap (Nat.lt_of_not_le early)
  | giving value =>
      cases frames with
      | nil => cases unended
      | cons frame frames => cases frame <;> cases stuck
  | failing error =>
      cases frames with
      | nil => cases unended
      | cons frame frames => cases frame <;> cases stuck
  | breaking text =>
      cases frames with
      | nil => cases unended
      | cons frame frames => cases stuck

/-- Whoever rests goes on when the rest is over. -/
theorem next?_ne_none_of_wakeTime? {computation : Computation} {patient : Bool} {time : Nat}
    (wakes : computation.wakeTime? patient = some time) (reached : time ≤ world.now) :
    computation.next? context signal world ≠ none := by
  rcases computation with ⟨control, frames⟩
  cases control with
  | resting nap rest =>
      simp only [wakeTime?] at wakes
      split at wakes
      · cases wakes
      · cases wakes
        simp only [next?, reached, if_true]
        split <;> simp
  | _ => cases wakes

end TaskAgent.Computation
