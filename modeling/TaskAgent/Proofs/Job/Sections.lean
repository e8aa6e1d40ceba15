import TaskAgent.Job.Computation

/-!
# Shielded sections

A signal tells that its task is shielded, but not how many sections are open. The count is not
needed: of the open sections only the outermost one raised the shield, and only that one takes it
down (`Frame.AreNested`). So an inner section that ends leaves the shield up, and as long as nobody
called the task off the signal is shielded exactly while a section is open
(`Computation.IsGuarded`).

This is kept by every step, unless a section breaks down: then the shield stays up although no
section is open any more. Programs in which no section does are steady (`Instruction.allSteady`).
-/

namespace TaskAgent

namespace Instruction

mutual

/-- The instruction breaks down in no shielded section; `inside` tells whether it is carried out in
one itself. -/
def isSteady (inside : Bool) : Instruction → Bool
  | shield body => allSteady true body
  | attempt _ body => allSteady inside body
  | breakDown _ => !inside
  | _ => true

def allSteady (inside : Bool) : List Instruction → Bool
  | [] => true
  | instruction :: rest => isSteady inside instruction && allSteady inside rest

end

end Instruction

open Instruction

theorem Builtin.allSteady_program (inside : Bool) (arguments : Json) (job : Builtin) :
    allSteady inside (job.program arguments) = true := by
  cases job <;> simp only [program, refuseArguments] <;> (try split) <;> rfl

namespace Frame

def isShield : Frame → Bool
  | shield _ _ => true
  | _ => false

/-- Whether one of the sections is shielded. -/
def isSheltered (frames : List Frame) : Bool := frames.any isShield

/-- A shielded section raised the shield if it is in no other one. -/
def RaisesUnder (sheltered : Bool) : Frame → Prop
  | shield opened _ => opened = !sheltered
  | _ => True

/-- Of the shielded sections the outermost one raised the shield, and whatever comes after a
section breaks down in none. -/
def AreNested : List Frame → Prop
  | [] => True
  | frame :: rest =>
    frame.RaisesUnder (isSheltered rest) ∧ allSteady (isSheltered rest) frame.rest = true ∧
      AreNested rest

end Frame

/-- What comes next does not break down in a shielded section. -/
def Control.IsSteady (inside : Bool) : Control → Prop
  | running code | resting _ code => allSteady inside code = true
  | giving _ | failing _ => True
  | breaking _ => inside = false

/-- The signal after a move. -/
def Move.signalAfter (move : Move) (signal : Signal) : Signal :=
  move.touch.elim signal (Touch.apply · signal)

namespace Computation

variable {context : TaskContext} {signal : Signal} {world : World} {frames : List Frame}
  {frame : Frame} {before control : Control} {rest : List Instruction} {move : Move}
  {computation : Computation}

/-- Whether a shielded section is open. -/
def isSheltered (computation : Computation) : Bool := Frame.isSheltered computation.frames

/-- The signal tells whether a shielded section is open, unless the task was called off. -/
structure IsGuarded (signal : Signal) (computation : Computation) : Prop where
  steady : computation.control.IsSteady computation.isSheltered
  nested : Frame.AreNested computation.frames
  exposed : signal = .running → computation.isSheltered = false
  shielded : signal = .shielded → computation.isSheltered = true

theorem isGuarded_ofProgram {program : List Instruction} (steady : allSteady false program = true) :
    (ofProgram program).IsGuarded .running := by
  refine ⟨steady, trivial, fun _ => rfl, ?_⟩
  intro shielded
  cases shielded

namespace IsGuarded

/-- A cancellation takes no shield down. -/
theorem interrupt (guarded : computation.IsGuarded signal) :
    computation.IsGuarded signal.interrupt.2 := by
  refine ⟨guarded.steady, guarded.nested, ?_, ?_⟩
  · cases signal <;> simp [Signal.interrupt]
  · cases signal <;> simp [Signal.interrupt]

theorem continues (guarded : IsGuarded signal ⟨before, frames⟩)
    (steady : control.IsSteady (Frame.isSheltered frames)) :
    IsGuarded signal ⟨control, frames⟩ :=
  ⟨steady, guarded.nested, guarded.exposed, guarded.shielded⟩

/-- A section begins that is not shielded. -/
theorem push (guarded : IsGuarded signal ⟨before, frames⟩) (plain : frame.isShield = false)
    (steady : control.IsSteady (Frame.isSheltered frames))
    (after : allSteady (Frame.isSheltered frames) frame.rest = true) :
    IsGuarded signal ⟨control, frame :: frames⟩ := by
  have same : Frame.isSheltered (frame :: frames) = Frame.isSheltered frames := by
    simp [Frame.isSheltered, plain]
  have raises : frame.RaisesUnder (Frame.isSheltered frames) := by
    cases frame with
    | shield opened rest => cases plain
    | _ => trivial
  constructor
  · simpa only [isSheltered, same] using steady
  · exact ⟨raises, after, guarded.nested⟩
  · simpa only [isSheltered, same] using guarded.exposed
  · simpa only [isSheltered, same] using guarded.shielded

/-- A section ends that is not shielded. -/
theorem pop (guarded : IsGuarded signal ⟨before, frame :: frames⟩) (plain : frame.isShield = false)
    (steady : control.IsSteady (Frame.isSheltered frames)) :
    IsGuarded signal ⟨control, frames⟩ := by
  have same : Frame.isSheltered (frame :: frames) = Frame.isSheltered frames := by
    simp [Frame.isSheltered, plain]
  constructor
  · exact steady
  · exact guarded.nested.2.2
  · simpa only [isSheltered, same] using guarded.exposed
  · simpa only [isSheltered, same] using guarded.shielded

/-- A shielded section begins, or the task was called off before. -/
theorem shield {body : List Instruction} (guarded : IsGuarded signal ⟨before, frames⟩)
    (steady : allSteady true body = true)
    (after : allSteady (Frame.isSheltered frames) rest = true) :
    (shield world frames signal body rest).computation.IsGuarded
      ((shield world frames signal body rest).signalAfter signal) := by
  have sheltered : ∀ opened, Frame.isSheltered (.shield opened rest :: frames) = true := by
    simp [Frame.isSheltered, Frame.isShield]
  cases signal with
  | running =>
      have exposed : Frame.isSheltered frames = false := guarded.exposed rfl
      refine ⟨?_, ⟨?_, after, guarded.nested⟩, ?_, fun _ => sheltered true⟩
      · simpa only [Computation.shield, isSheltered, sheltered, Control.IsSteady] using steady
      · simp [Frame.RaisesUnder, exposed]
      · intro running
        cases running
  | shielded =>
      have inside : Frame.isSheltered frames = true := guarded.shielded rfl
      refine ⟨?_, ⟨?_, after, guarded.nested⟩, ?_, fun _ => sheltered false⟩
      · simpa only [Computation.shield, goOn, isSheltered, sheltered, Control.IsSteady] using steady
      · simp [Frame.RaisesUnder, inside]
      · intro running
        cases running
  | _ => exact guarded.continues trivial

/-- A shielded section ends. Only the outermost one takes the shield down. -/
theorem unshield {opened : Bool}
    (guarded : IsGuarded signal ⟨before, .shield opened rest :: frames⟩)
    (steady : control.IsSteady (Frame.isSheltered frames)) :
    (unshield world frames opened control).computation.IsGuarded
      ((unshield world frames opened control).signalAfter signal) := by
  rcases guarded.nested with ⟨raises, -, nested⟩
  have raised : opened = !Frame.isSheltered frames := raises
  have closed : signal ≠ .running := by
    intro running
    simpa [isSheltered, Frame.isSheltered, Frame.isShield] using guarded.exposed running
  cases opened with
  | true =>
      have exposed : Frame.isSheltered frames = false := by simpa using raised
      refine ⟨steady, nested, fun _ => exposed, ?_⟩
      intro shielded
      cases signal <;> cases shielded
  | false =>
      have inside : Frame.isSheltered frames = true := by simpa using raised
      exact ⟨steady, nested, fun running => absurd running closed, fun _ => inside⟩

theorem execute? {instruction : Instruction}
    (guarded : IsGuarded signal ⟨.running (instruction :: rest), frames⟩)
    (next : execute? context signal world frames rest instruction = some move) :
    move.computation.IsGuarded (move.signalAfter signal) := by
  have steady : isSteady (Frame.isSheltered frames) instruction = true ∧
      allSteady (Frame.isSheltered frames) rest = true := by
    simpa [Control.IsSteady, allSteady, isSheltered] using guarded.steady
  rcases steady with ⟨own, after⟩
  cases instruction with
  | wait gate =>
      simp only [Computation.execute?] at next
      split at next
      · cases next
        exact guarded.continues after
      · cases next
  | log tag text =>
      cases next
      exact guarded.continues after
  | check =>
      cases next
      dsimp only [goOn]
      split
      · exact guarded.continues trivial
      · exact guarded.continues after
  | sleep milliseconds =>
      cases next
      dsimp only [goOn]
      split
      · exact guarded.continues trivial
      · exact guarded.continues after
  | work milliseconds =>
      cases next
      exact guarded.continues after
  | shield body =>
      cases next
      exact guarded.shield own after
  | attempt tag body =>
      cases next
      exact guarded.push rfl own after
  | call tag job arguments =>
      cases next
      exact guarded.push rfl (job.allSteady_program _ arguments) after
  | countWords input output =>
      simp only [Computation.execute?] at next
      split at next
      · cases next
        exact guarded.continues trivial
      · cases next
        exact guarded.continues trivial
  | give value =>
      cases next
      exact guarded.continues trivial
  | fail error =>
      cases next
      exact guarded.continues trivial
  | breakDown text =>
      cases next
      exact guarded.continues (by simpa [isSteady, Control.IsSteady] using own)

theorem finishBody (guarded : IsGuarded signal ⟨before, frames⟩) :
    (finishBody world frames).computation.IsGuarded
      ((finishBody world frames).signalAfter signal) := by
  cases frames with
  | nil => exact guarded.continues trivial
  | cons frame frames =>
      have after := guarded.nested.2.1
      cases frame with
      | shield opened rest => exact guarded.unshield after
      | attempt tag rest => exact guarded.pop rfl after
      | call tag rest => exact guarded.pop rfl after

theorem carryResult? {value : Json} (guarded : IsGuarded signal ⟨before, frames⟩)
    (next : carryResult? world value frames = some move) :
    move.computation.IsGuarded (move.signalAfter signal) := by
  cases frames with
  | nil => cases next
  | cons frame frames =>
      have after := guarded.nested.2.1
      cases frame with
      | shield opened rest =>
          cases next
          exact guarded.unshield trivial
      | attempt tag rest =>
          cases next
          exact guarded.pop rfl after
      | call tag rest =>
          cases next
          exact guarded.pop rfl after

theorem carryError? {error : JobError} (guarded : IsGuarded signal ⟨before, frames⟩)
    (next : carryError? world error frames = some move) :
    move.computation.IsGuarded (move.signalAfter signal) := by
  cases frames with
  | nil => cases next
  | cons frame frames =>
      have after := guarded.nested.2.1
      cases frame with
      | shield opened rest =>
          cases next
          exact guarded.unshield trivial
      | attempt tag rest =>
          cases next
          exact guarded.pop rfl after
      | call tag rest =>
          cases next
          exact guarded.pop rfl trivial

/-- A breakdown leaves all sections at once, none of which is shielded. -/
theorem breaks {text : Option String} (guarded : IsGuarded signal ⟨.breaking text, frames⟩) :
    IsGuarded signal ⟨.breaking text, []⟩ := by
  have exposed : Frame.isSheltered frames = false := guarded.steady
  refine ⟨rfl, trivial, fun _ => rfl, ?_⟩
  intro shielded
  have inside : Frame.isSheltered frames = true := guarded.shielded shielded
  rw [exposed] at inside
  cases inside

/-- Every step keeps the signal and the open sections together. -/
theorem next? (guarded : computation.IsGuarded signal)
    (next : computation.next? context signal world = some move) :
    move.computation.IsGuarded (move.signalAfter signal) := by
  rcases computation with ⟨control, frames⟩
  cases control with
  | running code =>
      cases code with
      | nil =>
          cases next
          exact guarded.finishBody
      | cons instruction rest => exact guarded.execute? next
  | resting nap rest =>
      simp only [Computation.next?] at next
      split at next
      · cases next
        exact guarded.continues trivial
      · split at next
        · cases next
          exact guarded.continues guarded.steady
        · cases next
  | giving value => exact guarded.carryResult? next
  | failing error => exact guarded.carryError? next
  | breaking text =>
      cases frames with
      | nil => cases next
      | cons frame frames =>
          cases next
          exact guarded.breaks

/-- As long as the task was not called off, a call of a section does the body, whether or not
another section is open. -/
theorem shield_eq {body : List Instruction} (guarded : computation.IsGuarded signal)
    (isOpen : signal = .running ∨ signal = .shielded) :
    (Computation.shield world computation.frames signal body rest).computation =
      ⟨.running body, .shield (!computation.isSheltered) rest :: computation.frames⟩ := by
  rcases isOpen with rfl | rfl
  · rw [guarded.exposed rfl]
    rfl
  · rw [guarded.shielded rfl]
    rfl

end IsGuarded

theorem shield_of_isInterrupted {body : List Instruction}
    (interrupted : signal.isInterrupted = true) :
    (shield world frames signal body rest).computation = ⟨.failing .interrupted, frames⟩ := by
  rcases Signal.isInterrupted_iff.mp interrupted with rfl | rfl
  · rfl
  · rfl

end Computation

end TaskAgent
