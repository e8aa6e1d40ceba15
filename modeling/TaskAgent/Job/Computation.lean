import TaskAgent.Job.Instruction
import TaskAgent.Job.WordCount
import TaskAgent.Task.Key
import TaskAgent.Task.Signal

/-!
# Computations

A job being carried out, one step at a time. A computation knows what it is about to do
(`Control`) and the sections that are open around it (`Frame`), innermost first. It acts on the
world that all jobs share and on the signal of its own task.

A step is made only when one can be: a computation that waits for a closed gate or rests until a
later time makes none (`Computation.next? … = none`), nor does one that has ended. Every step
lowers the cost of the computation (`Computation.cost`).
-/

namespace TaskAgent

/-- What the jobs of an agent share. -/
structure World where
  gates : List String
  /-- The notes that were left, by tag, oldest first. -/
  trace : Ledger String (List Json)
  files : FileTree
  /-- The time, in milliseconds. -/
  now : Nat

namespace World

def note (world : World) (tag : String) (entry : Json) : World :=
  { world with trace := world.trace.insert tag ((world.trace.find? tag).getD [] ++ [entry]) }

end World

/-- What a job is told about the task that it runs for. -/
structure TaskContext where
  /-- The task. -/
  key : TaskKey
  /-- The directory for its temporary files. -/
  scratch : String

/-- A section that a computation is in. -/
inductive Frame where
  /-- A shielded section, and whether it was this section that raised the shield. -/
  | shield (opened : Bool) (rest : List Instruction)
  /-- A section whose end is noted. -/
  | attempt (tag : String) (rest : List Instruction)
  /-- Another job, whose result is noted. -/
  | call (tag : String) (rest : List Instruction)

namespace Frame

/-- What is done after the section. -/
def rest : Frame → List Instruction
  | shield _ rest | attempt _ rest | call _ rest => rest

/-- How many steps the section and what comes after it take beyond those inside it. -/
def cost (frame : Frame) : Nat := Instruction.totalCost frame.rest + 2

/-- How many steps the sections take beyond those inside the innermost. -/
def totalCost : List Frame → Nat
  | [] => 0
  | frame :: rest => frame.cost + totalCost rest

end Frame

/-- A rest of a computation. -/
structure Nap where
  /-- When it is over. -/
  wakeTime : Nat
  /-- Whether nobody waits for its end who only waits for the agent to come to rest. -/
  long : Bool
  /-- Whether an interruption ends it. -/
  hears : Bool

namespace Nap

/-- A rest of this many milliseconds or more is a long one. -/
def leastLong : Nat := 1000

/-- A rest that begins now. -/
def start (now milliseconds : Nat) (hears : Bool) : Nap :=
  ⟨now + milliseconds, decide (leastLong ≤ milliseconds), hears⟩

end Nap

/-- What a computation is about to do. -/
inductive Control where
  /-- To carry out instructions. -/
  | running (code : List Instruction)
  /-- To rest until a time and go on with instructions. -/
  | resting (nap : Nap) (rest : List Instruction)
  /-- To end with a result. -/
  | giving (value : Json)
  /-- To end with an error. -/
  | failing (error : JobError)
  | breaking (text : Option String)

/-- How many steps are left until the next section ends. -/
def Control.cost : Control → Nat
  | running code => Instruction.totalCost code + 2
  | resting _ rest => Instruction.totalCost rest + 3
  | giving _ | failing _ | breaking _ => 1

/-- A job being carried out. -/
structure Computation where
  /-- What comes next. -/
  control : Control
  /-- The open sections, innermost first. -/
  frames : List Frame

/-- What a step does to the signal of the task. -/
inductive Touch where
  /-- It opens a shielded section. -/
  | enter
  | leave
deriving DecidableEq

/-- The signal after a step that touches it. -/
def Touch.apply : Touch → Signal → Signal
  | enter => Signal.enter
  | leave => Signal.leave

/-- A step of a computation. -/
structure Move where
  computation : Computation
  world : World
  /-- What it does to the signal. -/
  touch : Option Touch

namespace Computation

/-- The computation of a job that has not begun. -/
def ofProgram (program : List Instruction) : Computation := ⟨.running program, []⟩

/-- How many steps the computation takes at most. -/
def cost (computation : Computation) : Nat :=
  computation.control.cost + Frame.totalCost computation.frames

/-- How the computation ended, if it did. -/
def outcome? : Computation → Option Outcome
  | ⟨.giving value, []⟩ => some (.ok value)
  | ⟨.failing error, []⟩ => some (.error (.job error))
  | ⟨.breaking text, []⟩ => some (.error (.brokeDown text))
  | _ => none

/-- The note that a log instruction leaves. -/
def logEntry (context : TaskContext) (signal : Signal) (text : String) : Json :=
  .object [("interrupted", .bool signal.isInterrupted), ("job", .integer context.key.job.toInt),
    ("log", .string text), ("scratch", .string context.scratch),
    ("task", .integer context.key.task.toInt)]

/-- A step that only changes what comes next. -/
def goOn (world : World) (frames : List Frame) (control : Control) : Move :=
  ⟨⟨control, frames⟩, world, none⟩

/-- Leaves a shielded section. -/
def unshield (world : World) (frames : List Frame) (opened : Bool) (control : Control) : Move :=
  ⟨⟨control, frames⟩, world, if opened then some .leave else none⟩

/-- Opens a shielded section, or joins the one that is open. -/
def shield (world : World) (frames : List Frame) (signal : Signal)
    (body rest : List Instruction) : Move :=
  match signal.state with
  | .running => ⟨⟨.running body, .shield true rest :: frames⟩, world, some .enter⟩
  | .shielded => goOn world (.shield false rest :: frames) (.running body)
  | _ => goOn world frames (.failing .interrupted)

/-- Carries out one instruction. -/
def execute? (context : TaskContext) (signal : Signal) (world : World) (frames : List Frame)
    (rest : List Instruction) : Instruction → Option Move
  | .wait gate => if gate ∈ world.gates then some (goOn world frames (.running rest)) else none
  | .log tag text =>
    some (goOn (world.note tag (logEntry context signal text)) frames (.running rest))
  | .check =>
    some (goOn world frames
      (if signal.isInterrupted then .failing .interrupted else .running rest))
  | .sleep milliseconds =>
    some (goOn world frames
      (if signal.isInterrupted then .failing .interrupted
      else .resting (.start world.now milliseconds true) rest))
  | .work milliseconds =>
    some (goOn world frames (.resting (.start world.now milliseconds false) rest))
  | .shield body => some (shield world frames signal body rest)
  | .attempt tag body => some (goOn world (.attempt tag rest :: frames) (.running body))
  | .call tag job arguments =>
    some (goOn world (.call tag rest :: frames) (.running (job.program arguments)))
  | .countWords input output =>
    match WordCount.run (fun _ => signal.isInterrupted) input output world.files with
    | (.ok result, files) => some (goOn { world with files } frames (.giving result))
    | (.error error, files) => some (goOn { world with files } frames (.failing error))
  | .give value => some (goOn world frames (.giving value))
  | .fail error => some (goOn world frames (.failing error))
  | .breakDown text => some (goOn world frames (.breaking text))

/-- The step after the last instruction of a section; none after the last of all sections. -/
def finishBody (world : World) : List Frame → Move
  | [] => goOn world [] (.giving .null)
  | .shield opened rest :: frames => unshield world frames opened (.running rest)
  | .attempt tag rest :: frames =>
    goOn (world.note tag (.object [("ok", .null)])) frames (.running rest)
  | .call tag rest :: frames =>
    goOn (world.note tag (.object [("result", .null)])) frames (.running rest)

/-- The step with which a result meets the section around it. -/
def carryResult? (world : World) (value : Json) : List Frame → Option Move
  | [] => none
  | .shield opened _ :: frames => some (unshield world frames opened (.giving value))
  | .attempt tag rest :: frames =>
    some (goOn (world.note tag (.object [("ok", value)])) frames (.running rest))
  | .call tag rest :: frames =>
    some (goOn (world.note tag (.object [("result", value)])) frames (.running rest))

/-- The step with which an error meets the section around it. -/
def carryError? (world : World) (error : JobError) : List Frame → Option Move
  | [] => none
  | .shield opened _ :: frames => some (unshield world frames opened (.failing error))
  | .attempt tag rest :: frames =>
    some (goOn (world.note tag (.object [("err", .string error.message)])) frames
      (.running rest))
  | .call _ _ :: frames => some (goOn world frames (.failing error))

/-- The next step, if one can be made. -/
def next? (context : TaskContext) (signal : Signal) (world : World) :
    Computation → Option Move
  | ⟨.running [], frames⟩ => some (finishBody world frames)
  | ⟨.running (instruction :: rest), frames⟩ =>
    execute? context signal world frames rest instruction
  | ⟨.resting nap rest, frames⟩ =>
    if nap.hears && signal.isInterrupted then some (goOn world frames (.failing .interrupted))
    else if nap.wakeTime ≤ world.now then some (goOn world frames (.running rest))
    else none
  | ⟨.giving value, frames⟩ => carryResult? world value frames
  | ⟨.failing error, frames⟩ => carryError? world error frames
  | ⟨.breaking _, []⟩ => none
  | ⟨.breaking text, _ :: _⟩ => some (goOn world [] (.breaking text))

/-- When the rest is over that the computation is in; who is not patient does not wait for the end
of a long one. -/
def wakeTime? (patient : Bool) : Computation → Option Nat
  | ⟨.resting nap _, _⟩ => if nap.long && !patient then none else some nap.wakeTime
  | _ => none

end Computation

end TaskAgent
