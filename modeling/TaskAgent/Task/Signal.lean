/-!
# Signals

The signal that a task shares with whoever may call it off: a state, which both sides change in
single steps, and a token, which tells the task to stop. Whoever makes the step away from `queued`,
`running` or `shielded` decides alone how the task ends: an interruption calls it off, a commitment
lets it report its own end.

Inside a shielded section an interruption is refused. It still takes the end away from the task,
which is told to stop as soon as it leaves the section.

Only an interruption sets the token, and never takes it back. It does so in the same step in which
it calls the task off, so the token is set in the states `interrupted` and `abandoned` and in no
other (`Signal.agrees`). A signal is therefore known by its state (`Signal.casesOnState`).
-/

namespace TaskAgent

/-- Where a task stands towards interruptions. -/
inductive SignalState where
  /-- Not started. -/
  | queued
  /-- Running, open to interruption. -/
  | running
  /-- Running in a shielded section. -/
  | shielded
  /-- Called off. -/
  | interrupted
  /-- Called off while in a shielded section. -/
  | abandoned
  /-- Bound to report its own end. -/
  | reported
deriving DecidableEq, Inhabited

/-- Whether the task was called off. -/
def SignalState.isCalledOff : SignalState → Bool
  | interrupted | abandoned => true
  | _ => false

/-- The signal of a task. -/
structure Signal where
  /-- Where the task stands. -/
  state : SignalState
  /-- Whether the task has been told to stop. -/
  token : Bool
  agrees : token = state.isCalledOff := by decide
deriving DecidableEq

/-- What comes of an interruption. -/
inductive Interruption where
  /-- The task is called off and will report nothing. -/
  | accepted
  /-- The task is in a shielded section. -/
  | refused
  /-- The end of the task was decided before. -/
  | tooLate
deriving DecidableEq, Inhabited

namespace Signal

/-- The signal of a task that has not started. -/
abbrev queued : Signal := { state := .queued, token := false }

/-- The signal of a task that runs. -/
abbrev running : Signal := { state := .running, token := false }

/-- The signal of a task in a shielded section. -/
abbrev shielded : Signal := { state := .shielded, token := false }

/-- The signal of a task that was called off. -/
abbrev interrupted : Signal := { state := .interrupted, token := true }

/-- The signal of a task that was called off while in a shielded section. -/
abbrev abandoned : Signal := { state := .abandoned, token := true }

/-- The signal of a task that is bound to report its own end. -/
abbrev reported : Signal := { state := .reported, token := false }

instance : Inhabited Signal := ⟨queued⟩

/-- There is one signal for each state. -/
@[elab_as_elim, cases_eliminator]
def casesOnState {motive : Signal → Sort _} (signal : Signal) (queued : motive queued)
    (running : motive running) (shielded : motive shielded) (interrupted : motive interrupted)
    (abandoned : motive abandoned) (reported : motive reported) : motive signal :=
  match signal with
  | ⟨.queued, _, rfl⟩ => queued
  | ⟨.running, _, rfl⟩ => running
  | ⟨.shielded, _, rfl⟩ => shielded
  | ⟨.interrupted, _, rfl⟩ => interrupted
  | ⟨.abandoned, _, rfl⟩ => abandoned
  | ⟨.reported, _, rfl⟩ => reported

/-- The signal after the start of its task; none when there was an interruption before. -/
def start? : Signal → Option Signal
  | ⟨.queued, token, agrees⟩ => some ⟨.running, token, agrees⟩
  | _ => none

/-- What comes of an interruption, and the signal after it. -/
def interrupt : Signal → Interruption × Signal
  | ⟨.queued, _, _⟩ => (.accepted, { state := .interrupted, token := true })
  | ⟨.running, _, _⟩ => (.accepted, { state := .interrupted, token := true })
  | ⟨.shielded, _, _⟩ => (.refused, { state := .abandoned, token := true })
  | signal => (.tooLate, signal)

/-- The signal after its task committed itself to report its end; none when the end was decided
before. -/
def commit? : Signal → Option Signal
  | ⟨.running, token, agrees⟩ => some ⟨.reported, token, agrees⟩
  | ⟨.shielded, token, agrees⟩ => some ⟨.reported, token, agrees⟩
  | _ => none

/-- The signal after its task opened a shielded section. -/
def enter : Signal → Signal
  | ⟨.running, token, agrees⟩ => ⟨.shielded, token, agrees⟩
  | signal => signal

/-- The signal after its task left the shielded section that it opened. -/
def leave : Signal → Signal
  | ⟨.shielded, token, agrees⟩ => ⟨.running, token, agrees⟩
  | signal => signal

/-- Whether the task is told to stop. -/
def isInterrupted (signal : Signal) : Bool := signal.token

/-- A task is told to stop exactly if it was called off, in a shielded section or out of one. -/
theorem isInterrupted_iff {signal : Signal} :
    signal.isInterrupted = true ↔ signal = .interrupted ∨ signal = .abandoned := by
  cases signal <;> decide

end Signal

end TaskAgent
