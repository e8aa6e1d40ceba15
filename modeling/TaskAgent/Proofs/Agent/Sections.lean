import TaskAgent.Proofs.Agent.Rest
import TaskAgent.Proofs.Job.Sections
import TaskAgent.Proofs.Worker.Cancellation
import TaskAgent.Proofs.Worker.Verdict

/-!
# Cancellations and shielded sections

The signal of a runner and the open sections of its job are kept together by whatever can happen
to an agent (`Agent.IsGuarded`). So what comes of a call of a shielded section, of a check and of a
cancellation can be told from the open sections and from whether the task was called off before
(`Agent.Heeds`), for every program whose shielded sections do not break down and wherever the
cancellations fall.
-/

namespace TaskAgent.Agent

open Instruction

variable {agent changed : Agent} {event : Event} {events past : List Event} {number : Nat}
  {runner : Runner} {computation : Computation}

/-- The runner is not at work, or its signal and the open sections of its job agree. -/
def Guards (agent : Agent) (number : Nat) (runner : Runner) : Prop :=
  ∀ definition computation, runner.stage = .working definition →
    agent.computations.find? number = some computation →
      allSteady false (definition.program runner.submission.arguments) = true →
        computation.IsGuarded runner.signal

/-- Every runner guards the open sections of its job. -/
def IsGuarded (agent : Agent) : Prop :=
  ∀ number runner, agent.worker.runners[number]? = some runner → agent.Guards number runner

theorem guards_of_idle (idle : runner.isWorking = false) : agent.Guards number runner := by
  intro definition computation stage
  simp [Runner.isWorking, stage] at idle

theorem isGuarded_make (pool : Pool) (registry : Registry) (address : Address)
    (figures : MachineFigures) (files : FileTree) :
    (make pool registry address figures files).IsGuarded := by
  intro number runner found
  simp [make, Worker.make] at found

/-- What is asked from outside can only interrupt a runner at work. -/
theorem IsGuarded.outside {worker : Worker} (guarded : agent.IsGuarded)
    (stepped : agent.worker.step? event = some worker) (outside : event.mover? = none) :
    ({ agent with worker } : Agent).IsGuarded := by
  intro number runner found
  cases before : agent.worker.runners[number]? with
  | none =>
      rcases Worker.ofSubmission_of_step? stepped before found with ⟨-, submission, rfl⟩
      exact guards_of_idle rfl
  | some old =>
      rcases Worker.lives_of_step? stepped before with ⟨after, foundAfter, lives⟩
      cases found.symm.trans foundAfter
      have guards := guarded number old before
      have alien : event.mover? ≠ some number := by simp [outside]
      cases lives with
      | untouched => exact guards
      | interrupted =>
          intro definition computation stage computing steady
          exact (guards definition computation stage computing steady).interrupt
      | _ => exact absurd rfl alien

theorem Moved.guards {step : Option Event} (moves : agent.Moved number runner step changed)
    (found : agent.worker.runners[number]? = some runner) (guards : agent.Guards number runner) :
    ∃ after, changed.worker.runners[number]? = some after ∧ changed.Guards number after := by
  cases moves with
  | @served event worker after mover stepped foundAfter before idle =>
      exact ⟨after, foundAfter, guards_of_idle idle⟩
  | @begun worker after begun stepped foundAfter works =>
      refine ⟨after, foundAfter, ?_⟩
      rcases Worker.exists_of_changeRunner? stepped with ⟨before, moved, foundBefore, starts, rfl⟩
      cases (Worker.getElem?_setRunner_self foundBefore moved).symm.trans foundAfter
      intro definition computation stage computing steady
      cases works.symm.trans stage
      cases computing.symm.trans ((Ledger.find?_insert ..).trans (if_pos rfl))
      rcases Runner.Works.start_cases starts with ⟨-, -, rfl⟩ | ⟨-, -, rfl⟩ | ⟨-, -, rfl⟩
      · exact Computation.isGuarded_ofProgram steady
      · cases stage
      · cases stage
  | ended computing ended stepped =>
      rcases Worker.exists_of_changeRunner? stepped with ⟨before, after, foundBefore, ends, rfl⟩
      rcases Runner.Works.finish_cases ends with ⟨-, rfl⟩
      exact ⟨_, Worker.getElem?_setRunner_self foundBefore _, guards_of_idle rfl⟩
  | @advanced worker before move definition works computing unended next touched =>
      refine ⟨_, Worker.getElem?_of_touch found touched, ?_⟩
      intro other computation stage computingAfter steady
      cases computingAfter.symm.trans ((Ledger.find?_insert ..).trans (if_pos rfl))
      exact (guards other before stage computing steady).next? next

/-- Every move of a runner. -/
theorem IsGuarded.move? (guarded : agent.IsGuarded) (moves : agent.move? number = some changed) :
    changed.IsGuarded := by
  rcases exists_of_move? moves with ⟨runner, found, moved⟩
  refine moved.forall_runners found (moved.guards found (guarded number runner found)) ?_
  intro other rival differs foundOther definition computation stage computing
  rw [moved.find?_computations differs] at computing
  exact guarded other rival foundOther definition computation stage computing

theorem Passage.isGuarded (passage : agent.Passage events changed) (guarded : agent.IsGuarded) :
    changed.IsGuarded := by
  induction passage with
  | rest => exact guarded
  | next passage occurs ih =>
      cases occurs with
      | asked outside stepped => exact ih.outside stepped outside
      | elsewhere world => exact ih
      | moved moves => exact ih.move? moves

/-! ### What comes of a section, a check and a cancellation -/

/-- What the open sections and an earlier cancellation make of the next call of a section, of the
next check and of a cancellation now. -/
structure Heeds (agent : Agent) (number : Nat) (runner : Runner) (computation : Computation)
    (calledOff : Prop) : Prop where
  enters : ∀ body rest, computation.control = .running (.shield body :: rest) →
    ∃ moved, agent.move? number = some moved ∧
      (¬calledOff → moved.computations.find? number = some
        ⟨.running body, .shield (!computation.isSheltered) rest :: computation.frames⟩) ∧
      (calledOff → moved.computations.find? number = some
        ⟨.failing .interrupted, computation.frames⟩)
  checks : ∀ rest, computation.control = .running (.check :: rest) →
    ∃ moved, agent.move? number = some moved ∧
      (¬calledOff → moved.computations.find? number = some ⟨.running rest, computation.frames⟩) ∧
      (calledOff → moved.computations.find? number = some
        ⟨.failing .interrupted, computation.frames⟩)
  refuses : ¬calledOff → computation.isSheltered = true →
    (agent.worker.cancel runner.submission.key).HasEnded runner.submission.key
      ⟨runner.submission.key, .failed, none, some "Failed to cancel the task",
        agent.worker.tracker.address⟩
  accepts : ¬calledOff → computation.isSheltered = false →
    (agent.worker.cancel runner.submission.key).HasEnded runner.submission.key
      ⟨runner.submission.key, .canceled, none, none, agent.worker.tracker.address⟩

/-- A step that the job of a runner can make is the next move of the runner. -/
theorem exists_move?_of_next? {definition : Definition} {move : TaskAgent.Move}
    (found : agent.worker.runners[number]? = some runner)
    (stage : runner.stage = .working definition)
    (computing : agent.computations.find? number = some computation)
    (unended : computation.outcome? = none)
    (next : computation.next? (contextOf runner.submission) runner.signal agent.world =
      some move) :
    ∃ moved, agent.move? number = some moved ∧
      moved.computations.find? number = some move.computation := by
  have unstuck : agent.move? number ≠ none := by
    intro still
    have stuck := (held_of_move?_eq_none found stage computing still).2
    rw [next] at stuck
    cases stuck
  rcases Option.ne_none_iff_exists'.mp unstuck with ⟨moved, moves⟩
  refine ⟨moved, moves, ?_⟩
  simp only [move?, found, moveAt?, stage, work?, computing, unended, advance?, next] at moves
  rcases Option.map_eq_some_iff.mp moves with ⟨worker, -, rfl⟩
  exact (Ledger.find?_insert ..).trans (if_pos rfl)

theorem heeds_of_isGuarded {definition : Definition} {calledOff : Prop}
    (guarded : computation.IsGuarded runner.signal) (coherent : agent.worker.Coherent)
    (found : agent.worker.runners[number]? = some runner)
    (stage : runner.stage = .working definition)
    (computing : agent.computations.find? number = some computation)
    (told : calledOff ↔ runner.signal.isInterrupted = true) :
    agent.Heeds number runner computation calledOff := by
  have isOpen (uncalled : ¬calledOff) :
      runner.signal = .running ∨ runner.signal = .shielded := by
    rcases coherent.agreed found with isOpen | settled
    · simpa [Runner.IsOpen, stage] using isOpen
    · simp only [Runner.IsSettled, stage] at settled
      refine absurd (told.mpr ?_) uncalled
      rcases settled with signal | signal <;> rw [signal] <;> rfl
  have unfinished (uncalled : ¬calledOff) : runner.IsOpen := by
    simpa [Runner.IsOpen, stage] using isOpen uncalled
  constructor
  · intro body rest control
    rcases computation with ⟨control, frames⟩
    subst control
    rcases exists_move?_of_next? found stage computing rfl rfl with ⟨moved, moves, after⟩
    refine ⟨moved, moves, ?_, ?_⟩
    · intro uncalled
      rw [after]
      exact congrArg some (guarded.shield_eq (isOpen uncalled))
    · intro called
      rw [after]
      exact congrArg some (Computation.shield_of_isInterrupted (told.mp called))
  · intro rest control
    rcases computation with ⟨control, frames⟩
    subst control
    rcases exists_move?_of_next? found stage computing rfl rfl with ⟨moved, moves, after⟩
    refine ⟨moved, moves, ?_, ?_⟩
    · intro uncalled
      rw [after]
      simp [Computation.goOn, mt told.mpr uncalled]
    · intro called
      rw [after]
      simp [Computation.goOn, told.mp called]
  · intro uncalled sheltered
    have signal : runner.signal = .shielded := by
      rcases isOpen uncalled with running | shielded
      · simp [guarded.exposed running] at sheltered
      · exact shielded
    have reached : runner.phase? = some .shielded := by simp [Runner.phase?, stage, signal]
    exact (Worker.hasEnded_cancel (coherent.handle found (unfinished uncalled))
      (coherent.unfinished_of_isOpen found (unfinished uncalled)) found reached rfl).1
  · intro uncalled exposed
    have signal : runner.signal = .running := by
      rcases isOpen uncalled with running | shielded
      · exact running
      · simp [guarded.shielded shielded] at exposed
    have reached : runner.phase? = some .exposed := by simp [Runner.phase?, stage, signal]
    exact (Worker.hasEnded_cancel (coherent.handle found (unfinished uncalled))
      (coherent.unfinished_of_isOpen found (unfinished uncalled)) found reached rfl).1

/-! ### What becomes of the task -/

/-- A runner whose job has ended goes on to its report. -/
theorem exists_move?_of_ended {outcome : Outcome}
    (found : agent.worker.runners[number]? = some runner)
    (stage : runner.stage = .ended outcome ∨ runner.stage = .reporting outcome) :
    ∃ moved, agent.move? number = some moved := by
  refine Option.ne_none_iff_exists'.mp fun still => ?_
  simp only [move?, found] at still
  rcases stage with stage | stage
  · simp only [stage, moveAt?, withWorker?, Worker.commit?, Worker.changeRunner?, found,
      Option.map_eq_none_iff] at still
    exact Runner.commit?_ne_none stage still
  · simp [stage, moveAt?, withWorker?, Worker.report?, found] at still

/-- Whoever has nothing left to do for a task has reported it or was called off. -/
theorem signal_eq_reported_iff (agreed : runner.IsOpen ∨ runner.IsSettled)
    (ceased : runner.isLive = false) :
    runner.signal = .reported ↔ ¬runner.signal.isInterrupted = true := by
  have stages : runner.stage = .leaving ∨ runner.stage = .gone := by
    cases stage : runner.stage <;> simp_all [Runner.isLive]
  rcases agreed with isOpen | settled
  · rcases stages with stage | stage <;> simp [Runner.IsOpen, stage] at isOpen
  · have settled : runner.signal = .interrupted ∨ runner.signal = .abandoned ∨
        runner.signal = .reported := by
      rcases stages with stage | stage <;> simpa [Runner.IsSettled, stage] using settled
    rcases settled with signal | signal | signal <;> simp [signal, Signal.isInterrupted]

/-- What the open sections of a job decide. Here a program is steady if none of its shielded
sections breaks down, a task is called off by the first cancellation before its runner commits
itself, and sections, checks and cancellations may come in any order, together with whatever else
can happen to the agent.

A call of a section does its body unless the task was called off before, and a check fails exactly
then. The cancellation that calls the task off leaves it failed if a section is open and canceled
if none is; another cancellation leaves the runner as it is, and nothing that comes later changes
the final record. The runner reports how its job ended exactly if the task is not called off. -/
theorem sections_are_heeded {pool : Pool} {registry : Registry} {address : Address}
    {figures : MachineFigures} {files : FileTree}
    (passage : (make pool registry address figures files).Passage past agent)
    (own : ∀ event ∈ past, event.isDeclaration = false)
    (found : agent.worker.runners[number]? = some runner) :
    let start := Worker.make pool registry address
    let finals (events : List Event) := (start.chronicle events).finals number
    let record := TaskRecord.running runner.submission.key address
    (runner.signal.isInterrupted = true ↔ start.CalledOff past number) ∧
    (∀ definition, runner.stage = .working definition →
      allSteady false (definition.program runner.submission.arguments) = true →
        ∃ computation, agent.computations.find? number = some computation ∧
          agent.Heeds number runner computation (start.CalledOff past number)) ∧
    (start.CalledOff past number →
      (finals past = [record.cancel] ∨
        finals past = [record.fail "Failed to cancel the task"]) ∧
      (∀ key, (agent.worker.cancel key).runners[number]? = some runner) ∧
      ∀ later final, agent.Passage later final →
        (∀ event ∈ later, event.isDeclaration = false) →
          start.CalledOff (past ++ later) number ∧ finals (past ++ later) = finals past) ∧
    ∀ outcome, .finish number outcome ∈ past →
      (runner.isLive = true → ∃ moved, agent.move? number = some moved) ∧
      (runner.isLive = false →
        (.report number ∈ past ↔ ¬start.CalledOff past number) ∧
        (¬start.CalledOff past number → finals past = [record.ended outcome])) := by
  intro start finals record
  have ran : start.run? past = some agent.worker := passage.run?
  have coherent := Worker.coherent_of_run? ran own (Worker.coherent_make pool registry address)
  have verdict := Worker.verdict_of_run? ran own found
  have address_eq : start.tracker.address = address := rfl
  refine ⟨verdict.calledOff.symm, ?_, ?_, ?_⟩
  · intro definition stage steady
    have staffed := passage.staffed (staffed_make pool registry address figures files)
    have guarded := passage.isGuarded (isGuarded_make pool registry address figures files)
    have works : runner.isWorking = true := by simp [Runner.isWorking, stage]
    rcases staffed.exists_computation found works with ⟨computation, computing⟩
    refine ⟨computation, computing, ?_⟩
    exact heeds_of_isGuarded (guarded number runner found definition computation stage computing
      steady) coherent found stage computing verdict.calledOff
  · intro calledOff
    have interrupted := verdict.calledOff.mp calledOff
    refine ⟨verdict.judged.of_isInterrupted interrupted, ?_, ?_⟩
    · exact fun key => Worker.getElem?_runners_cancel_of_isInterrupted found interrupted key
    intro later final goesOn ownLater
    refine ⟨calledOff.append later, ?_⟩
    exact Worker.finals_of_calledOff ran goesOn.run? own ownLater found interrupted
  · intro outcome finishes
    refine ⟨?_, ?_⟩
    · intro going
      rcases verdict.hands outcome finishes with ended | reporting | ⟨ceased, -⟩
      · exact exists_move?_of_ended found (Or.inl ended)
      · exact exists_move?_of_ended found (Or.inr reporting)
      · simp [going] at ceased
    · intro ceased
      have reports : runner.signal = .reported ↔ ¬start.CalledOff past number := by
        rw [verdict.calledOff, signal_eq_reported_iff (coherent.agreed found) ceased]
      refine ⟨?_, ?_⟩
      · rw [verdict.reported, ← reports]
        exact and_iff_right ceased
      · intro uncalled
        rcases verdict.hands outcome finishes with ended | reporting | ⟨-, reported⟩
        · simp [Runner.isLive, ended] at ceased
        · simp [Runner.isLive, reporting] at ceased
        · exact reported (reports.mpr uncalled)

/-- One slot, and a job whose arguments tell what to do. -/
def oneScripted : Session :=
  let figures : MachineFigures :=
    ⟨.ofInt .single 0, 0, .ofInt .double 0, .ofInt .double 0, .ofInt .double 0⟩
  ⟨.make (.ofSize 1) (Registry.builtin.insert "script" .script) ⟨"host", 1, 2⟩ figures .initial, ∅,
    "", false⟩

/-- A section with another one in it that has ended when a gate holds the job up. -/
def innerThenGate : Submission :=
  let act (name : String) (rest : List (String × Json)) : Json :=
    .object (("do", .string name) :: rest)
  let script : List Json :=
    [act "shield" [("body", .array [act "shield" [("body", .array [])],
      act "wait" [("gate", .string "g")]])]]
  ⟨⟨1, 1⟩, ⟨"script"⟩, .object [("tag", .string "t"), ("script", .array script)], "scratch"⟩

theorem sections_are_heeded_innerThenGate :
    let begun := [Action.submit innerThenGate, .settle]
    let ended := begun ++ [.cancel ⟨1, 1⟩, .release "g"]
    let refused : TaskRecord :=
      ⟨⟨1, 1⟩, .failed, none, some "Failed to cancel the task", ⟨"host", 1, 2⟩⟩
    ((oneScripted.performed begun).agent.worker.cancel ⟨1, 1⟩).HasEnded ⟨1, 1⟩ refused ∧
    .finish 0 (.ok .null) ∈ oneScripted.trace ended ∧
    .report 0 ∉ oneScripted.trace ended ∧
    (oneScripted.agent.worker.chronicle (oneScripted.trace ended)).finals 0 = [refused] := by
  intro begun ended refused
  have ownBegun : ∀ event ∈ oneScripted.trace begun, event.isDeclaration = false :=
    Session.isDeclaration_of_mem_trace (by decide)
  have ownEnded : ∀ event ∈ oneScripted.trace ended, event.isDeclaration = false :=
    Session.isDeclaration_of_mem_trace (by decide)
  have first : oneScripted.agent.Passage (oneScripted.trace begun)
      (oneScripted.performed begun).agent := (Session.course_performed (by decide)).passage
  have second : oneScripted.agent.Passage (oneScripted.trace ended)
      (oneScripted.performed ended).agent := (Session.course_performed (by decide)).passage
  have foundBegun : (oneScripted.performed begun).agent.worker.runners[0]? =
      some ⟨innerThenGate, .shielded, .working .script, true⟩ := rfl
  have foundEnded : (oneScripted.performed ended).agent.worker.runners[0]? =
      some ⟨innerThenGate, .abandoned, .gone, false⟩ := rfl
  have finishes : .finish 0 (.ok .null) ∈ oneScripted.trace ended :=
    List.mem_of_getElem? (i := 6) rfl
  rcases sections_are_heeded first ownBegun foundBegun with ⟨uncalled, heeds, -⟩
  rcases sections_are_heeded second ownEnded foundEnded with ⟨called, -, ends, reports⟩
  rcases heeds .script rfl rfl with ⟨computation, computing, heeds⟩
  have sheltered : computation.isSheltered = true := by
    cases computing
    rfl
  refine ⟨heeds.refuses (fun early => nomatch uncalled.mpr early) sheltered, finishes, ?_, ?_⟩
  · intro reported
    exact ((reports _ finishes).2 rfl).1.mp reported (called.mp rfl)
  · rcases (ends (called.mp rfl)).1 with canceled | failed
    · cases canceled
    · exact failed

end TaskAgent.Agent
