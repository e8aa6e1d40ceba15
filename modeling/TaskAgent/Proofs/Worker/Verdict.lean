import TaskAgent.Proofs.Worker.InFlight
import TaskAgent.Proofs.Worker.Rejection

/-!
# Who decides how a task ends

A task is called off or reported by its runner, never both. The signal of its runner tells which,
and so does the one final record of the task (`Runner.Judged`): once the task was called off the
record is there, and nothing that comes later adds another one.

The runner reports how its job ended exactly if the task was not called off before the runner
committed itself (`Worker.Verdict`).
-/

namespace TaskAgent

namespace Runner

variable {registry : Registry} {address : Address} {number : Nat} {event : Event}
  {runner moved : Runner} {finals : List TaskRecord} {outcome : Outcome}

/-- The final records of a task, as its runner tells them. -/
inductive Judged (address : Address) (runner : Runner) : List TaskRecord → Prop where
  | undecided (isOpen : runner.IsOpen) : Judged address runner []
  | canceled (signal : runner.signal = .interrupted) :
      Judged address runner [(TaskRecord.running runner.submission.key address).cancel]
  | refused (signal : runner.signal = .abandoned) :
      Judged address runner
        [(TaskRecord.running runner.submission.key address).fail refusedCancelMessage]
  | reported (outcome : Outcome) (ceased : runner.isLive = false)
      (signal : runner.signal = .reported) :
      Judged address runner [(TaskRecord.running runner.submission.key address).ended outcome]

/-- The job of the runner has ended in this way, and nothing else is ever reported. -/
def Hands (address : Address) (outcome : Outcome) (runner : Runner) (finals : List TaskRecord) :
    Prop :=
  runner.stage = .ended outcome ∨ runner.stage = .reporting outcome ∨
    runner.isLive = false ∧ (runner.signal = .reported →
      finals = [(TaskRecord.running runner.submission.key address).ended outcome])

/-- An interruption is heard by every runner that has not committed itself. -/
theorem isInterrupted_interrupt_iff (signal : Signal) :
    signal.interrupt.2.isInterrupted = true ↔ signal ≠ .reported := by
  cases signal <;> decide

theorem Lives.isInterrupted_iff (lives : Lives registry number event runner moved)
    (outright : ∀ key, event ≠ .cancel key) :
    moved.signal.isInterrupted = true ↔ runner.signal.isInterrupted = true := by
  cases lives with
  | interrupted => exact absurd rfl (outright _)
  | started stepped =>
      rcases Works.start_cases stepped with ⟨-, queued, rfl⟩ | ⟨-, queued, rfl⟩ | ⟨-, -, rfl⟩
      · simp [queued, Signal.isInterrupted]
      · simp [queued, Signal.isInterrupted]
      · rfl
  | entered stepped =>
      rcases Works.change_cases stepped with ⟨-, rfl⟩
      cases signal : runner.signal <;> simp [Signal.enter, Signal.isInterrupted]
  | left stepped =>
      rcases Works.change_cases stepped with ⟨-, rfl⟩
      cases signal : runner.signal <;> simp [Signal.leave, Signal.isInterrupted]
  | finished stepped =>
      rcases Works.finish_cases stepped with ⟨-, rfl⟩
      rfl
  | committed stepped =>
      rcases Works.commit_cases stepped with ⟨ended, -, ⟨signal | signal, rfl⟩ | ⟨-, -, rfl⟩⟩
      · simp [signal, Signal.isInterrupted]
      · simp [signal, Signal.isInterrupted]
      · rfl
  | _ => rfl

/-- Nothing that its own runner does changes the signal of a task that was called off. -/
theorem Lives.signal_eq (lives : Lives registry number event runner moved)
    (interrupted : runner.signal.isInterrupted = true) : moved.signal = runner.signal := by
  have signal : runner.signal = .interrupted ∨ runner.signal = .abandoned := by
    cases signal : runner.signal <;> simp_all [Signal.isInterrupted]
  cases lives with
  | interrupted => rcases signal with signal | signal <;> simp [signal, Signal.interrupt]
  | started stepped =>
      rcases Works.start_cases stepped with ⟨-, queued, rfl⟩ | ⟨-, queued, rfl⟩ | ⟨-, -, rfl⟩
      · simp [queued] at signal
      · simp [queued] at signal
      · rfl
  | entered stepped =>
      rcases Works.change_cases stepped with ⟨-, rfl⟩
      rcases signal with signal | signal <;> simp [signal, Signal.enter]
  | left stepped =>
      rcases Works.change_cases stepped with ⟨-, rfl⟩
      rcases signal with signal | signal <;> simp [signal, Signal.leave]
  | finished stepped =>
      rcases Works.finish_cases stepped with ⟨-, rfl⟩
      rfl
  | committed stepped =>
      rcases Works.commit_cases stepped with ⟨ended, -, ⟨early, rfl⟩ | ⟨-, -, rfl⟩⟩
      · rcases signal with signal | signal <;> simp [signal] at early
      · rfl
  | _ => rfl

theorem Lives.submission_eq (lives : Lives registry number event runner moved) :
    moved.submission = runner.submission := by
  cases lives with
  | started stepped => exact Works.submission_eq (.start stepped)
  | entered stepped =>
      have works : runner.Works registry moved := .enter stepped
      exact works.submission_eq
  | left stepped =>
      have works : runner.Works registry moved := .leave stepped
      exact works.submission_eq
  | @finished outcome _ _ stepped =>
      have works : runner.Works registry moved := .finish outcome stepped
      exact works.submission_eq
  | committed stepped =>
      have works : runner.Works registry moved := .commit stepped
      exact works.submission_eq
  | _ => rfl

/-- Once the job has ended, the runner commits itself or gives up. -/
theorem Lives.of_ended (lives : Lives registry number event runner moved)
    (outright : ∀ key, event ≠ .cancel key) (stage : runner.stage = .ended outcome) :
    moved = runner ∨ runner.commit? = some moved := by
  cases lives with
  | untouched alien => exact Or.inl rfl
  | interrupted => exact absurd rfl (outright _)
  | granted waits => cases stage.symm.trans waits
  | refused waits => cases stage.symm.trans waits
  | started stepped => simp [start?, stage] at stepped
  | entered stepped => simp [change?, stage] at stepped
  | left stepped => simp [change?, stage] at stepped
  | finished stepped => simp [finish?, stage] at stepped
  | committed stepped => exact Or.inr stepped
  | reported other => cases stage.symm.trans other
  | gone other => cases stage.symm.trans other

/-- A runner that is bound to report does nothing else. -/
theorem Lives.of_reporting (lives : Lives registry number event runner moved)
    (outright : ∀ key, event ≠ .cancel key) (stage : runner.stage = .reporting outcome) :
    (event ≠ .report number ∧ moved = runner) ∨
      (event = .report number ∧ moved = { runner with stage := .leaving }) := by
  cases lives with
  | untouched alien =>
      refine Or.inl ⟨?_, rfl⟩
      rintro rfl
      exact alien rfl
  | interrupted => exact absurd rfl (outright _)
  | granted waits => cases stage.symm.trans waits
  | refused waits => cases stage.symm.trans waits
  | started stepped => simp [start?, stage] at stepped
  | entered stepped => simp [change?, stage] at stepped
  | left stepped => simp [change?, stage] at stepped
  | finished stepped => simp [finish?, stage] at stepped
  | committed stepped => simp [commit?, stage] at stepped
  | reported other => exact Or.inr ⟨rfl, rfl⟩
  | gone other => cases stage.symm.trans other

/-- Whoever has nothing left to do stays so. -/
theorem Lives.of_isLive_eq_false (lives : Lives registry number event runner moved)
    (outright : ∀ key, event ≠ .cancel key) (ceased : runner.isLive = false) :
    moved.isLive = false ∧ moved.signal = runner.signal ∧ event ≠ .report number := by
  have stages : runner.stage = .leaving ∨ runner.stage = .gone := by
    cases stage : runner.stage <;> simp_all [isLive]
  cases lives with
  | untouched alien =>
      refine ⟨ceased, rfl, ?_⟩
      rintro rfl
      exact alien rfl
  | interrupted => exact absurd rfl (outright _)
  | granted waits => simp [waits] at stages
  | refused waits => simp [waits] at stages
  | started stepped => rcases stages with stage | stage <;> simp [start?, stage] at stepped
  | entered stepped => rcases stages with stage | stage <;> simp [change?, stage] at stepped
  | left stepped => rcases stages with stage | stage <;> simp [change?, stage] at stepped
  | finished stepped => rcases stages with stage | stage <;> simp [finish?, stage] at stepped
  | committed stepped => rcases stages with stage | stage <;> simp [commit?, stage] at stepped
  | reported stage => simp [stage] at stages
  | gone stage => exact ⟨rfl, rfl, by simp⟩

/-- Apart from a cancellation only the report of a runner ends its task. -/
theorem ending?_eq_none (outright : ∀ key, event ≠ .cancel key)
    (unreported : event = .report number → ∀ outcome, runner.stage ≠ .reporting outcome) :
    runner.ending? address number event = none := by
  unfold ending?
  split
  · next key => exact absurd rfl (outright key)
  · next place =>
      split
      · next here =>
          subst here
          split
          · next outcome stage => exact absurd stage (unreported rfl outcome)
          · rfl
      · rfl
  · rfl

theorem IsOpen.judged (isOpen : runner.IsOpen) (lives : Lives registry number event runner moved)
    (outright : ∀ key, event ≠ .cancel key) :
    moved.Judged address (runner.ending? address number event).toList := by
  have quiet (unreported : event ≠ .report number) :
      runner.ending? address number event = none :=
    ending?_eq_none outright fun same => absurd same unreported
  cases lives with
  | interrupted => exact absurd rfl (outright _)
  | @reported outcome _ stage =>
      have signal : runner.signal = .reported := by simpa [IsOpen, stage] using isOpen
      have ending : runner.ending? address number (.report number) =
          some ((TaskRecord.running runner.submission.key address).ended outcome) := by
        simp [ending?, stage]
      rw [ending]
      exact .reported outcome rfl signal
  | gone stage => simp [IsOpen, stage] at isOpen
  | untouched alien =>
      rw [ending?_of_alien alien outright]
      exact .undecided isOpen
  | granted waits =>
      rw [quiet (by simp)]
      exact .undecided (isOpen_of_waiting waits (Or.inl rfl) isOpen)
  | refused waits =>
      rw [quiet (by simp)]
      exact .undecided (isOpen_of_waiting waits (Or.inr rfl) isOpen)
  | started stepped =>
      have works : runner.Works registry moved := .start stepped
      rw [quiet (by simp)]
      exact .undecided (works.isOpen isOpen)
  | entered stepped =>
      have works : runner.Works registry moved := .enter stepped
      rw [quiet (by simp)]
      exact .undecided (works.isOpen isOpen)
  | left stepped =>
      have works : runner.Works registry moved := .leave stepped
      rw [quiet (by simp)]
      exact .undecided (works.isOpen isOpen)
  | finished stepped =>
      have works : runner.Works registry moved := .finish _ stepped
      rw [quiet (by simp)]
      exact .undecided (works.isOpen isOpen)
  | committed stepped =>
      have works : runner.Works registry moved := .commit stepped
      rw [quiet (by simp)]
      exact .undecided (works.isOpen isOpen)

theorem Judged.lives (judged : runner.Judged address finals)
    (agreed : runner.IsOpen ∨ runner.IsSettled)
    (lives : Lives registry number event runner moved) (outright : ∀ key, event ≠ .cancel key) :
    moved.Judged address (finals ++ (runner.ending? address number event).toList) := by
  -- a runner whose task was called off is not bound to report
  have quiet (interrupted : runner.signal.isInterrupted = true) :
      runner.ending? address number event = none := by
    refine ending?_eq_none outright fun _ outcome stage => ?_
    have isOpen := isOpen_of_reporting agreed stage
    simp only [IsOpen, stage] at isOpen
    simp [isOpen, Signal.isInterrupted] at interrupted
  cases judged with
  | undecided isOpen => exact isOpen.judged lives outright
  | canceled signal =>
      have interrupted : runner.signal.isInterrupted = true := by rw [signal]; rfl
      rw [quiet interrupted, ← lives.submission_eq]
      exact .canceled ((lives.signal_eq interrupted).trans signal)
  | refused signal =>
      have interrupted : runner.signal.isInterrupted = true := by rw [signal]; rfl
      rw [quiet interrupted, ← lives.submission_eq]
      exact .refused ((lives.signal_eq interrupted).trans signal)
  | reported outcome ceased signal =>
      rcases lives.of_isLive_eq_false outright ceased with ⟨still, same, unreported⟩
      rw [ending?_eq_none outright fun reports => absurd reports unreported,
        ← lives.submission_eq]
      exact .reported outcome still (same.trans signal)

/-- The first cancellation is decisive unless the runner committed itself before, and every later
one comes too late. -/
theorem Judged.cancel (judged : runner.Judged address finals) (key : TaskKey) :
    (runner.next registry number (.cancel key)).Judged address
      (finals ++ (runner.ending? address number (.cancel key)).toList) := by
  simp only [next, ending?]
  split
  · next own =>
      subst own
      by_cases late : runner.signal.interrupt.1 = .tooLate
      · rw [Signal.interrupt_of_tooLate late, late]
        simpa [TaskRecord.calledOff?] using judged
      · cases judged with
        | undecided isOpen =>
            rcases isOpen.signal with signal | signal | signal | signal
            · simpa [signal, Signal.interrupt, TaskRecord.calledOff?] using Judged.canceled rfl
            · simpa [signal, Signal.interrupt, TaskRecord.calledOff?] using Judged.canceled rfl
            · simpa [signal, Signal.interrupt, TaskRecord.calledOff?] using Judged.refused rfl
            · simp [signal, Signal.interrupt] at late
        | canceled signal => simp [signal, Signal.interrupt] at late
        | refused signal => simp [signal, Signal.interrupt] at late
        | reported outcome ceased signal => simp [signal, Signal.interrupt] at late
  · simpa using judged

/-- A task that was called off has one final record, which its signal tells. -/
theorem Judged.eq_of_isInterrupted (judged : runner.Judged address finals)
    (interrupted : runner.signal.isInterrupted = true) :
    finals = [match runner.signal with
      | .abandoned =>
        (TaskRecord.running runner.submission.key address).fail refusedCancelMessage
      | _ => (TaskRecord.running runner.submission.key address).cancel] := by
  cases judged with
  | undecided isOpen =>
      rcases isOpen.signal with signal | signal | signal | signal <;>
        simp [signal, Signal.isInterrupted] at interrupted
  | canceled signal => rw [signal]
  | refused signal => rw [signal]
  | reported outcome ceased signal => simp [signal, Signal.isInterrupted] at interrupted

theorem Judged.of_isInterrupted (judged : runner.Judged address finals)
    (interrupted : runner.signal.isInterrupted = true) :
    finals = [(TaskRecord.running runner.submission.key address).cancel] ∨
      finals =
        [(TaskRecord.running runner.submission.key address).fail refusedCancelMessage] := by
  rw [judged.eq_of_isInterrupted interrupted]
  split
  · exact Or.inr rfl
  · exact Or.inl rfl

theorem Hands.lives (hands : runner.Hands address outcome finals)
    (judged : runner.Judged address finals) (agreed : runner.IsOpen ∨ runner.IsSettled)
    (lives : Lives registry number event runner moved) (outright : ∀ key, event ≠ .cancel key) :
    moved.Hands address outcome (finals ++ (runner.ending? address number event).toList) := by
  rcases hands with stage | stage | ⟨ceased, reported⟩
  · rw [ending?_eq_none outright (by simp [stage]), Option.toList_none, List.append_nil]
    rcases lives.of_ended outright stage with rfl | commits
    · exact Or.inl stage
    · rcases Works.commit_cases commits with ⟨ended, same, ⟨-, rfl⟩ | ⟨late, -, rfl⟩⟩
      · cases stage.symm.trans same
        exact Or.inr (Or.inl rfl)
      · refine Or.inr (Or.inr ⟨rfl, fun signal => ?_⟩)
        have signal : runner.signal = .reported := signal
        rcases agreed with isOpen | settled
        · simp [IsOpen, stage, signal] at isOpen
        · simp [IsSettled, stage, signal] at settled
  · rcases lives.of_reporting outright stage with ⟨unreported, rfl⟩ | ⟨rfl, rfl⟩
    · rw [ending?_eq_none outright fun reports => absurd reports unreported, Option.toList_none,
        List.append_nil]
      exact Or.inr (Or.inl stage)
    · refine Or.inr (Or.inr ⟨rfl, fun signal => ?_⟩)
      have signal : runner.signal = .reported := signal
      cases judged with
      | undecided isOpen => simp [ending?, stage]
      | canceled other => cases signal.symm.trans other
      | refused other => cases signal.symm.trans other
      | reported other ceased => simp [isLive, stage] at ceased
  · rcases lives.of_isLive_eq_false outright ceased with ⟨still, same, unreported⟩
    rw [ending?_eq_none outright fun reports => absurd reports unreported]
    refine Or.inr (Or.inr ⟨still, fun signal => ?_⟩)
    rw [lives.submission_eq]
    simpa using reported (same ▸ signal)

theorem Hands.cancel (hands : runner.Hands address outcome finals) (key : TaskKey) :
    (runner.next registry number (.cancel key)).Hands address outcome
      (finals ++ (runner.ending? address number (.cancel key)).toList) := by
  simp only [next, ending?]
  split
  · refine hands.imp_right (Or.imp_right ?_)
    rintro ⟨ceased, reported⟩
    refine ⟨ceased, fun signal => ?_⟩
    have committed : runner.signal = .reported := by
      cases before : runner.signal <;> simp [before, Signal.interrupt] at signal ⊢
    simpa [committed, Signal.interrupt, TaskRecord.calledOff?] using reported committed
  · simpa using hands

/-- A report is the only way to be done with a task as reported. -/
theorem Lives.isLive_eq_false_iff (lives : Lives registry number event runner moved)
    (agreed : runner.IsOpen ∨ runner.IsSettled) (outright : ∀ key, event ≠ .cancel key)
    (unreported : event ≠ .report number) :
    moved.isLive = false ∧ moved.signal = .reported ↔
      runner.isLive = false ∧ runner.signal = .reported := by
  constructor
  · rintro ⟨ceased, signal⟩
    cases lives with
    | untouched alien => exact ⟨ceased, signal⟩
    | interrupted => exact absurd rfl (outright _)
    | granted waits => cases ceased
    | refused waits => cases ceased
    | started stepped =>
        rcases Works.start_cases stepped with ⟨-, -, rfl⟩ | ⟨-, -, rfl⟩ | ⟨stage, -, rfl⟩
        · cases signal
        · cases signal
        · have signal : runner.signal = .reported := signal
          rcases agreed with isOpen | settled
          · rcases stage with stage | stage <;> simp [IsOpen, stage, signal] at isOpen
          · rcases stage with stage | stage <;> simp [IsSettled, stage, signal] at settled
    | entered stepped =>
        rcases Works.change_cases stepped with ⟨⟨definition, stage⟩, rfl⟩
        simp [isLive, stage] at ceased
    | left stepped =>
        rcases Works.change_cases stepped with ⟨⟨definition, stage⟩, rfl⟩
        simp [isLive, stage] at ceased
    | finished stepped =>
        rcases Works.finish_cases stepped with ⟨-, rfl⟩
        cases ceased
    | committed stepped =>
        rcases Works.commit_cases stepped with ⟨outcome, stage, ⟨-, rfl⟩ | ⟨-, -, rfl⟩⟩
        · cases ceased
        · have signal : runner.signal = .reported := signal
          rcases agreed with isOpen | settled
          · simp [IsOpen, stage, signal] at isOpen
          · simp [IsSettled, stage, signal] at settled
    | reported stage => exact absurd rfl unreported
    | gone stage => exact ⟨by simp [isLive, stage], signal⟩
  · rintro ⟨ceased, signal⟩
    rcases lives.of_isLive_eq_false outright ceased with ⟨still, same, -⟩
    exact ⟨still, same.trans signal⟩

end Runner

namespace Worker

variable {start worker changed : Worker} {past events : List Event} {event : Event} {number : Nat}
  {runner : Runner}

/-- What a run and the runner of a task in it say of how the task ends. -/
structure Verdict (start : Worker) (past : List Event) (number : Nat) (runner : Runner) : Prop where
  calledOff : start.CalledOff past number ↔ runner.signal.isInterrupted = true
  judged : runner.Judged start.tracker.address ((start.chronicle past).finals number)
  hands : ∀ outcome, .finish number outcome ∈ past →
    runner.Hands start.tracker.address outcome ((start.chronicle past).finals number)
  reported : .report number ∈ past ↔ runner.isLive = false ∧ runner.signal = .reported

/-- Nothing was heard of a task that has not come yet. -/
structure Unheard (start : Worker) (past : List Event) (number : Nat) : Prop where
  uncalled : ¬start.CalledOff past number
  unended : (start.chronicle past).finals number = []
  unmoved : ∀ event ∈ past, event.mover? ≠ some number

/-- The final records of a task after one more event. -/
theorem finals_concat (ran : start.run? past = some worker) (coherent : worker.Coherent)
    (stepped : worker.step? event = some changed) (own : event.isDeclaration = false)
    (found : worker.runners[number]? = some runner) :
    (start.chronicle (past ++ [event])).finals number =
      (start.chronicle past).finals number ++
        (runner.ending? start.tracker.address number event).toList := by
  rw [chronicle_append ran, chronicle_cons_of_step? stepped, Chronicle.finals_append,
    Chronicle.finals_append, coherent.finals_made? own found, address_of_run? ran]
  simp [chronicle]

theorem Verdict.calledOff_iff (verdict : start.Verdict past number runner)
    (ran : start.run? past = some worker) (found : worker.runners[number]? = some runner) :
    start.CalledOff (past ++ [event]) number ↔
      runner.signal.isInterrupted = true ∨
        event = .cancel runner.submission.key ∧ runner.signal ≠ .reported := by
  rw [calledOff_concat_iff ran, verdict.calledOff]
  simp [found]

theorem Verdict.cancel {key : TaskKey} (verdict : start.Verdict past number runner)
    (ran : start.run? past = some worker) (coherent : worker.Coherent)
    (stepped : worker.step? (.cancel key) = some changed)
    (found : worker.runners[number]? = some runner) :
    start.Verdict (past ++ [.cancel key]) number
      (runner.next worker.registry number (.cancel key)) := by
  have finals_eq := finals_concat ran coherent stepped rfl found
  constructor
  · rw [verdict.calledOff_iff ran found]
    simp only [Runner.next]
    split
    · next same =>
        rw [Runner.isInterrupted_interrupt_iff, same]
        cases runner.signal <;> simp [Signal.isInterrupted]
    · next differs => simp [differs]
  · rw [finals_eq]
    exact verdict.judged.cancel key
  · intro outcome finishes
    rw [finals_eq]
    exact (verdict.hands outcome (by simpa using finishes)).cancel key
  · rw [List.mem_append, verdict.reported]
    simp only [Runner.next]
    split
    · cases runner.signal <;> simp [Signal.interrupt, Runner.isLive]
    · simp

theorem Verdict.lives {moved : Runner} (verdict : start.Verdict past number runner)
    (ran : start.run? past = some worker) (coherent : worker.Coherent)
    (stepped : worker.step? event = some changed) (own : event.isDeclaration = false)
    (found : worker.runners[number]? = some runner)
    (lives : runner.Lives worker.registry number event moved)
    (outright : ∀ key, event ≠ .cancel key) :
    start.Verdict (past ++ [event]) number moved := by
  have agreed := coherent.agreed found
  have finals_eq := finals_concat ran coherent stepped own found
  constructor
  · rw [verdict.calledOff_iff ran found, lives.isInterrupted_iff outright]
    simp [outright]
  · rw [finals_eq]
    exact verdict.judged.lives agreed lives outright
  · intro outcome finishes
    rw [finals_eq]
    rcases List.mem_append.mp finishes with before | now
    · exact (verdict.hands outcome before).lives verdict.judged agreed lives outright
    · cases List.mem_singleton.mp now
      cases lives with
      | untouched alien => exact absurd rfl alien
      | finished stepped =>
          rcases Runner.Works.finish_cases stepped with ⟨-, rfl⟩
          exact Or.inl rfl
  · by_cases reports : event = .report number
    · subst reports
      cases lives with
      | untouched alien => exact absurd rfl alien
      | @reported outcome _ stage =>
          have isOpen := Runner.isOpen_of_reporting agreed stage
          have signal : runner.signal = .reported := by simpa [Runner.IsOpen, stage] using isOpen
          simp [Runner.isLive, signal]
    · rw [lives.isLive_eq_false_iff agreed outright reports, ← verdict.reported, List.mem_append,
        List.mem_singleton]
      exact or_iff_left (Ne.symm reports)

theorem Verdict.step (verdict : start.Verdict past number runner)
    (ran : start.run? past = some worker) (coherent : worker.Coherent)
    (stepped : worker.step? event = some changed) (own : event.isDeclaration = false)
    (found : worker.runners[number]? = some runner) :
    start.Verdict (past ++ [event]) number (runner.next worker.registry number event) := by
  by_cases called : ∃ key, event = .cancel key
  · rcases called with ⟨key, rfl⟩
    exact verdict.cancel ran coherent stepped found
  · have outright : ∀ key, event ≠ .cancel key := fun key same => called ⟨key, same⟩
    rcases lives_of_step? stepped found with ⟨moved, -, lives⟩
    rw [Runner.next_of_lives lives outright]
    exact verdict.lives ran coherent stepped own found lives outright

/-- A task that comes is heard of for the first time. -/
theorem Unheard.verdict (unheard : start.Unheard past number) (submission : Submission) :
    start.Verdict past number (.ofSubmission submission) := by
  constructor
  · exact iff_of_false unheard.uncalled (by simp [Runner.ofSubmission, Signal.isInterrupted])
  · rw [unheard.unended]
    exact .undecided (Runner.isOpen_ofSubmission submission)
  · intro outcome finishes
    exact absurd rfl (unheard.unmoved _ finishes)
  · refine iff_of_false (fun reports => unheard.unmoved _ reports rfl) ?_
    simp [Runner.ofSubmission, Runner.isLive]

theorem Unheard.step (unheard : start.Unheard past number) (ran : start.run? past = some worker)
    (coherent : worker.Coherent) (stepped : worker.step? event = some changed)
    (absent : worker.runners[number]? = none) : start.Unheard (past ++ [event]) number := by
  constructor
  · rw [calledOff_concat_iff ran]
    simp [unheard.uncalled, absent]
  · rw [chronicle_append ran, chronicle_cons_of_step? stepped, Chronicle.finals_append,
      Chronicle.finals_append, unheard.unended, coherent.finals_made?_of_absent absent]
    simp [chronicle]
  · intro other member mover
    rcases List.mem_append.mp member with before | now
    · exact unheard.unmoved other before mover
    · cases List.mem_singleton.mp now
      rcases exists_of_mover? stepped mover with ⟨runner, found⟩
      rw [absent] at found
      cases found

/-- In every run the runner of a task tells how the task ends. -/
theorem verdict_of_run? {pool : Pool} {registry : Registry} {address : Address}
    (ran : (make pool registry address).run? events = some worker)
    (own : ∀ event ∈ events, event.isDeclaration = false)
    (found : worker.runners[number]? = some runner) :
    (make pool registry address).Verdict events number runner := by
  let motive (past : List Event) (worker : Worker) : Prop :=
    (∀ event ∈ past, event.isDeclaration = false) →
      (worker.runners[number]? = none → (make pool registry address).Unheard past number) ∧
      ∀ runner, worker.runners[number]? = some runner →
        (make pool registry address).Verdict past number runner
  have holds : motive events worker := by
    apply run?_induction ran
    · intro _
      refine ⟨fun _ => ⟨not_calledOff_nil, rfl, by simp⟩, ?_⟩
      intro runner found
      simp [make] at found
    · intro past before event after reached stepped earlier own
      have ownPast : ∀ event ∈ past, event.isDeclaration = false := fun event member =>
        own event (List.mem_append_left _ member)
      have ownEvent : event.isDeclaration = false := own event (by simp)
      have coherent := coherent_of_run? reached ownPast (coherent_make pool registry address)
      rcases earlier ownPast with ⟨absently, presently⟩
      cases foundBefore : before.runners[number]? with
      | some old =>
          have verdict := (presently old foundBefore).step reached coherent stepped ownEvent
            foundBefore
          rw [coherent.next_of_step? stepped foundBefore]
          refine ⟨by simp, ?_⟩
          rintro runner ⟨⟩
          exact verdict
      | none =>
          have unheard := (absently foundBefore).step reached coherent stepped foundBefore
          refine ⟨fun _ => unheard, ?_⟩
          intro runner found
          rcases ofSubmission_of_step? stepped foundBefore found with ⟨-, submission, rfl⟩
          exact unheard.verdict submission
  exact (holds own).2 runner found

/-- A task that was called off is not called off again. -/
theorem getElem?_runners_cancel_of_isInterrupted (found : worker.runners[number]? = some runner)
    (interrupted : runner.signal.isInterrupted = true) (key : TaskKey) :
    (worker.cancel key).runners[number]? = some runner := by
  have stepped : worker.step? (.cancel key) = some (worker.cancel key) := rfl
  rcases lives_of_step? stepped found with ⟨moved, foundAfter, lives⟩
  cases lives with
  | untouched => exact foundAfter
  | interrupted =>
      have same : runner.signal.interrupt.2 = runner.signal := by
        cases signal : runner.signal <;> simp [signal, Signal.isInterrupted, Signal.interrupt] at *
      rwa [same] at foundAfter

/-- Whatever comes after the cancellation of a task, it leaves the final record alone. -/
theorem finals_of_calledOff {pool : Pool} {registry : Registry} {address : Address}
    {final : Worker} {later : List Event}
    (reached : (make pool registry address).run? past = some worker)
    (ran : worker.run? later = some final)
    (own : ∀ event ∈ past, event.isDeclaration = false)
    (ownLater : ∀ event ∈ later, event.isDeclaration = false)
    (found : worker.runners[number]? = some runner)
    (interrupted : runner.signal.isInterrupted = true) :
    ((make pool registry address).chronicle (past ++ later)).finals number =
      ((make pool registry address).chronicle past).finals number := by
  have kept := runner_keeps_of_run? ran found ⟨rfl, rfl⟩ (motive := fun moved =>
    moved.signal = runner.signal ∧ moved.submission = runner.submission) fun lives same =>
      ⟨(lives.signal_eq (same.1 ▸ interrupted)).trans same.1, lives.submission_eq.trans same.2⟩
  rcases kept with ⟨moved, foundAfter, signal, submission⟩
  have whole : (make pool registry address).run? (past ++ later) = some final := by
    rw [run?_append, reached]
    exact ran
  have ownWhole : ∀ event ∈ past ++ later, event.isDeclaration = false := by
    intro event member
    exact (List.mem_append.mp member).elim (own event) (ownLater event)
  rw [(verdict_of_run? whole ownWhole foundAfter).judged.eq_of_isInterrupted
    (signal ▸ interrupted), (verdict_of_run? reached own found).judged.eq_of_isInterrupted
    interrupted, signal, submission]

end Worker

end TaskAgent
