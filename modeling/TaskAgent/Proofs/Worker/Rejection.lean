import Mathlib.Data.List.Induction
import TaskAgent.Proofs.Worker.Conservation
import TaskAgent.Proofs.Worker.Fate

/-!
# Tasks that never get a slot

The runner of a task that never gets a slot waits until it is turned away from the closed pool,
and from then on goes through the same handshake as a runner whose job has ended. Where it stands
tells which final record its task has (`Runner.dismissal?`): none while nothing has decided the
end, a canceled one if it was called off before its rejection was committed, and a failed one with
the message of the closed pool once the rejection is reported.

Both laws are kept by every event but the grant of a slot, so they hold in every run in which the
runner is not given one (`Worker.dismissed_of_run?`).
-/

namespace TaskAgent

namespace Runner

variable {registry : Registry} {address : Address} {number : Nat} {event : Event}
  {runner moved : Runner}

/-- The runner has never had a slot. -/
def IsUnserved (runner : Runner) : Prop :=
  match runner.stage with
  | .waiting | .refused => runner.signal = .queued ∨ runner.signal = .interrupted
  | .ended outcome =>
    outcome = .error .poolClosed ∧ (runner.signal = .running ∨ runner.signal = .interrupted)
  | .reporting outcome => outcome = .error .poolClosed ∧ runner.signal = .reported
  | .leaving | .gone => runner.signal = .interrupted ∨ runner.signal = .reported
  | .admitted | .working _ => False

/-- The final record of a task whose runner has never had a slot. -/
def dismissal? (address : Address) (runner : Runner) : Option TaskRecord :=
  match runner.signal, runner.stage with
  | .interrupted, _ => some (TaskRecord.running runner.submission.key address).cancel
  | .reported, .leaving | .reported, .gone =>
    some ((TaskRecord.running runner.submission.key address).ended (.error .poolClosed))
  | _, _ => none

theorem isUnserved_ofSubmission (submission : Submission) : (ofSubmission submission).IsUnserved :=
  Or.inl rfl

theorem IsUnserved.isWorking_eq_false (unserved : runner.IsUnserved) :
    runner.isWorking = false := by
  rcases runner with ⟨submission, signal, stage, slot⟩
  cases stage with
  | working definition => exact unserved.elim
  | _ => rfl

/-- What an event that calls nothing off may make of a runner that never gets a slot. -/
inductive TurnsAway (number : Nat) : Event → Runner → Runner → Prop where
  | untouched {event : Event} {runner : Runner} (alien : event.mover? ≠ some number) :
      TurnsAway number event runner runner
  | refused {runner : Runner} (waits : runner.stage = .waiting)
      (signal : runner.signal = .queued ∨ runner.signal = .interrupted) :
      TurnsAway number (.refuse number) runner { runner with stage := .refused }
  | started {runner : Runner} (signal : runner.signal = .queued) :
      TurnsAway number (.start number) runner
        { runner with signal := .running, stage := .ended (.error .poolClosed) }
  | skipped {runner : Runner} (signal : runner.signal = .interrupted) :
      TurnsAway number (.start number) runner { runner with stage := .leaving }
  | committed {runner : Runner} (signal : runner.signal = .running) :
      TurnsAway number (.commit number) runner
        { runner with signal := .reported, stage := .reporting (.error .poolClosed) }
  | withdrawn {runner : Runner} (signal : runner.signal = .interrupted) :
      TurnsAway number (.commit number) runner { runner with stage := .leaving }
  | reported {runner : Runner} (stage : runner.stage = .reporting (.error .poolClosed))
      (signal : runner.signal = .reported) :
      TurnsAway number (.report number) runner { runner with stage := .leaving }
  | gone {runner : Runner} (stage : runner.stage = .leaving)
      (signal : runner.signal = .interrupted ∨ runner.signal = .reported) :
      TurnsAway number (.exit number) runner { runner with stage := .gone, slot := false }

theorem IsUnserved.idle (unserved : runner.IsUnserved) (definition : Definition) :
    runner.stage ≠ .working definition := by
  intro stage
  simp [IsUnserved, stage] at unserved

theorem Lives.turnsAway (lives : Lives registry number event runner moved)
    (unserved : runner.IsUnserved) (ungranted : event ≠ .grant number)
    (outright : ∀ key, event ≠ .cancel key) : TurnsAway number event runner moved := by
  cases lives with
  | untouched alien => exact .untouched alien
  | interrupted => exact absurd rfl (outright _)
  | granted waits => exact absurd rfl ungranted
  | refused waits =>
      simp only [IsUnserved, waits] at unserved
      exact .refused waits unserved
  | started stepped =>
      rcases Works.start_cases stepped with
        ⟨stage, -, -⟩ | ⟨-, signal, rfl⟩ | ⟨stage | stage, late, rfl⟩
      · simp [IsUnserved, stage] at unserved
      · exact .started signal
      · simp [IsUnserved, stage] at unserved
      · simp only [IsUnserved, stage, late, false_or] at unserved
        exact .skipped unserved
  | entered stepped =>
      rcases Works.change_cases stepped with ⟨⟨definition, stage⟩, -⟩
      exact absurd stage (unserved.idle definition)
  | left stepped =>
      rcases Works.change_cases stepped with ⟨⟨definition, stage⟩, -⟩
      exact absurd stage (unserved.idle definition)
  | finished stepped =>
      rcases Works.finish_cases stepped with ⟨⟨definition, stage⟩, -⟩
      exact absurd stage (unserved.idle definition)
  | committed stepped =>
      rcases Works.commit_cases stepped with ⟨outcome, stage, moves⟩
      simp only [IsUnserved, stage] at unserved
      rcases unserved with ⟨rfl, signal | signal⟩
      · rcases moves with ⟨-, rfl⟩ | ⟨late, -, -⟩
        · exact .committed signal
        · exact absurd signal late
      · rcases moves with ⟨early, -⟩ | ⟨-, -, rfl⟩
        · simp [signal] at early
        · exact .withdrawn signal
  | reported stage =>
      simp only [IsUnserved, stage] at unserved
      rcases unserved with ⟨rfl, signal⟩
      exact .reported stage signal
  | gone stage =>
      simp only [IsUnserved, stage] at unserved
      exact .gone stage unserved

theorem TurnsAway.isUnserved (turns : TurnsAway number event runner moved)
    (unserved : runner.IsUnserved) : moved.IsUnserved := by
  cases turns with
  | untouched alien => exact unserved
  | refused waits signal => exact signal
  | started signal => exact ⟨rfl, Or.inl rfl⟩
  | skipped signal => exact Or.inl signal
  | committed signal => exact ⟨rfl, rfl⟩
  | withdrawn signal => exact Or.inl signal
  | reported stage signal => exact Or.inr signal
  | gone stage signal => exact signal

/-- No step of the runner itself calls its task off. -/
theorem TurnsAway.interrupted_iff (turns : TurnsAway number event runner moved) :
    moved.signal = .interrupted ↔ runner.signal = .interrupted := by
  cases turns with
  | started signal => simp [signal]
  | committed signal => simp [signal]
  | _ => rfl

theorem ending?_of_alien (alien : event.mover? ≠ some number)
    (outright : ∀ key, event ≠ .cancel key) (runner : Runner) (address : Address) :
    runner.ending? address number event = none := by
  unfold ending?
  split
  · next key => exact absurd rfl (outright key)
  · next place =>
      rw [if_neg]
      intro here
      exact alien (congrArg some here)
  · rfl

/-- What becomes of the runner tells which final record the event leads to. -/
theorem TurnsAway.dismissal? (turns : TurnsAway number event runner moved)
    (outright : ∀ key, event ≠ .cancel key) :
    (moved.dismissal? address).toList =
      (runner.dismissal? address).toList ++ (runner.ending? address number event).toList := by
  cases turns with
  | untouched alien => simp [ending?_of_alien alien outright]
  | refused waits signal =>
      rcases signal with signal | signal <;> simp [Runner.dismissal?, ending?, signal, waits]
  | started signal => simp [Runner.dismissal?, ending?, signal]
  | skipped signal => simp [Runner.dismissal?, ending?, signal]
  | committed signal => simp [Runner.dismissal?, ending?, signal]
  | withdrawn signal => simp [Runner.dismissal?, ending?, signal]
  | reported stage signal => simp [Runner.dismissal?, ending?, stage, signal]
  | gone stage signal =>
      rcases signal with signal | signal <;> simp [Runner.dismissal?, ending?, stage, signal]

namespace IsUnserved

theorem isUnserved_cancel (unserved : runner.IsUnserved) (key : TaskKey) :
    (runner.next registry number (.cancel key)).IsUnserved := by
  simp only [next]
  split
  · rcases runner with ⟨submission, signal, stage, slot⟩
    cases stage <;> cases signal <;> simp_all [IsUnserved, Signal.interrupt]
  · exact unserved

theorem interrupted_cancel_iff (unserved : runner.IsUnserved) (key : TaskKey) :
    (runner.next registry number (.cancel key)).signal = .interrupted ↔
      runner.signal = .interrupted ∨ key = runner.submission.key ∧ runner.signal ≠ .reported := by
  simp only [next]
  split
  · next own =>
      rcases runner with ⟨submission, signal, stage, slot⟩
      cases stage <;> cases signal <;> simp_all [IsUnserved, Signal.interrupt]
  · next differs => simp [differs]

theorem dismissal?_cancel (unserved : runner.IsUnserved) (key : TaskKey) :
    ((runner.next registry number (.cancel key)).dismissal? address).toList =
      (runner.dismissal? address).toList ++
        (runner.ending? address number (.cancel key)).toList := by
  simp only [next, ending?]
  split
  · next own =>
      subst own
      rcases runner with ⟨submission, signal, stage, slot⟩
      cases stage <;> cases signal <;>
        simp_all [IsUnserved, dismissal?, Signal.interrupt, TaskRecord.calledOff?]
  · simp

end IsUnserved

end Runner

namespace Worker

variable {start worker changed final : Worker} {past events : List Event} {event : Event}
  {number : Nat} {runner : Runner}

/-- The task that was accepted in a place was called off before its runner was bound to report. -/
def CalledOff (start : Worker) (events : List Event) (number : Nat) : Prop :=
  ∃ earlier later worker runner, events = earlier ++ .cancel runner.submission.key :: later ∧
    start.run? earlier = some worker ∧ worker.runners[number]? = some runner ∧
      runner.signal ≠ .reported

theorem not_calledOff_nil : ¬start.CalledOff [] number := by
  rintro ⟨earlier, later, worker, runner, nothing, -⟩
  simp at nothing

theorem CalledOff.append (calledOff : start.CalledOff past number) (events : List Event) :
    start.CalledOff (past ++ events) number := by
  rcases calledOff with ⟨earlier, later, worker, runner, rfl, facts⟩
  exact ⟨earlier, later ++ events, worker, runner, by simp, facts⟩

theorem calledOff_concat_iff (ran : start.run? past = some worker) :
    start.CalledOff (past ++ [event]) number ↔
      start.CalledOff past number ∨
        ∃ runner, worker.runners[number]? = some runner ∧
          event = .cancel runner.submission.key ∧ runner.signal ≠ .reported := by
  constructor
  · rintro ⟨earlier, later, between, runner, parts, reached, found, early⟩
    rcases List.eq_nil_or_concat later with rfl | ⟨rest, last, rfl⟩
    · rcases List.append_inj' parts rfl with ⟨rfl, same⟩
      cases reached.symm.trans ran
      cases same
      exact Or.inr ⟨runner, found, rfl, early⟩
    · rw [List.concat_eq_append, ← List.cons_append, ← List.append_assoc] at parts
      rcases List.append_inj' parts rfl with ⟨rfl, -⟩
      exact Or.inl ⟨earlier, rest, between, runner, rfl, reached, found, early⟩
  · rintro (calledOff | ⟨runner, found, rfl, early⟩)
    · exact calledOff.append [event]
    · exact ⟨past, [], worker, runner, rfl, ran, found, early⟩

/-- What holds of the start and is carried on by every event holds of every run. -/
theorem run?_induction {motive : List Event → Worker → Prop}
    (ran : start.run? events = some final) (initially : motive [] start)
    (kept : ∀ past before event after, start.run? past = some before →
      before.step? event = some after → motive past before → motive (past ++ [event]) after) :
    motive events final := by
  induction events using List.reverseRecOn generalizing final with
  | nil =>
      cases ran
      exact initially
  | append_singleton past event ih =>
      rw [run?_append] at ran
      rcases Option.bind_eq_some_iff.mp ran with ⟨before, reached, rest⟩
      rcases exists_of_run?_cons rest with ⟨after, stepped, ended⟩
      cases ended
      exact kept past before event final reached stepped (ih reached)

theorem Coherent.finals_made?_of_absent (coherent : worker.Coherent)
    (absent : worker.runners[number]? = none) :
    Chronicle.finals (worker.made? event).toList number = [] := by
  by_cases ends : ∃ key record, worker.effect event = .finish key record
  · rcases ends with ⟨key, record, finishes⟩
    rw [finals_made?_of_finish finishes, if_neg]
    intro handle
    rcases coherent.handle_iff.mp handle with ⟨runner, found, -⟩
    rw [absent] at found
    cases found
  · apply finals_made?_of_continues
    intro key record finishes
    exact ends ⟨key, record, finishes⟩

/-- Where the runner stands, how its task has ended and whether it was called off agree. -/
structure Dismissed (start : Worker) (events : List Event) (number : Nat) (runner : Runner) :
    Prop where
  unserved : runner.IsUnserved
  finals : (start.chronicle events).finals number =
    (runner.dismissal? start.tracker.address).toList
  calledOff : start.CalledOff events number ↔ runner.signal = .interrupted

theorem Dismissed.step (dismissed : start.Dismissed past number runner)
    (ran : start.run? past = some worker) (coherent : worker.Coherent)
    (stepped : worker.step? event = some changed) (own : event.isDeclaration = false)
    (ungranted : event ≠ .grant number) (found : worker.runners[number]? = some runner) :
    start.Dismissed (past ++ [event]) number (runner.next worker.registry number event) := by
  have chronicle_eq : (start.chronicle (past ++ [event])).finals number =
      (runner.dismissal? start.tracker.address).toList ++
        (runner.ending? start.tracker.address number event).toList := by
    rw [chronicle_append ran, chronicle_cons_of_step? stepped, Chronicle.finals_append,
      Chronicle.finals_append, dismissed.finals, coherent.finals_made? own found,
      address_of_run? ran]
    simp [chronicle]
  have calledOff_iff : start.CalledOff (past ++ [event]) number ↔
      runner.signal = .interrupted ∨
        event = .cancel runner.submission.key ∧ runner.signal ≠ .reported := by
    rw [calledOff_concat_iff ran, dismissed.calledOff]
    simp [found]
  by_cases called : ∃ key, event = .cancel key
  · rcases called with ⟨key, rfl⟩
    constructor
    · exact dismissed.unserved.isUnserved_cancel key
    · rw [chronicle_eq, dismissed.unserved.dismissal?_cancel]
    · rw [calledOff_iff, dismissed.unserved.interrupted_cancel_iff, Event.cancel.injEq]
  · have outright : ∀ key, event ≠ .cancel key := fun key same => called ⟨key, same⟩
    rcases lives_of_step? stepped found with ⟨moved, -, lives⟩
    have turns := lives.turnsAway dismissed.unserved ungranted outright
    rw [Runner.next_of_lives lives outright]
    constructor
    · exact turns.isUnserved dismissed.unserved
    · rw [chronicle_eq, turns.dismissal? outright]
    · rw [calledOff_iff, turns.interrupted_iff]
      simp [outright]

/-- As long as a runner is given no slot, its rejection and its cancellation are all that can
happen to its task. -/
theorem dismissed_of_run? {pool : Pool} {registry : Registry} {address : Address}
    (ran : (make pool registry address).run? events = some worker)
    (own : ∀ event ∈ events, event.isDeclaration = false) (ungranted : .grant number ∉ events)
    (found : worker.runners[number]? = some runner) :
    (make pool registry address).Dismissed events number runner := by
  -- a task that is not there yet has no past
  let motive (past : List Event) (worker : Worker) : Prop :=
    (∀ event ∈ past, event.isDeclaration = false) → .grant number ∉ past →
      (worker.runners[number]? = none →
        ((make pool registry address).chronicle past).finals number = [] ∧
          ¬(make pool registry address).CalledOff past number) ∧
      ∀ runner, worker.runners[number]? = some runner →
        (make pool registry address).Dismissed past number runner
  have holds : motive events worker := by
    apply run?_induction ran
    · intro _ _
      refine ⟨fun _ => ⟨rfl, not_calledOff_nil⟩, ?_⟩
      intro runner found
      simp [make] at found
    · intro past before event after reached stepped earlier own ungranted
      have ownPast : ∀ event ∈ past, event.isDeclaration = false := fun event member =>
        own event (List.mem_append_left _ member)
      have ownEvent : event.isDeclaration = false := own event (by simp)
      have ungrantedEvent : event ≠ .grant number := by
        rintro rfl
        simp at ungranted
      have coherent := coherent_of_run? reached ownPast (coherent_make pool registry address)
      rcases earlier ownPast fun member => ungranted (List.mem_append_left _ member) with
        ⟨absently, presently⟩
      cases foundBefore : before.runners[number]? with
      | some old =>
          have dismissed := (presently old foundBefore).step reached coherent stepped ownEvent
            ungrantedEvent foundBefore
          rw [coherent.next_of_step? stepped foundBefore]
          refine ⟨by simp, ?_⟩
          rintro runner ⟨⟩
          exact dismissed
      | none =>
          rcases absently foundBefore with ⟨unended, uncalled⟩
          have finals : ((make pool registry address).chronicle (past ++ [event])).finals number =
              [] := by
            rw [chronicle_append reached, chronicle_cons_of_step? stepped, Chronicle.finals_append,
              Chronicle.finals_append, unended, coherent.finals_made?_of_absent foundBefore]
            simp [chronicle]
          have still : ¬(make pool registry address).CalledOff (past ++ [event]) number := by
            rw [calledOff_concat_iff reached]
            simp [uncalled, foundBefore]
          refine ⟨fun _ => ⟨finals, still⟩, ?_⟩
          intro runner found
          rcases ofSubmission_of_step? stepped foundBefore found with ⟨-, submission, rfl⟩
          exact ⟨Runner.isUnserved_ofSubmission submission, finals,
            iff_of_false still (by simp [Runner.ofSubmission])⟩
  exact (holds own ungranted).2 runner found

end Worker

end TaskAgent
