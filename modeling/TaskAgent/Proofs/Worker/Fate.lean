import TaskAgent.Proofs.Worker.FinalRecord
import TaskAgent.Proofs.Worker.Life

/-!
# The fate of one task

As long as only runners report, few events make a difference to a runner: its own steps, the
cancellations of its task, and the jobs that are made known (`Event.concerns`). What they make of
it and which final records they lead to is a matter of the runner alone (`Runner.next`,
`Runner.ending?`), whatever the other runners do and whether the pool is open or closed.

So two runs that agree on these events end with the same runner and the same final records
(`Worker.fate_congr`).
-/

namespace TaskAgent

/-- Whether an event can make a difference to the runner in a place, whose task has this key. -/
def Event.concerns (number : Nat) (key : TaskKey) (event : Event) : Bool :=
  match event with
  | .cancel task => decide (task = key)
  | .register _ _ => true
  | event => decide (event.mover? = some number)

/-- The known jobs after an event. -/
def Registry.after (registry : Registry) : Event → Registry
  | .register name definition => registry.insert name definition
  | _ => registry

/-- The final records of the task that was accepted in a place. -/
def Chronicle.finals (chronicle : Chronicle) (number : Nat) : List TaskRecord :=
  (chronicle.filter fun entry => entry.isFinal && entry.number == some number).map Entry.record

@[simp] theorem Chronicle.finals_nil (number : Nat) : finals [] number = [] := rfl

@[simp] theorem Chronicle.finals_append (chronicle later : Chronicle) (number : Nat) :
    finals (chronicle ++ later) number = chronicle.finals number ++ later.finals number := by
  simp [finals]

theorem Signal.interrupt_of_tooLate {signal : Signal} (late : signal.interrupt.1 = .tooLate) :
    signal.interrupt.2 = signal := by
  cases signal <;> simp_all [interrupt]

namespace Runner

variable {number place : Nat} {runner moved : Runner}

theorem IsSettled.interrupt (settled : runner.IsSettled) :
    runner.signal.interrupt = (.tooLate, runner.signal) := by
  rcases runner with ⟨submission, signal, stage, slot⟩
  cases stage <;> cases signal <;> simp_all [IsSettled, Signal.interrupt]

/-- The runner after a step of its own. -/
def move? (registry : Registry) (runner : Runner) : Event → Option Runner
  | .grant _ => some { runner with stage := .admitted, slot := true }
  | .refuse _ => some { runner with stage := .refused }
  | .start _ => runner.start? registry
  | .enter _ => runner.change? Signal.enter
  | .leave _ => runner.change? Signal.leave
  | .finish _ outcome => runner.finish? outcome
  | .commit _ => runner.commit?
  | .report _ => some { runner with stage := .leaving }
  | .exit _ => some { runner with stage := .gone, slot := false }
  | _ => none

/-- The runner in a place after an event that can happen. -/
def next (registry : Registry) (number : Nat) (runner : Runner) (event : Event) : Runner :=
  match event with
  | .cancel key =>
    if key = runner.submission.key then { runner with signal := runner.signal.interrupt.2 }
    else runner
  | event =>
    if event.mover? = some number then (runner.move? registry event).getD runner else runner

/-- The final record that an event leads to for the task of the runner in a place. -/
def ending? (address : Address) (number : Nat) (runner : Runner) : Event → Option TaskRecord
  | .cancel key =>
    if key = runner.submission.key then
      (TaskRecord.running key address).calledOff? runner.signal.interrupt.1
    else none
  | .report place =>
    if place = number then
      match runner.stage with
      | .reporting outcome =>
        some ((TaskRecord.running runner.submission.key address).ended outcome)
      | _ => none
    else none
  | _ => none

theorem next_of_lives {registry : Registry} {event : Event}
    (lives : Lives registry number event runner moved)
    (outright : ∀ key, event ≠ .cancel key) : runner.next registry number event = moved := by
  cases lives with
  | untouched alien =>
      unfold next
      split
      · next key => exact absurd rfl (outright key)
      · exact if_neg alien
  | interrupted => exact absurd rfl (outright _)
  | granted waits => simp [next, Event.mover?, move?]
  | refused waits => simp [next, Event.mover?, move?]
  | started stepped => simp [next, Event.mover?, move?, stepped]
  | entered stepped => simp [next, Event.mover?, move?, stepped]
  | left stepped => simp [next, Event.mover?, move?, stepped]
  | finished stepped => simp [next, Event.mover?, move?, stepped]
  | committed stepped => simp [next, Event.mover?, move?, stepped]
  | reported stage => simp [next, Event.mover?, move?]
  | gone stage => simp [next, Event.mover?, move?]

theorem submission_move? {registry : Registry} {event : Event}
    (moves : runner.move? registry event = some moved) : moved.submission = runner.submission := by
  cases event with
  | grant _ => cases moves; rfl
  | refuse _ => cases moves; rfl
  | start _ => exact Works.submission_eq (.start moves)
  | enter _ =>
      have works : runner.Works registry moved := .enter moves
      exact works.submission_eq
  | leave _ =>
      have works : runner.Works registry moved := .leave moves
      exact works.submission_eq
  | finish _ outcome =>
      have works : runner.Works registry moved := .finish outcome moves
      exact works.submission_eq
  | commit _ =>
      have works : runner.Works registry moved := .commit moves
      exact works.submission_eq
  | report _ => cases moves; rfl
  | exit _ => cases moves; rfl
  | _ => cases moves

@[simp] theorem submission_next (registry : Registry) (number : Nat) (runner : Runner)
    (event : Event) : (runner.next registry number event).submission = runner.submission := by
  unfold next
  split
  · split <;> rfl
  · split
    · cases moves : runner.move? registry _ with
      | none => rfl
      | some moved => exact submission_move? moves
    · rfl

end Runner

namespace Worker

variable {worker changed final : Worker} {event : Event} {events : List Event} {number : Nat}
  {runner : Runner}

theorem finals_made?_of_continues
    (continues : ∀ key record, worker.effect event ≠ .finish key record) :
    Chronicle.finals (worker.made? event).toList number = [] := by
  have none := filter_isFinal_made? continues
  rw [List.filter_eq_nil_iff] at none
  rw [Chronicle.finals, List.map_eq_nil_iff, List.filter_eq_nil_iff]
  intro entry member
  simp [none entry member]

theorem finals_made?_of_finish {key : TaskKey} {record : TaskRecord}
    (finishes : worker.effect event = .finish key record) :
    Chronicle.finals (worker.made? event).toList number =
      if worker.tracker.handles.find? key = some number then [record] else [] := by
  rcases exists_unfinished_of_effect finishes with ⟨old, -, -, isFinal⟩
  simp only [made?, finishes, Chronicle.finals, Option.toList_some]
  split
  · next handle => simp [handle, Entry.isFinal, isFinal]
  · next unhandled => simp [unhandled]

theorem exists_of_reporting? {place : Nat} {report : TaskKey × Outcome}
    (reporting : worker.reporting? place = some report) :
    ∃ runner, worker.runners[place]? = some runner ∧ runner.submission.key = report.1 ∧
      runner.stage = .reporting report.2 := by
  unfold reporting? at reporting
  split at reporting
  · next runner found =>
      split at reporting
      · next outcome stage =>
          cases reporting
          exact ⟨runner, found, rfl, stage⟩
      · cases reporting
  · cases reporting

theorem registry_of_step? (stepped : worker.step? event = some changed) :
    changed.registry = worker.registry.after event := by
  cases event with
  | submit submission =>
      cases stepped
      unfold submit
      split <;> rfl
  | cancel key =>
      cases stepped
      rcases worker.cancel_cases key with ⟨-, same⟩ | ⟨_, _, _, _, -, -, -, -, ends⟩
      · rw [same]; rfl
      · rw [ends]; rfl
  | complete key result =>
      rcases exists_of_complete stepped with ⟨tracker, rfl⟩
      rfl
  | fail key message =>
      rcases exists_of_fail stepped with ⟨tracker, rfl⟩
      rfl
  | drain => cases stepped; rfl
  | restore records => cases stepped; rfl
  | close => cases stepped; rfl
  | register name definition => cases stepped; rfl
  | grant number =>
      rcases exists_of_grant? stepped with ⟨runner, -, -, -, -, rfl⟩
      rfl
  | refuse number =>
      rcases exists_of_refuse? stepped with ⟨runner, -, -, -, rfl⟩
      rfl
  | report number =>
      rcases exists_of_report? stepped with ⟨runner, outcome, -, -, rfl⟩
      rfl
  | exit number =>
      rcases exists_of_exit? stepped with ⟨runner, -, -, rfl⟩
      rfl
  | _ =>
      rcases exists_of_changeRunner? stepped with ⟨runner, moved, -, -, rfl⟩
      rfl

namespace Coherent

variable {key : TaskKey}

/-- A cancellation reaches the runner of its task, and a settled one feels nothing of it. -/
theorem getElem?_cancel (coherent : worker.Coherent)
    (found : worker.runners[number]? = some runner) (key : TaskKey) :
    (worker.cancel key).runners[number]? =
      some (runner.next worker.registry number (.cancel key)) := by
  have unfelt : worker.effect (.cancel key) = .nothing → key = runner.submission.key →
      runner.signal.interrupt.2 = runner.signal := by
    intro quiet own
    rcases coherent.agreed found with isOpen | settled
    · have handle := own ▸ coherent.handle found isOpen
      have unfinished := own ▸ coherent.unfinished_of_isOpen found isOpen
      simp only [effect, unfinished, interruption?, handle, found, Option.bind_some,
        Option.map_some] at quiet
      cases called : (TaskRecord.running key worker.tracker.address).calledOff?
          runner.signal.interrupt.1 with
      | none => exact Signal.interrupt_of_tooLate (TaskRecord.calledOff?_eq_none_iff.mp called)
      | some final => simp [called, Effect.ending] at quiet
    · rw [settled.interrupt]
  rcases worker.cancel_cases key with
    ⟨quiet, same⟩ | ⟨place, holder, record, final, handle, -, foundHolder, -, ends⟩
  · rw [same, found]
    simp only [Runner.next]
    split
    · next own => rw [unfelt quiet own]
    · rfl
  · rw [ends]
    rcases coherent.isOpen_of_handle handle foundHolder with ⟨own, isOpen⟩
    by_cases here : place = number
    · subst here
      cases found.symm.trans foundHolder
      rw [Runner.next, if_pos own.symm]
      exact getElem?_setRunner_self found _
    · apply (getElem?_setRunner_of_ne here _).trans
      rw [found, Runner.next]
      split
      · next mine =>
          -- an open runner of the same key would have the handle
          rcases coherent.agreed found with openToo | settled
          · have handled := coherent.handle found openToo
            rw [← mine, handle] at handled
            cases handled
            exact absurd rfl here
          · rw [settled.interrupt]
      · rfl

theorem next_of_step? (coherent : worker.Coherent) (stepped : worker.step? event = some changed)
    (found : worker.runners[number]? = some runner) :
    changed.runners[number]? = some (runner.next worker.registry number event) := by
  by_cases called : ∃ key, event = .cancel key
  · rcases called with ⟨key, rfl⟩
    cases stepped
    exact coherent.getElem?_cancel found key
  · rcases lives_of_step? stepped found with ⟨moved, foundAfter, lives⟩
    rw [foundAfter, Runner.next_of_lives lives]
    intro key same
    exact called ⟨key, same⟩

theorem finals_cancel (coherent : worker.Coherent)
    (found : worker.runners[number]? = some runner) (key : TaskKey) :
    Chronicle.finals (worker.made? (.cancel key)).toList number =
      (runner.ending? worker.tracker.address number (.cancel key)).toList := by
  have elsewhere : worker.tracker.handles.find? key ≠ some number →
      Chronicle.finals (worker.made? (.cancel key)).toList number = [] := by
    intro unhandled
    cases finishes : worker.effect (.cancel key) with
    | finish task record =>
        rw [finals_made?_of_finish finishes]
        rcases Effect.ending_eq_finish.mp finishes with ⟨rfl, -⟩
        exact if_neg unhandled
    | _ => exact finals_made?_of_continues (by simp [finishes])
  simp only [Runner.ending?]
  split
  · next own =>
      subst own
      rcases coherent.agreed found with isOpen | settled
      · have handle := coherent.handle found isOpen
        have effect_eq : worker.effect (.cancel runner.submission.key) =
            .ending runner.submission.key
              ((TaskRecord.running runner.submission.key worker.tracker.address).calledOff?
                runner.signal.interrupt.1) := by
          simp [effect, interruption?, coherent.unfinished_of_isOpen found isOpen, handle, found]
        cases called : (TaskRecord.running runner.submission.key
            worker.tracker.address).calledOff? runner.signal.interrupt.1 with
        | none =>
            rw [called] at effect_eq
            exact finals_made?_of_continues (by simp [effect_eq, Effect.ending])
        | some record =>
            rw [called] at effect_eq
            rw [finals_made?_of_finish effect_eq, if_pos handle]
            rfl
      · rw [settled.interrupt]
        apply elsewhere
        intro handle
        exact settled.not_isOpen (coherent.isOpen_of_handle handle found).2
  · next differs =>
      apply elsewhere
      intro handle
      exact differs (coherent.isOpen_of_handle handle found).1.symm

theorem finals_report (coherent : worker.Coherent)
    (found : worker.runners[number]? = some runner) (place : Nat) :
    Chronicle.finals (worker.made? (.report place)).toList number =
      (runner.ending? worker.tracker.address number (.report place)).toList := by
  cases reporting : worker.reporting? place with
  | none =>
      have quiet : worker.effect (.report place) = .nothing := by simp [effect, reporting]
      rw [finals_made?_of_continues (by simp [quiet]), Runner.ending?]
      split
      · next here =>
          subst here
          split
          · next outcome stage => simp [reporting?, found, stage] at reporting
          · rfl
      · rfl
  | some report =>
      rcases exists_of_reporting? reporting with ⟨reporter, foundReporter, own, stage⟩
      have isOpen := coherent.isOpen_of_reporting foundReporter stage
      have handle := coherent.handle foundReporter isOpen
      have finishes : worker.effect (.report place) = .finish reporter.submission.key
          ((TaskRecord.running reporter.submission.key worker.tracker.address).ended
            report.2) := by
        simp [effect, reporting, ← own, coherent.unfinished_of_isOpen foundReporter isOpen,
          Effect.ending]
      rw [finals_made?_of_finish finishes, handle, Runner.ending?]
      by_cases here : place = number
      · subst here
        cases found.symm.trans foundReporter
        simp [stage]
      · simp [here]

/-- Which final record an event makes for a task is told by the runner of the task. -/
theorem finals_made? (coherent : worker.Coherent) (own : event.isDeclaration = false)
    (found : worker.runners[number]? = some runner) :
    Chronicle.finals (worker.made? event).toList number =
      (runner.ending? worker.tracker.address number event).toList := by
  cases event with
  | complete key result => cases own
  | fail key message => cases own
  | submit submission =>
      apply finals_made?_of_continues
      intro key record
      simp only [effect]
      split <;> simp
  | cancel key => exact coherent.finals_cancel found key
  | report place => exact coherent.finals_report found place
  | _ => rfl

end Coherent

end Worker

/-- The known jobs, a runner, and the final records of its task. -/
structure Fate where
  registry : Registry
  runner : Runner
  finals : List TaskRecord

namespace Fate

variable {address : Address} {number : Nat}

def next (address : Address) (number : Nat) (fate : Fate) (event : Event) : Fate where
  registry := fate.registry.after event
  runner := fate.runner.next fate.registry number event
  finals := fate.finals ++ (fate.runner.ending? address number event).toList

theorem next_of_unconcerned {fate : Fate} {event : Event}
    (unconcerned : event.concerns number fate.runner.submission.key = false) :
    fate.next address number event = fate := by
  rcases fate with ⟨registry, runner, finals⟩
  cases event <;>
    simp_all [Event.concerns, next, Registry.after, Runner.next, Runner.ending?, Event.mover?]

/-- What does not concern a runner may be left out. -/
theorem foldl_filter (address : Address) (number : Nat) (fate : Fate) (events : List Event) :
    (events.filter (Event.concerns number fate.runner.submission.key)).foldl
      (next address number) fate = events.foldl (next address number) fate := by
  induction events generalizing fate with
  | nil => rfl
  | cons event rest ih =>
      have later := ih (fate.next address number event)
      rw [show (fate.next address number event).runner.submission = fate.runner.submission from
        Runner.submission_next ..] at later
      cases concerned : event.concerns number fate.runner.submission.key with
      | true =>
          rw [List.filter_cons_of_pos concerned, List.foldl_cons, List.foldl_cons]
          exact later
      | false =>
          rw [List.filter_cons_of_neg (by simp [concerned]), List.foldl_cons]
          rw [next_of_unconcerned concerned] at later ⊢
          exact later

end Fate

namespace Worker

variable {worker changed final : Worker} {event : Event} {events : List Event} {number : Nat}
  {runner : Runner}

theorem fate_of_run? (coherent : worker.Coherent) (ran : worker.run? events = some final)
    (own : ∀ event ∈ events, event.isDeclaration = false)
    (found : worker.runners[number]? = some runner) (before : List TaskRecord) :
    let fate := events.foldl (Fate.next worker.tracker.address number)
      ⟨worker.registry, runner, before⟩
    final.runners[number]? = some fate.runner ∧
      before ++ (worker.chronicle events).finals number = fate.finals := by
  induction events generalizing worker runner before with
  | nil =>
      cases ran
      exact ⟨found, by simp [chronicle]⟩
  | cons event rest ih =>
      rcases exists_of_run?_cons ran with ⟨changed, stepped, ran⟩
      have ownEvent := own event List.mem_cons_self
      have coherentAfter := coherent.change (change_of_step? stepped) ownEvent
      have foundAfter := coherent.next_of_step? stepped found
      have later := ih coherentAfter ran
        (fun event member => own event (List.mem_cons_of_mem _ member)) foundAfter
        (before ++ (runner.ending? worker.tracker.address number event).toList)
      rw [tracker_of_step? stepped, Tracker.address_apply, registry_of_step? stepped] at later
      rw [chronicle_cons_of_step? stepped, Chronicle.finals_append,
        coherent.finals_made? ownEvent found, ← List.append_assoc]
      exact later

/-- Two runs in which the same befalls a runner end with the same runner and the same final
records of its task. -/
theorem fate_congr {other otherFinal : Worker} {others : List Event}
    (coherent : worker.Coherent) (coherentOther : other.Coherent)
    (ran : worker.run? events = some final) (ranOther : other.run? others = some otherFinal)
    (own : ∀ event ∈ events, event.isDeclaration = false)
    (ownOther : ∀ event ∈ others, event.isDeclaration = false)
    (found : worker.runners[number]? = some runner)
    (foundOther : other.runners[number]? = some runner)
    (registry : other.registry = worker.registry)
    (address : other.tracker.address = worker.tracker.address)
    (same : others.filter (Event.concerns number runner.submission.key) =
      events.filter (Event.concerns number runner.submission.key)) :
    otherFinal.runners[number]? = final.runners[number]? ∧
      (other.chronicle others).finals number = (worker.chronicle events).finals number := by
  rcases fate_of_run? coherent ran own found [] with ⟨foundFinal, finals⟩
  rcases fate_of_run? coherentOther ranOther ownOther foundOther [] with
    ⟨foundOtherFinal, otherFinals⟩
  have agree : others.foldl (Fate.next other.tracker.address number)
      ⟨other.registry, runner, []⟩ =
        events.foldl (Fate.next worker.tracker.address number) ⟨worker.registry, runner, []⟩ := by
    rw [address, registry, ← Fate.foldl_filter _ _ _ others, ← Fate.foldl_filter _ _ _ events]
    exact congrArg _ same
  rw [agree] at foundOtherFinal otherFinals
  rw [foundFinal, foundOtherFinal]
  exact ⟨rfl, otherFinals.trans finals.symm⟩

end Worker

end TaskAgent
