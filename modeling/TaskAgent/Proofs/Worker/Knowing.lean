import TaskAgent.Proofs.Worker.Lookup
import TaskAgent.Proofs.Worker.Stride

/-!
# What is made known later

What is made known after a runner has started is nothing to it (`Worker.fate_of_follows`): it goes
through the same whatever is known, as long as the same befalls it (`Event.befalls`). To anybody
else it is nothing as long as nobody takes a slot (`Worker.run?_unregistered`).
-/

namespace TaskAgent

/-- Whether an event can make a difference to a runner that has started: its own steps and the
cancellations of its task. -/
def Event.befalls (number : Nat) (key : TaskKey) (event : Event) : Bool :=
  event.registration?.isNone && event.concerns number key

namespace Runner

variable {registry : Registry} {number : Nat} {event : Event} {runner moved : Runner}
  {known : Option Definition}

theorem Follows.next (follows : runner.Follows known) (ungranted : event ≠ .grant number)
    (unrefused : event ≠ .refuse number) : (runner.next registry number event).Follows known := by
  unfold Runner.next
  split
  · next key =>
      split
      · exact follows
      · exact follows
  · split
    · next mover =>
        cases moves : runner.move? registry event with
        | none => exact follows
        | some moved =>
            cases event <;> simp only [Event.mover?, Option.some.injEq, reduceCtorEq] at mover <;>
              subst mover
            case grant => exact absurd rfl ungranted
            case refuse => exact absurd rfl unrefused
            case start => simp [move?, follows.start?_eq_none] at moves
            case enter =>
                have works : runner.Works registry moved := .enter moves
                exact works.follows follows
            case leave =>
                have works : runner.Works registry moved := .leave moves
                exact works.follows follows
            case finish =>
                have works : runner.Works registry moved := .finish _ moves
                exact works.follows follows
            case commit =>
                have works : runner.Works registry moved := .commit moves
                exact works.follows follows
            case report =>
                cases moves
                trivial
            case exit =>
                cases moves
                trivial
    · exact follows

/-- Only a runner with a slot looks something up when it starts. -/
theorem start?_congr (unadmitted : runner.stage ≠ .admitted) (first second : Registry) :
    runner.start? first = runner.start? second := by
  cases stage : runner.stage with
  | admitted => exact absurd stage unadmitted
  | refused => cases starts : runner.signal.start? <;> simp [start?, stage, starts]
  | _ => simp [start?, stage]

/-- Whoever has started looks nothing up any more. -/
theorem Follows.next_eq (follows : runner.Follows known) (first second : Registry) :
    runner.next first number event = runner.next second number event := by
  cases event with
  | start place => simp [Runner.next, Event.mover?, move?, follows.start?_eq_none]
  | _ => rfl

end Runner

namespace Fate

variable {address : Address} {number : Nat} {fate : Fate} {event : Event}

theorem next_of_registration {name : String} {definition : Definition} :
    fate.next address number (.register name definition) =
      { fate with registry := fate.registry.insert name definition } := by
  simp [next, Registry.after, Runner.next, Runner.ending?, Event.mover?]

theorem next_of_unregistered {known : Option Definition} (follows : fate.runner.Follows known)
    (unregistered : event.registration? = none) (registry : Registry) :
    ({ fate with registry } : Fate).next address number event =
      { fate.next address number event with registry } := by
  have same : registry.after event = registry := by
    cases event with
    | register name definition => cases unregistered
    | _ => rfl
  simp only [next, same, follows.next_eq registry fate.registry]

/-- What is made known may be left out where the runner has started. -/
theorem foldl_befalls {known : Option Definition} (events : List Event)
    (follows : fate.runner.Follows known)
    (behind : ∀ event ∈ events,
      event ≠ .grant number ∧ event ≠ .refuse number ∧ event ≠ .start number)
    (registry : Registry) (address : Address) :
    (events.filter (Event.befalls number fate.runner.submission.key)).foldl (next address number)
        { fate with registry } =
      { events.foldl (next address number) fate with registry } := by
  induction events generalizing fate with
  | nil => rfl
  | cons event rest ih =>
      rcases behind event List.mem_cons_self with ⟨ungranted, unrefused, -⟩
      have followsAfter : (fate.next address number event).runner.Follows known :=
        follows.next ungranted unrefused
      have later := ih followsAfter fun other inRest =>
        behind other (List.mem_cons_of_mem _ inRest)
      rw [show (fate.next address number event).runner.submission = fate.runner.submission from
        Runner.submission_next ..] at later
      rw [List.foldl_cons]
      cases registration : event.registration? with
      | some made =>
          have spared : event.befalls number fate.runner.submission.key = false := by
            simp [Event.befalls, registration]
          rw [List.filter_cons_of_neg (by simp [spared]), ← later]
          cases event with
          | register name definition => rw [next_of_registration]
          | _ => cases registration
      | none =>
          cases concerned : event.concerns number fate.runner.submission.key with
          | true =>
              have befalls : event.befalls number fate.runner.submission.key = true := by
                simp [Event.befalls, registration, concerned]
              rw [List.filter_cons_of_pos befalls, List.foldl_cons,
                next_of_unregistered follows registration, later]
          | false =>
              have spared : event.befalls number fate.runner.submission.key = false := by
                simp [Event.befalls, concerned]
              rw [List.filter_cons_of_neg (by simp [spared])]
              rw [next_of_unconcerned concerned] at later ⊢
              exact later

end Fate

namespace Worker

variable {worker changed final : Worker} {events later : List Event} {event : Event}
  {stride : Stride} {strides : List Stride} {number : Nat} {runner : Runner}
  {known : Option Definition}

/-- The worker with other jobs known. -/
def knowing (worker : Worker) (registry : Registry) : Worker := { worker with registry }

theorem step?_knowing (registry : Registry) (stepped : worker.step? event = some changed)
    (unregistered : event.registration? = none)
    (unadmitted : ∀ number, event = .start number → ∀ runner,
      worker.runners[number]? = some runner → runner.stage ≠ .admitted) :
    (worker.knowing registry).step? event = some (changed.knowing registry) := by
  cases event with
  | register name definition => cases unregistered
  | start number =>
      rcases exists_of_changeRunner? stepped with ⟨runner, moved, found, starts, rfl⟩
      have refused := unadmitted number rfl runner found
      rw [Runner.start?_congr refused worker.registry registry] at starts
      simp [step?, start?, changeRunner?, knowing, setRunner, found, starts]
  | submit submission =>
      cases stepped
      cases inFlight : worker.tracker.isInFlight submission.key <;>
        simp [step?, submit, knowing, inFlight]
  | cancel key =>
      cases stepped
      simp only [step?, cancel, knowing, setRunner]
      repeat' split
      all_goals rfl
  | complete key result =>
      simp only [step?, complete, knowing] at stepped ⊢
      cases completed : worker.tracker.complete key result <;> rw [completed] at stepped <;>
        cases stepped <;> rfl
  | fail key message =>
      simp only [step?, fail, knowing] at stepped ⊢
      cases failed : worker.tracker.fail key message <;> rw [failed] at stepped <;>
        cases stepped <;> rfl
  | drain =>
      cases stepped
      rfl
  | restore records =>
      cases stepped
      rfl
  | close =>
      cases stepped
      rfl
  | grant number =>
      rcases exists_of_grant? stepped with ⟨runner, found, waits, unclosed, free, rfl⟩
      have waiting := Runner.isWaiting_eq_true_iff.mpr waits
      simp [step?, grant?, knowing, setRunner, found, waiting, unclosed, free]
  | refuse number =>
      rcases exists_of_refuse? stepped with ⟨runner, found, waits, closed, rfl⟩
      have waiting := Runner.isWaiting_eq_true_iff.mpr waits
      simp [step?, refuse?, knowing, setRunner, found, waiting, closed]
  | report number =>
      rcases exists_of_report? stepped with ⟨runner, outcome, found, stage, rfl⟩
      simp [step?, report?, knowing, setRunner, found, stage]
  | exit number =>
      rcases exists_of_exit? stepped with ⟨runner, found, stage, rfl⟩
      simp [step?, exit?, knowing, setRunner, found, stage]
  | _ =>
      rcases exists_of_changeRunner? stepped with ⟨runner, moved, found, moves, rfl⟩
      simp [step?, enter?, leave?, finish?, commit?, changeRunner?, knowing, setRunner, found,
        moves]

theorem run?_knowing (registry : Registry) (ran : worker.run? events = some final)
    (unregistered : ∀ event ∈ events, event.registration? = none)
    (unstarted : ∀ number, .start number ∉ events) :
    (worker.knowing registry).run? events = some (final.knowing registry) := by
  induction events generalizing worker with
  | nil =>
      cases ran
      rfl
  | cons event rest ih =>
      rcases exists_of_run?_cons ran with ⟨changed, stepped, ran⟩
      rw [run?_cons_of_step?]
      · exact ih ran (fun other inRest => unregistered other (List.mem_cons_of_mem _ inRest))
          fun number member => unstarted number (List.mem_cons_of_mem _ member)
      · apply step?_knowing registry stepped (unregistered event List.mem_cons_self)
        rintro number rfl
        exact absurd List.mem_cons_self (unstarted number)

/-- A runner that is turned away looks nothing up. -/
theorem run?_onset_knowing (registry : Registry) (found : worker.runners[number]? = some runner)
    (refused : runner.stage = .refused)
    (ran : worker.run? (runner.onset worker.registry number) = some changed) :
    (worker.knowing registry).run? (runner.onset registry number) =
      some (changed.knowing registry) := by
  have unadmitted : runner.stage ≠ .admitted := by simp [refused]
  have same : runner.onset registry number = runner.onset worker.registry number := by
    rw [Runner.onset, Runner.onset, Runner.start?_congr unadmitted]
  rcases Runner.exists_onset_eq_cons runner worker.registry number with ⟨rest, onset, quiet⟩
  rw [same]
  rw [onset] at ran ⊢
  rcases exists_of_run?_cons ran with ⟨begun, stepped, ran⟩
  rw [run?_cons_of_step?]
  · apply run?_knowing registry ran
    · intro event member
      rcases quiet event member with rfl | rfl | rfl <;> rfl
    · intro place member
      simpa using quiet _ member
  · apply step?_knowing registry stepped rfl
    rintro place same starter foundStarter
    cases same
    cases found.symm.trans foundStarter
    exact unadmitted

/-- A stride in which no slot is taken and no job made known is the same whatever is known. -/
theorem run?_stride_knowing (registry : Registry)
    (ran : worker.run? (stride.events worker) = some changed)
    (unregistered : stride.event.registration? = none)
    (untaken : ∀ number, stride ≠ .take number) :
    (worker.knowing registry).run? (stride.events (worker.knowing registry)) =
      some (changed.knowing registry) := by
  rcases exists_of_run?_stride ran with ⟨begun, stepped, ran⟩
  have unstarted : ∀ number, stride.event ≠ .start number := by
    intro number same
    have opens := stride.opens
    simp [same, Event.opens] at opens
  have steppedKnowing := step?_knowing registry stepped unregistered
    fun number same => absurd same (unstarted number)
  rw [events_of_step? steppedKnowing, run?_cons_of_step? steppedKnowing]
  rcases stride with ⟨event, opens⟩
  cases event with
  | grant number => exact absurd rfl (untaken number)
  | refuse number =>
      rcases exists_of_refuse? stepped with ⟨runner, found, -, -, turnedAway⟩
      have refused : begun.runners[number]? = some { runner with stage := .refused } := by
        rw [turnedAway]
        exact getElem?_setRunner_self found _
      have refusedKnowing :
          (begun.knowing registry).runners[number]? = some { runner with stage := .refused } :=
        refused
      rw [onset_of_found (Or.inr rfl) refused] at ran
      rw [onset_of_found (Or.inr rfl) refusedKnowing]
      exact run?_onset_knowing registry refused rfl ran
  | _ =>
      cases ran
      rfl

/-- As long as nobody takes a slot, what is made known changes nothing else. -/
theorem run?_unregistered (registry : Registry)
    (ran : worker.run? (worker.events strides) = some final)
    (untaken : ∀ number, .take number ∉ strides) :
    (worker.knowing registry).run? ((worker.knowing registry).events
      (strides.filter fun stride => stride.event.registration?.isNone)) =
        some (final.knowing registry) := by
  induction strides generalizing worker with
  | nil =>
      cases ran
      rfl
  | cons stride rest ih =>
      rw [run?_events_cons] at ran
      rcases Option.bind_eq_some_iff.mp ran with ⟨changed, strode, ran⟩
      have later := ih ran fun number member => untaken number (List.mem_cons_of_mem _ member)
      cases registration : stride.event.registration? with
      | some made =>
          rw [List.filter_cons_of_neg (by simp [registration])]
          rcases stride with ⟨event, opens⟩
          cases event with
          | register name definition =>
              cases strode
              exact later
          | _ => cases registration
      | none =>
          rw [List.filter_cons_of_pos (by simp [registration]), run?_events_cons,
            run?_stride_knowing registry strode registration]
          · exact later
          · rintro number rfl
            exact untaken number List.mem_cons_self

/-- Two runs in which the same befalls a runner that has started end with the same runner and the
same final records of its task, whatever is made known in them. -/
theorem fate_of_follows {others : List Event} {other : Worker} (coherent : worker.Coherent)
    (found : worker.runners[number]? = some runner) (follows : runner.Follows known)
    (ran : worker.run? later = some final) (ranOther : worker.run? others = some other)
    (own : ∀ event ∈ later, event.isDeclaration = false)
    (ownOther : ∀ event ∈ others, event.isDeclaration = false)
    (same : others.filter (Event.befalls number runner.submission.key) =
      later.filter (Event.befalls number runner.submission.key)) :
    other.runners[number]? = final.runners[number]? ∧
      (worker.chronicle others).finals number = (worker.chronicle later).finals number := by
  let fate : Fate := ⟨worker.registry, runner, []⟩
  let address := worker.tracker.address
  have agree : ({ others.foldl (Fate.next address number) fate with registry := fate.registry } :
      Fate) = { later.foldl (Fate.next address number) fate with registry := fate.registry } := by
    have followsHere : fate.runner.Follows known := follows
    rw [← Fate.foldl_befalls others followsHere (ne_of_follows found follows ranOther),
      ← Fate.foldl_befalls later followsHere (ne_of_follows found follows ran)]
    exact congrArg _ same
  have runners := congrArg Fate.runner agree
  have endings := congrArg Fate.finals agree
  rcases fate_of_run? coherent ran own found [] with ⟨foundFinal, finals⟩
  rcases fate_of_run? coherent ranOther ownOther found [] with ⟨foundOther, finalsOther⟩
  rw [foundFinal, foundOther]
  exact ⟨congrArg some runners, finalsOther.trans (endings.trans finals.symm)⟩

/-- What befalls a runner that has started are the events with which strides begin. -/
theorem filter_befalls_events {key : TaskKey} (found : worker.runners[number]? = some runner)
    (follows : runner.Follows known) (ran : worker.run? (worker.events strides) = some final) :
    (worker.events strides).filter (Event.befalls number key) =
      (strides.filter fun stride => stride.event.befalls number key).map Stride.event := by
  induction strides generalizing worker runner with
  | nil => rfl
  | cons stride rest ih =>
      rw [run?_events_cons] at ran
      rcases Option.bind_eq_some_iff.mp ran with ⟨changed, strode, ran⟩
      rcases runner_keeps_of_run? strode found follows (motive := Runner.Follows known)
        (fun lives => lives.follows) with ⟨moved, foundAfter, followsAfter⟩
      rcases exists_of_run?_stride strode with ⟨middle, stepped, -⟩
      have behind := ne_of_follows found follows strode
      have others : (middle.onset stride.event).filter (Event.befalls number key) = [] := by
        rw [List.filter_eq_nil_iff]
        intro event member
        rcases exists_of_mem_onset member with ⟨place, leaves, goesOn⟩
        have differs : place ≠ number := by
          rintro rfl
          have opening := behind stride.event (by simp [events_of_step? stepped])
          rcases leaves with granted | refused
          · exact opening.1 granted
          · exact opening.2.1 refused
        rcases goesOn with rfl | rfl | rfl | rfl <;>
          simp [Event.befalls, Event.concerns, Event.mover?, differs]
      rw [events, strode]
      simp only [List.filter_append, ih foundAfter followsAfter ran]
      rw [events_of_step? stepped]
      cases befalls : stride.event.befalls number key with
      | true => simp [befalls, others]
      | false => simp [befalls, others]

end Worker

end TaskAgent
