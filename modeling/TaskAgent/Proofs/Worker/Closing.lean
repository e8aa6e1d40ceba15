import TaskAgent.Proofs.Worker.InFlight
import TaskAgent.Proofs.Worker.Rejection

/-!
# Closing the pool

A pool that was closed stays closed and gives no slot any more. So every task that had no slot
when it was closed, or came later, is turned away: its job never begins, and it ends failed with
the message of the closed pool or, if it was called off in time, canceled.

The tasks that had a slot notice nothing of it. Every step of theirs, and whatever is asked from
outside, can happen in the open pool as well (`Worker.run?_spared`), and by `Worker.fate_congr`
they end there as they do in the closed one.
-/

namespace TaskAgent

namespace Runner

variable {registry : Registry} {number : Nat} {event : Event} {runner moved : Runner}

/-- A runner does not come back to the queue. -/
theorem Lives.isWaiting_eq_false (lives : Lives registry number event runner moved)
    (called : runner.isWaiting = false) : moved.isWaiting = false := by
  cases lives with
  | untouched alien => exact called
  | interrupted => exact called
  | granted waits => rfl
  | refused waits => rfl
  | started stepped =>
      have works : runner.Works registry moved := .start stepped
      exact works.isWaiting_eq_false.2
  | entered stepped =>
      have works : runner.Works registry moved := .enter stepped
      exact works.isWaiting_eq_false.2
  | left stepped =>
      have works : runner.Works registry moved := .leave stepped
      exact works.isWaiting_eq_false.2
  | finished stepped =>
      have works : runner.Works registry moved := .finish _ stepped
      exact works.isWaiting_eq_false.2
  | committed stepped =>
      have works : runner.Works registry moved := .commit stepped
      exact works.isWaiting_eq_false.2
  | reported stage => rfl
  | gone stage => rfl

/-- How many steps the runner has still before it at most. -/
def rank (runner : Runner) : Nat :=
  match runner.stage with
  | .waiting => 6
  | .admitted | .refused => 5
  | .working _ => 4
  | .ended _ => 3
  | .reporting _ => 2
  | .leaving => 1
  | .gone => 0

theorem rank_lt_of_start? (stepped : runner.start? registry = some moved) :
    moved.rank < runner.rank := by
  rcases Works.start_cases stepped with ⟨stage, -, rfl⟩ | ⟨stage, -, rfl⟩ | ⟨stage | stage, -, rfl⟩
  · rcases beginning_cases registry runner.submission.config with ⟨_, begins⟩ | ⟨_, begins⟩
    · simp [rank, stage, begins]
    · simp [rank, stage, begins]
  · simp [rank, stage]
  · simp [rank, stage]
  · simp [rank, stage]

theorem rank_lt_of_commit? (stepped : runner.commit? = some moved) : moved.rank < runner.rank := by
  rcases Works.commit_cases stepped with ⟨outcome, stage, ⟨-, rfl⟩ | ⟨-, -, rfl⟩⟩
  · simp [rank, stage]
  · simp [rank, stage]

end Runner

namespace Worker

variable {start worker changed final : Worker} {past later events : List Event} {event : Event}
  {number : Nat} {runner : Runner}

/-! ### No slot is given any more -/

theorem closed_of_step? (stepped : worker.step? event = some changed)
    (closed : worker.pool.closed = true) : changed.pool.closed = true := by
  cases change_of_step? stepped with
  | closed => rfl
  | @left _ runner found stage =>
      cases slot : runner.slot <;> simpa [slot, Pool.release] using closed
  | _ => exact closed

/-- A closed pool is not opened again. -/
theorem unclosed_of_step? (stepped : worker.step? event = some changed)
    (unclosed : changed.pool.closed = false) : worker.pool.closed = false := by
  cases closed : worker.pool.closed with
  | false => rfl
  | true =>
      rw [closed_of_step? stepped closed] at unclosed
      cases unclosed

theorem unclosed_of_run? (ran : worker.run? events = some changed)
    (unclosed : changed.pool.closed = false) : worker.pool.closed = false := by
  induction events generalizing worker with
  | nil =>
      cases ran
      exact unclosed
  | cons event rest ih =>
      rcases exists_of_run?_cons ran with ⟨middle, stepped, ranRest⟩
      exact unclosed_of_step? stepped (ih ranRest)

theorem grant_not_mem_of_closed (closed : worker.pool.closed = true)
    (ran : worker.run? events = some final) : .grant number ∉ events := by
  induction events generalizing worker with
  | nil => simp
  | cons event rest ih =>
      rcases exists_of_run?_cons ran with ⟨changed, stepped, ran⟩
      intro member
      rcases List.mem_cons.mp member with rfl | member
      · rcases exists_of_grant? stepped with ⟨-, -, -, unclosed, -⟩
        rw [closed] at unclosed
        cases unclosed
      · exact ih (closed_of_step? stepped closed) ran member

theorem run?_close (reached : start.run? past = some worker)
    (ran : worker.close.run? later = some final) :
    start.run? (past ++ .close :: later) = some final := by
  rw [run?_append, reached]
  exact ran

/-! ### The same without the closing -/

/-- The runner in a place has left the queue. -/
def serves (worker : Worker) (number : Nat) : Bool :=
  worker.runners[number]?.any fun runner => !runner.isWaiting

/-- The event is from outside or the step of a runner that has left the queue. -/
def spares (worker : Worker) (event : Event) : Bool := event.mover?.all worker.serves

/-- The runners in certain places are the same in two workers and do not wait. -/
structure Shadows (served : Nat → Bool) (worker other : Worker) : Prop where
  registry : other.registry = worker.registry
  coherent : worker.Coherent
  coherentOther : other.Coherent
  shared : ∀ number, served number = true → ∃ runner, worker.runners[number]? = some runner ∧
    other.runners[number]? = some runner ∧ runner.isWaiting = false

theorem shadows_close (coherent : worker.Coherent) : Shadows worker.serves worker.close worker := by
  refine ⟨rfl, coherent.congr rfl rfl rfl rfl, coherent, ?_⟩
  intro number here
  unfold serves at here
  cases found : worker.runners[number]? with
  | none => simp [found] at here
  | some runner => exact ⟨runner, found, rfl, by simpa [found] using here⟩

namespace Shadows

variable {served : Nat → Bool} {other : Worker}

theorem exists_changeRunner? {change : Runner → Option Runner}
    (shadows : Shadows served worker other) (here : served number = true)
    (stepped : worker.changeRunner? number change = some changed) :
    ∃ next, other.changeRunner? number change = some next := by
  rcases shadows.shared number here with ⟨runner, found, foundOther, -⟩
  rcases exists_of_changeRunner? stepped with ⟨before, moved, foundBefore, moves, -⟩
  cases found.symm.trans foundBefore
  exact ⟨other.setRunner number moved, by simp [changeRunner?, foundOther, moves]⟩

/-- Where the runner is the same it can do the same, and it has done with the queue. -/
theorem exists_step? (shadows : Shadows served worker other)
    (stepped : worker.step? event = some changed) (own : event.isDeclaration = false)
    (mover : event.mover?.all served = true) : ∃ next, other.step? event = some next := by
  cases event with
  | complete key result => cases own
  | fail key message => cases own
  | grant number =>
      rcases shadows.shared number mover with ⟨runner, found, -, called⟩
      rcases exists_of_grant? stepped with ⟨waiting, foundWaiting, waits, -⟩
      cases found.symm.trans foundWaiting
      simp [Runner.isWaiting, waits] at called
  | refuse number =>
      rcases shadows.shared number mover with ⟨runner, found, -, called⟩
      rcases exists_of_refuse? stepped with ⟨waiting, foundWaiting, waits, -⟩
      cases found.symm.trans foundWaiting
      simp [Runner.isWaiting, waits] at called
  | start number =>
      have same : other.start? number = other.changeRunner? number
          (Runner.start? worker.registry) := by rw [start?, shadows.registry]
      rw [step?, same]
      exact shadows.exists_changeRunner? mover stepped
  | enter number => exact shadows.exists_changeRunner? mover stepped
  | leave number => exact shadows.exists_changeRunner? mover stepped
  | finish number outcome => exact shadows.exists_changeRunner? mover stepped
  | commit number => exact shadows.exists_changeRunner? mover stepped
  | report number =>
      rcases shadows.shared number mover with ⟨runner, found, foundOther, -⟩
      rcases exists_of_report? stepped with ⟨before, outcome, foundBefore, stage, -⟩
      cases found.symm.trans foundBefore
      simp [step?, report?, foundOther, stage]
  | exit number =>
      rcases shadows.shared number mover with ⟨runner, found, foundOther, -⟩
      rcases exists_of_exit? stepped with ⟨before, foundBefore, stage, -⟩
      cases found.symm.trans foundBefore
      simp [step?, exit?, foundOther, stage]
  | _ => exact ⟨_, rfl⟩

theorem step {next : Worker} (shadows : Shadows served worker other)
    (stepped : worker.step? event = some changed) (steppedOther : other.step? event = some next)
    (own : event.isDeclaration = false) : Shadows served changed next := by
  refine ⟨?_, shadows.coherent.change (change_of_step? stepped) own,
    shadows.coherentOther.change (change_of_step? steppedOther) own, ?_⟩
  · rw [registry_of_step? stepped, registry_of_step? steppedOther, shadows.registry]
  · intro number here
    rcases shadows.shared number here with ⟨runner, found, foundOther, called⟩
    rcases lives_of_step? stepped found with ⟨moved, foundMoved, lives⟩
    have foundNext := shadows.coherentOther.next_of_step? steppedOther foundOther
    rw [shadows.registry] at foundNext
    refine ⟨moved, foundMoved, ?_, lives.isWaiting_eq_false called⟩
    rw [foundNext, ← foundMoved]
    exact (shadows.coherent.next_of_step? stepped found).symm

/-- A step of a runner in another place is not missed. -/
theorem skip (shadows : Shadows served worker other)
    (stepped : worker.step? event = some changed) (own : event.isDeclaration = false)
    (elsewhere : event.mover?.all served = false) : Shadows served changed other := by
  refine ⟨?_, shadows.coherent.change (change_of_step? stepped) own, shadows.coherentOther, ?_⟩
  · rw [shadows.registry, registry_of_step? stepped]
    cases event with
    | register name definition => cases elsewhere
    | _ => rfl
  · intro number here
    have alien : event.mover? ≠ some number := by
      intro same
      simp [same, here] at elsewhere
    rcases shadows.shared number here with ⟨runner, found, foundOther, called⟩
    rcases lives_of_step? stepped found with ⟨moved, foundMoved, lives⟩
    cases lives with
    | untouched => exact ⟨runner, foundMoved, foundOther, called⟩
    | interrupted => cases elsewhere
    | _ => exact absurd rfl alien

end Shadows

/-- Without the closing everything else could have happened in the same way. -/
theorem run?_spared {served : Nat → Bool} {other : Worker} (shadows : Shadows served worker other)
    (ran : worker.run? later = some final)
    (own : ∀ event ∈ later, event.isDeclaration = false) :
    ∃ unclosed, other.run? (later.filter fun event => event.mover?.all served) = some unclosed := by
  induction later generalizing worker other with
  | nil => exact ⟨other, rfl⟩
  | cons event rest ih =>
      rcases exists_of_run?_cons ran with ⟨changed, stepped, ran⟩
      have ownEvent := own event List.mem_cons_self
      have ownRest : ∀ event ∈ rest, event.isDeclaration = false := fun event member =>
        own event (List.mem_cons_of_mem _ member)
      cases spared : event.mover?.all served with
      | true =>
          rcases shadows.exists_step? stepped ownEvent spared with ⟨next, steppedOther⟩
          rw [List.filter_cons_of_pos (by simpa using spared), run?_cons_of_step? steppedOther]
          exact ih (shadows.step stepped steppedOther ownEvent) ran ownRest
      | false =>
          rw [List.filter_cons_of_neg (by simp [spared])]
          exact ih (shadows.skip stepped ownEvent spared) ran ownRest

/-- What concerns a runner that has left the queue is all spared. -/
theorem filter_concerns_spared {key : TaskKey} (here : worker.serves number = true) :
    (later.filter worker.spares).filter (Event.concerns number key) =
      later.filter (Event.concerns number key) := by
  rw [List.filter_filter]
  apply List.filter_congr
  intro event _
  cases concerned : event.concerns number key with
  | false => rfl
  | true =>
      cases mover : event.mover? with
      | none => simp [spares, mover]
      | some place =>
          have same : place = number := by
            cases event <;> simp_all [Event.concerns, Event.mover?]
          simp [spares, mover, same, here]

/-! ### Rest -/

/-- How many steps these runners together have still before them at most. -/
def ranks (runners : List Runner) : Nat :=
  runners.foldr (fun runner ahead => runner.rank + ahead) 0

/-- How many steps all runners of a worker together have still before them at most. -/
def weight (worker : Worker) : Nat := ranks worker.runners

theorem ranks_cons (first : Runner) (rest : List Runner) :
    ranks (first :: rest) = first.rank + ranks rest := rfl

theorem ranks_set {runners : List Runner} (found : runners[number]? = some runner)
    (moved : Runner) :
    ranks (runners.set number moved) + runner.rank = ranks runners + moved.rank := by
  induction runners generalizing number with
  | nil => cases found
  | cons first rest ih =>
      cases number with
      | zero =>
          cases found
          simp only [List.set_cons_zero, ranks_cons]
          omega
      | succ number =>
          have later := ih (by simpa using found)
          simp only [List.set_cons_succ, ranks_cons]
          omega

theorem weight_lt (found : worker.runners[number]? = some runner) {moved : Runner}
    (runners : changed.runners = (worker.setRunner number moved).runners)
    (lower : moved.rank < runner.rank) : changed.weight < worker.weight := by
  have counted := ranks_set found moved
  unfold weight
  rw [runners]
  simp only [setRunner]
  omega

/-- A worker that is not at rest has a step before it that brings it closer. -/
theorem exists_of_not_atRest (unrested : ¬worker.AtRest) :
    ∃ event changed, event.mover?.isSome = true ∧ worker.step? event = some changed ∧
      changed.weight < worker.weight := by
  simp only [AtRest, Classical.not_forall] at unrested
  rcases unrested with ⟨number, moves⟩
  cases refused : worker.refuse? number with
  | some changed =>
      rcases exists_of_refuse? refused with ⟨runner, found, waits, -, rfl⟩
      exact ⟨.refuse number, _, rfl, refused, weight_lt found rfl (by simp [Runner.rank, waits])⟩
  | none =>
  cases started : worker.start? number with
  | some changed =>
      rcases exists_of_changeRunner? started with ⟨runner, moved, found, stepped, rfl⟩
      exact ⟨.start number, _, rfl, started,
        weight_lt found rfl (Runner.rank_lt_of_start? stepped)⟩
  | none =>
  cases committed : worker.commit? number with
  | some changed =>
      rcases exists_of_changeRunner? committed with ⟨runner, moved, found, stepped, rfl⟩
      exact ⟨.commit number, _, rfl, committed,
        weight_lt found rfl (Runner.rank_lt_of_commit? stepped)⟩
  | none =>
  cases reported : worker.report? number with
  | some changed =>
      rcases exists_of_report? reported with ⟨runner, outcome, found, stage, rfl⟩
      exact ⟨.report number, _, rfl, reported, weight_lt found rfl (by simp [Runner.rank, stage])⟩
  | none =>
  cases left : worker.exit? number with
  | some changed =>
      rcases exists_of_exit? left with ⟨runner, found, stage, rfl⟩
      exact ⟨.exit number, _, rfl, left, weight_lt found rfl (by simp [Runner.rank, stage])⟩
  | none => exact absurd ⟨refused, started, committed, reported, left⟩ moves

/-- The runners come to rest by themselves. -/
theorem exists_atRest (worker : Worker) :
    ∃ steps rested, (∀ event ∈ steps, event.mover?.isSome = true) ∧
      worker.run? steps = some rested ∧ rested.AtRest := by
  by_cases rest : worker.AtRest
  · exact ⟨[], worker, by simp, rfl, rest⟩
  · rcases exists_of_not_atRest rest with ⟨event, changed, moves, stepped, lower⟩
    rcases changed.exists_atRest with ⟨steps, rested, all, ran, rest⟩
    refine ⟨event :: steps, rested, ?_, ?_, rest⟩
    · simpa [moves] using all
    · rw [run?_cons_of_step? stepped]
      exact ran
termination_by worker.weight

/-- Where nobody moves any more, a runner without a slot has left and its task has ended. -/
theorem AtRest.dismissal?_ne_none (rest : worker.AtRest) (closed : worker.pool.closed = true)
    (found : worker.runners[number]? = some runner) (unserved : runner.IsUnserved)
    (address : Address) : runner.dismissal? address ≠ none := by
  rcases rest number with ⟨unrefused, unstarted, uncommitted, unreported, -⟩
  simp only [start?, commit?, changeRunner?, found, Option.map_eq_none_iff]
    at unstarted uncommitted
  cases stage : runner.stage with
  | waiting => simp [refuse?, found, closed, Runner.isWaiting, stage] at unrefused
  | admitted => simp [Runner.IsUnserved, stage] at unserved
  | refused => exact absurd unstarted (Runner.start?_ne_none _ (Or.inr stage))
  | working definition => exact absurd stage (unserved.idle definition)
  | ended outcome => exact absurd uncommitted (Runner.commit?_ne_none stage)
  | reporting outcome => simp [report?, found, stage] at unreported
  | leaving =>
      simp only [Runner.IsUnserved, stage] at unserved
      rcases unserved with signal | signal <;> simp [Runner.dismissal?, signal, stage]
  | gone =>
      simp only [Runner.IsUnserved, stage] at unserved
      rcases unserved with signal | signal <;> simp [Runner.dismissal?, signal, stage]

theorem AtRest.queued_eq_zero (rest : worker.AtRest) (closed : worker.pool.closed = true)
    (accounted : worker.Accounted) : worker.pool.queued = 0 := by
  rw [accounted.queued_eq, List.countP_eq_zero]
  intro runner member waits
  rcases List.getElem?_of_mem member with ⟨number, found⟩
  have unrefused := (rest number).1
  simp [refuse?, found, closed, waits] at unrefused

/-! ### What closing does -/

/-- The job of the task in a place begins at some time. -/
def Invokes (start : Worker) (events : List Event) (number : Nat) : Prop :=
  ∃ earlier rest worker runner, events = earlier ++ rest ∧ start.run? earlier = some worker ∧
    worker.runners[number]? = some runner ∧ runner.isWorking = true

theorem not_invokes {pool : Pool} {registry : Registry} {address : Address}
    (own : ∀ event ∈ events, event.isDeclaration = false) (ungranted : .grant number ∉ events) :
    ¬(make pool registry address).Invokes events number := by
  rintro ⟨earlier, rest, between, runner, rfl, reached, found, working⟩
  have dismissed := dismissed_of_run? reached
    (fun event member => own event (List.mem_append_left _ member))
    (fun member => ungranted (List.mem_append_left _ member)) found
  rw [dismissed.unserved.isWorking_eq_false] at working
  cases working

/-- The final record of a task that was turned away from the closed pool. -/
def turnedAway (key : TaskKey) (address : Address) : TaskRecord :=
  ⟨key, .failed, none, some "el pool de ejecución está cerrado", address⟩

theorem Dismissed.finals_of_calledOff (dismissed : start.Dismissed events number runner)
    (calledOff : start.CalledOff events number) :
    (start.chronicle events).finals number =
      [⟨runner.submission.key, .canceled, none, none, start.tracker.address⟩] := by
  rw [dismissed.finals, Runner.dismissal?, dismissed.calledOff.mp calledOff]
  rfl

theorem Dismissed.dismissal?_cases (dismissed : start.Dismissed events number runner)
    (uncalled : ¬start.CalledOff events number) (address : Address) :
    runner.dismissal? address = none ∨
      runner.dismissal? address = some (turnedAway runner.submission.key address) := by
  rw [dismissed.calledOff] at uncalled
  unfold Runner.dismissal?
  split
  · next interrupted => exact absurd interrupted uncalled
  · exact Or.inr rfl
  · exact Or.inr rfl
  · exact Or.inl rfl

/-- Without the closing the tasks that had a slot end with the same records. -/
theorem Coherent.finals_close {others : List Event} {unclosed : Worker} (coherent : worker.Coherent)
    (reached : start.run? past = some worker) (ran : worker.close.run? later = some final)
    (ranOthers : worker.run? others = some unclosed)
    (own : ∀ event ∈ later, event.isDeclaration = false)
    (ownOthers : ∀ event ∈ others, event.isDeclaration = false)
    (found : worker.runners[number]? = some runner)
    (same : others.filter (Event.concerns number runner.submission.key) =
      later.filter (Event.concerns number runner.submission.key)) :
    unclosed.runners[number]? = final.runners[number]? ∧
      (start.chronicle (past ++ others)).finals number =
        (start.chronicle (past ++ .close :: later)).finals number := by
  have closedCoherent : worker.close.Coherent := coherent.congr rfl rfl rfl rfl
  rcases fate_congr closedCoherent coherent ran ranOthers own ownOthers found found rfl rfl same
    with ⟨runner_eq, finals_eq⟩
  refine ⟨runner_eq, ?_⟩
  have closing : worker.chronicle (.close :: later) = worker.close.chronicle later := rfl
  rw [chronicle_append reached, chronicle_append reached, Chronicle.finals_append,
    Chronicle.finals_append, finals_eq, closing]

/-- Once the pool is closed, a task without a slot never begins, and ends failed unless it was
called off in time. A task with a slot ends as it does in the open pool, where all that happens to
it can happen as well. The runners come to rest, and then none waits any more. -/
theorem close_turns_away {size : Nat} {registry : Registry} {address : Address}
    (reached : (make (.ofSize size) registry address).run? past = some worker)
    (ran : worker.close.run? later = some final)
    (own : ∀ event ∈ past ++ later, event.isDeclaration = false) :
    let start := make (.ofSize size) registry address
    let events := past ++ .close :: later
    (∀ number, .grant number ∉ past →
      .grant number ∉ later ∧ ¬start.Invokes events number ∧
      ∀ runner, final.runners[number]? = some runner →
        (start.CalledOff events number → (start.chronicle events).finals number =
          [⟨runner.submission.key, .canceled, none, none, address⟩]) ∧
        (¬start.CalledOff events number →
          ((start.chronicle events).finals number = [] ∧ ¬final.AtRest ∨
            (start.chronicle events).finals number =
              [⟨runner.submission.key, .failed, none,
                some "el pool de ejecución está cerrado", address⟩]))) ∧
    (∀ number runner others unclosed, .grant number ∈ past →
      worker.runners[number]? = some runner → worker.run? others = some unclosed →
      (∀ event ∈ others, event.isDeclaration = false) →
      others.filter (Event.concerns number runner.submission.key) =
        later.filter (Event.concerns number runner.submission.key) →
        unclosed.runners[number]? = final.runners[number]? ∧
          (start.chronicle (past ++ others)).finals number =
            (start.chronicle events).finals number) ∧
    (∃ unclosed, worker.run? (later.filter worker.spares) = some unclosed ∧
      ∀ number runner, .grant number ∈ past → worker.runners[number]? = some runner →
        unclosed.runners[number]? = final.runners[number]? ∧
          (start.chronicle (past ++ later.filter worker.spares)).finals number =
            (start.chronicle events).finals number) ∧
    (final.AtRest → final.pool.queued = 0) ∧
    ∃ steps rested, (∀ event ∈ steps, event.mover?.isSome = true) ∧
      final.run? steps = some rested ∧ rested.AtRest := by
  have whole := run?_close reached ran
  have ownPast : ∀ event ∈ past, event.isDeclaration = false := fun event member =>
    own event (List.mem_append_left _ member)
  have ownLater : ∀ event ∈ later, event.isDeclaration = false := fun event member =>
    own event (List.mem_append_right _ member)
  have ownWhole : ∀ event ∈ past ++ .close :: later, event.isDeclaration = false := by
    intro event member
    rcases List.mem_append.mp member with before | after
    · exact ownPast event before
    · rcases List.mem_cons.mp after with rfl | after
      · rfl
      · exact ownLater event after
  have coherent := coherent_of_run? reached ownPast (coherent_make (.ofSize size) registry address)
  have logged := logged_of_run? reached (logged_make (.ofSize size) registry address)
  have accounted := accounted_of_run? whole (accounted_make size registry address)
  have shut : worker.close.pool.closed = true := rfl
  have closed : final.pool.closed = true :=
    keeps_of_run? ran shut (motive := fun worker => worker.pool.closed = true)
      fun _ _ _ _ => closed_of_step?
  refine ⟨?_, ?_, ?_, ?_, final.exists_atRest⟩
  · intro number ungranted
    have ungrantedLater : .grant number ∉ later := grant_not_mem_of_closed shut ran
    have ungrantedWhole : .grant number ∉ past ++ .close :: later := by
      simp [ungranted, ungrantedLater]
    refine ⟨ungrantedLater, not_invokes ownWhole ungrantedWhole, ?_⟩
    intro runner found
    have dismissed := dismissed_of_run? whole ownWhole ungrantedWhole found
    refine ⟨dismissed.finals_of_calledOff, ?_⟩
    intro uncalled
    rw [dismissed.finals]
    rcases dismissed.dismissal?_cases uncalled _ with undecided | decided
    · refine Or.inl ⟨by rw [undecided]; rfl, ?_⟩
      intro rest
      exact rest.dismissal?_ne_none closed found dismissed.unserved _ undecided
    · exact Or.inr (by rw [decided]; rfl)
  · intro number runner others unclosed granted found ranOthers ownOthers same
    exact coherent.finals_close reached ran ranOthers ownLater ownOthers found same
  · rcases run?_spared (shadows_close coherent) ran ownLater with ⟨unclosed, ranSpared⟩
    refine ⟨unclosed, ranSpared, ?_⟩
    intro number runner granted found
    have waiting := (logged.recorded found).waiting
    simp only [List.nil_append, granted, not_true_eq_false, false_and, iff_false,
      Bool.not_eq_true] at waiting
    have served : worker.serves number = true := by simp [serves, found, waiting]
    have ownSpared : ∀ event ∈ later.filter worker.spares, event.isDeclaration = false :=
      fun event member => ownLater event (List.mem_filter.mp member).1
    exact coherent.finals_close reached ran ranSpared ownLater ownSpared found
      (filter_concerns_spared served)
  · intro rest
    exact rest.queued_eq_zero closed accounted

/-- A task is at work, and two wait, of which one is called off. -/
def beforeShutdown : List Event :=
  let task (number : Int64) : Submission := ⟨⟨1, number⟩, ⟨"job"⟩, .null, "scratch"⟩
  [.register "job" .script, .submit (task 1), .submit (task 2), .submit (task 3), .grant 0,
    .start 0, .cancel ⟨1, 3⟩]

/-- A task with an unknown job comes too late and is called off while it is being rejected. -/
def afterShutdown : List Event :=
  [.submit ⟨⟨1, 4⟩, ⟨"unknown"⟩, .null, "scratch"⟩, .refuse 1, .refuse 2, .refuse 3, .start 1,
    .start 2, .start 3, .cancel ⟨1, 4⟩, .commit 1, .commit 3, .report 1, .exit 1, .exit 2, .exit 3,
    .finish 0 (.ok .null), .commit 0, .report 0, .exit 0]

theorem close_turns_away_shutdown :
    let start := make (.ofSize 1) .empty ⟨"host", 1, 2⟩
    let events := beforeShutdown ++ .close :: afterShutdown
    ∃ worker final, start.run? beforeShutdown = some worker ∧
      worker.close.run? afterShutdown = some final ∧
      (start.chronicle events).finals 1 = [turnedAway ⟨1, 2⟩ ⟨"host", 1, 2⟩] ∧
      (start.chronicle events).finals 3 =
        [⟨⟨1, 4⟩, .canceled, none, none, ⟨"host", 1, 2⟩⟩] ∧
      ¬start.Invokes events 3 ∧
      ∃ unclosed, worker.run? (afterShutdown.filter worker.spares) = some unclosed ∧
        unclosed.runners[0]? = final.runners[0]? := by
  refine ⟨_, _, rfl, rfl, ?_⟩
  have reached : (make (.ofSize 1) .empty ⟨"host", 1, 2⟩).run? beforeShutdown = some _ := rfl
  have own : ∀ event ∈ beforeShutdown ++ afterShutdown, event.isDeclaration = false := by decide
  have granted : Event.grant 0 ∈ beforeShutdown := by simp [beforeShutdown]
  have ungranted : ∀ number, number ≠ 0 → Event.grant number ∉ beforeShutdown := by
    intro number differs
    simp [beforeShutdown, differs]
  rcases close_turns_away reached (by exact rfl) own with
    ⟨unserved, -, ⟨unclosed, ran, served⟩, -, -⟩
  rcases unserved 1 (ungranted 1 (by decide)) with ⟨-, -, rejected⟩
  rcases unserved 3 (ungranted 3 (by decide)) with ⟨-, unbegun, withdrawn⟩
  refine ⟨?_, ?_, unbegun, unclosed, ran, (served 0 _ granted rfl).1⟩
  · by_cases called : (make (.ofSize 1) .empty ⟨"host", 1, 2⟩).CalledOff
        (beforeShutdown ++ .close :: afterShutdown) 1
    · have canceled := (rejected _ rfl).1 called
      exact absurd (congrArg (List.map TaskRecord.status) canceled) (by decide)
    · rcases (rejected _ rfl).2 called with ⟨none, -⟩ | failed
      · exact absurd (congrArg List.length none) (by decide)
      · exact failed
  · have called : (make (.ofSize 1) .empty ⟨"host", 1, 2⟩).CalledOff
        (beforeShutdown ++ .close :: afterShutdown) 3 :=
      ⟨beforeShutdown ++ .close :: afterShutdown.take 7, afterShutdown.drop 8, _, _, rfl, rfl, rfl,
        by decide⟩
    exact (withdrawn _ rfl).1 called

end Worker

end TaskAgent
