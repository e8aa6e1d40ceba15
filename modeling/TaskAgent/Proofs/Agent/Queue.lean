import TaskAgent.Proofs.Agent.Rest
import TaskAgent.Proofs.Worker.Cancellation
import TaskAgent.Proofs.Worker.Closing

/-!
# First come, first served

Slots are given in order of acceptance and to every task in turn: the tasks that have been given
one are always the first that were accepted, and while the pool is open all others wait
(`Worker.InTurn`). That holds of every worker whose slots are given first come, first served
(`Worker.inTurn_of_run?`). An agent does so because it looks for the first runner that can move; if
a task may be given a slot, so may every task before it that waits (`Agent.Course.servesInOrder`).

That no slot is idle while a task waits does not depend on any order: when nothing can move,
whoever waits does so in an open pool all of whose slots are in use (`Agent.Passage.keepsBusy`).

A task that was called off while it waited takes its turn too, but leaves at once. When the agent
has settled, nobody holds a slot but to do his job, so such a task keeps nobody waiting.
-/

namespace TaskAgent

/-- The task that is given a slot. -/
def Event.granted? : Event → Option Nat
  | grant number => some number
  | _ => none

theorem Event.eq_grant_of_granted? {event : Event} {number : Nat}
    (gives : event.granted? = some number) : event = .grant number := by
  cases event <;> simp_all [granted?]

/-- The task that is submitted. -/
def Event.submission? : Event → Option Submission
  | submit submission => some submission
  | _ => none

/-- The tasks that are given a slot, in turn. -/
def granted (events : List Event) : List Nat := events.filterMap Event.granted?

theorem granted_append (earlier later : List Event) :
    granted (earlier ++ later) = granted earlier ++ granted later :=
  List.filterMap_append ..

namespace Runner

variable {registry : Registry} {number : Nat} {event : Event} {runner moved : Runner}

/-- A runner stays in the queue until it is given a slot or turned away. -/
theorem Lives.isWaiting_eq_true (lives : Lives registry number event runner moved)
    (ungranted : event ≠ .grant number) (unrefused : event ≠ .refuse number)
    (waits : runner.isWaiting = true) : moved.isWaiting = true := by
  have unworked : ∀ moved, ¬runner.Works registry moved := by
    intro moved works
    rw [works.isWaiting_eq_false.1] at waits
    cases waits
  cases lives with
  | untouched alien => exact waits
  | interrupted => exact waits
  | granted => exact absurd rfl ungranted
  | refused => exact absurd rfl unrefused
  | started stepped => exact absurd (.start stepped) (unworked moved)
  | entered stepped => exact absurd (.enter stepped) (unworked moved)
  | left stepped => exact absurd (.leave stepped) (unworked moved)
  | finished stepped => exact absurd (.finish _ stepped) (unworked moved)
  | committed stepped => exact absurd (.commit stepped) (unworked moved)
  | reported stage => simp [isWaiting, stage] at waits
  | gone stage => simp [isWaiting, stage] at waits

end Runner

namespace Worker

variable {worker changed : Worker} {event : Event} {events : List Event} {number served : Nat}
  {runner : Runner}

/-- The first tasks that were accepted have been given a slot, and no other one has. -/
structure InTurn (worker : Worker) (served : Nat) : Prop where
  known : served ≤ worker.runners.length
  behind : ∀ {number : Nat} {runner : Runner}, worker.runners[number]? = some runner →
    runner.isWaiting = true → served ≤ number
  ahead : worker.pool.closed = false → ∀ {number : Nat} {runner : Runner},
    worker.runners[number]? = some runner → served ≤ number → runner.isWaiting = true

theorem inTurn_make (pool : Pool) (registry : Registry) (address : Address) :
    (make pool registry address).InTurn 0 := by
  constructor
  · exact Nat.zero_le _
  · intro number runner found waits
    exact Nat.zero_le number
  · intro unclosed number runner found
    cases found

/-- Who waits after an event waited before it, or came with it. -/
theorem waited_of_step? (stepped : worker.step? event = some changed)
    (found : changed.runners[number]? = some runner) (waits : runner.isWaiting = true) :
    worker.runners.length ≤ number ∨
      ∃ before, worker.runners[number]? = some before ∧ before.isWaiting = true := by
  cases foundBefore : worker.runners[number]? with
  | none => exact Or.inl (by simpa using foundBefore)
  | some before =>
      refine Or.inr ⟨before, rfl, ?_⟩
      rcases lives_of_step? stepped foundBefore with ⟨after, foundAfter, lives⟩
      cases found.symm.trans foundAfter
      cases waited : before.isWaiting with
      | true => rfl
      | false =>
          rw [lives.isWaiting_eq_false waited] at waits
          cases waits

/-- Nobody loses his turn as long as no slot is given. -/
theorem InTurn.step (inTurn : worker.InTurn served) (stepped : worker.step? event = some changed)
    (ungranted : event.granted? = none) : changed.InTurn served := by
  have more := (submissions_prefix_of_change (change_of_step? stepped)).length_le
  simp only [submissions, List.length_map] at more
  constructor
  · exact Nat.le_trans inTurn.known more
  · intro number runner found waits
    rcases waited_of_step? stepped found waits with new | ⟨before, foundBefore, waited⟩
    · exact Nat.le_trans inTurn.known new
    · exact inTurn.behind foundBefore waited
  · intro unclosed number runner found later
    have unclosed := unclosed_of_step? stepped unclosed
    cases foundBefore : worker.runners[number]? with
    | none =>
        rcases ofSubmission_of_step? stepped foundBefore found with ⟨-, submission, rfl⟩
        rfl
    | some before =>
        rcases lives_of_step? stepped foundBefore with ⟨after, foundAfter, lives⟩
        cases found.symm.trans foundAfter
        refine lives.isWaiting_eq_true ?_ ?_ (inTurn.ahead unclosed foundBefore later)
        · rintro rfl
          cases ungranted
        · rintro rfl
          rcases exists_of_refuse? stepped with ⟨-, -, -, closed, -⟩
          rw [unclosed] at closed
          cases closed

/-- Whoever is given a slot, with nobody before him who still waits, is the next in turn. -/
theorem InTurn.eq_of_grant? (inTurn : worker.InTurn served)
    (stepped : worker.step? (.grant number) = some changed)
    (first : ∀ other < number, ∀ runner, worker.runners[other]? = some runner →
      runner.isWaiting = false) : number = served := by
  rcases exists_of_grant? stepped with ⟨runner, found, waits, unclosed, -, -⟩
  have later := inTurn.behind found (Runner.isWaiting_eq_true_iff.mpr waits)
  refine Nat.le_antisymm (Nat.le_of_not_lt fun earlier => ?_) later
  -- the next in turn waits too, as long as the pool is open
  have inside := (List.getElem?_eq_some_iff.mp found).1
  have foundNext : worker.runners[served]? = some worker.runners[served] :=
    List.getElem?_eq_getElem (by omega)
  have waiting := inTurn.ahead unclosed foundNext (Nat.le_refl served)
  rw [first served earlier _ foundNext] at waiting
  cases waiting

/-- The next in turn is given a slot. -/
theorem InTurn.grant (inTurn : worker.InTurn served)
    (stepped : worker.step? (.grant served) = some changed) : changed.InTurn (served + 1) := by
  rcases exists_of_grant? stepped with ⟨runner, found, waits, unclosed, -, rfl⟩
  have inside := (List.getElem?_eq_some_iff.mp found).1
  constructor
  · rw [setRunner, List.length_set]
    exact inside
  · intro number other foundOther waiting
    rcases waited_of_step? stepped foundOther waiting with new | ⟨before, foundBefore, waited⟩
    · omega
    · have later := inTurn.behind foundBefore waited
      have differs : served ≠ number := by
        rintro rfl
        have same := (getElem?_setRunner_self found _).symm.trans foundOther
        cases same
        cases waiting
      omega
  · intro _ number other foundOther later
    have foundBefore : worker.runners[number]? = some other :=
      (getElem?_setRunner_of_ne (by omega) _).symm.trans foundOther
    exact inTurn.ahead unclosed foundBefore (by omega)

/-- Slots are given first come, first served: whoever is given one has nobody before him who still
waits. -/
def ServesInOrder (start : Worker) (events : List Event) : Prop :=
  ∀ earlier number later worker, events = earlier ++ .grant number :: later →
    start.run? earlier = some worker → ∀ other < number, ∀ runner,
      worker.runners[other]? = some runner → runner.isWaiting = false

variable {start final : Worker} {past : List Event}

theorem ServesInOrder.of_append (serves : start.ServesInOrder (past ++ events)) :
    start.ServesInOrder past := by
  rintro earlier number later worker rfl
  exact serves earlier number (later ++ events) worker (by simp)

theorem ServesInOrder.concat (serves : start.ServesInOrder past)
    (reached : start.run? past = some worker)
    (first : ∀ number, event = .grant number → ∀ other < number, ∀ runner,
      worker.runners[other]? = some runner → runner.isWaiting = false) :
    start.ServesInOrder (past ++ [event]) := by
  intro earlier number later before cut ran
  rcases List.append_eq_append_iff.mp cut with ⟨rest, rfl, tail⟩ | ⟨rest, rfl, tail⟩
  · cases rest with
    | nil =>
        cases tail
        rw [List.append_nil, reached] at ran
        cases ran
        exact first number rfl
    | cons head rest => simp at tail
  · cases rest with
    | nil =>
        cases tail
        rw [List.append_nil] at reached
        cases reached.symm.trans ran
        exact first number rfl
    | cons head rest =>
        cases tail
        exact serves earlier number rest before rfl ran

/-- If slots are given first come, first served, they are given in order of acceptance and to every
task in turn. -/
theorem inTurn_of_run? (ran : start.run? events = some final) (inTurn : start.InTurn 0)
    (serves : start.ServesInOrder events) :
    granted events = List.range (granted events).length ∧ final.InTurn (granted events).length := by
  let motive (past : List Event) (worker : Worker) : Prop :=
    start.ServesInOrder past →
      granted past = List.range (granted past).length ∧ worker.InTurn (granted past).length
  have holds : motive events final := by
    refine run?_induction ran (fun _ => ⟨rfl, inTurn⟩) ?_
    intro past before event after reached stepped earlier serves
    rcases earlier serves.of_append with ⟨given, inTurn⟩
    cases gives : event.granted? with
    | none =>
        have same : granted (past ++ [event]) = granted past := by simp [granted, gives]
        rw [same]
        exact ⟨given, inTurn.step stepped gives⟩
    | some number =>
        obtain rfl := Event.eq_grant_of_granted? gives
        obtain rfl : number = (granted past).length :=
          inTurn.eq_of_grant? stepped (serves past number [] before rfl reached)
        have more : granted (past ++ [.grant (granted past).length]) =
            granted past ++ [(granted past).length] := granted_append ..
        rw [more, List.length_append, List.length_singleton, List.range_succ, ← given]
        exact ⟨rfl, inTurn.grant stepped⟩
  exact holds serves

/-- Tasks are accepted in the order in which they are submitted. -/
theorem submissions_sublist_of_run? (ran : worker.run? events = some changed) :
    changed.submissions.Sublist (worker.submissions ++ events.filterMap Event.submission?) := by
  induction events generalizing worker with
  | nil =>
      cases ran
      simp
  | cons event rest ih =>
      rcases exists_of_run?_cons ran with ⟨next, stepped, ran⟩
      have first : next.submissions.Sublist
          (worker.submissions ++ [event].filterMap Event.submission?) := by
        rcases submissions_of_change (change_of_step? stepped) with same | ⟨_, accepts, -⟩
        · rw [same]
          exact List.sublist_append_left ..
        · rcases submit_of_effect accepts with ⟨-, fresh, submission, rfl, own⟩
          rw [← own] at fresh
          have fresh := Tracker.isInFlight_eq_false_iff.mpr fresh
          cases stepped
          simp [submit, fresh, submissions, Event.submission?, Runner.ofSubmission]
      have both := (ih ran).trans (first.append_right _)
      rwa [List.append_assoc, ← List.filterMap_append] at both

/-- The job of a task that was called off while it waited is not invoked. -/
theorem not_invokes_of_canceled {pool : Pool} {registry : Registry} {address : Address}
    {earlier later : List Event} {key : TaskKey} {final : Worker}
    (reached : (make pool registry address).run? earlier = some worker)
    (own : ∀ event ∈ earlier, event.isDeclaration = false)
    (handle : worker.tracker.handles.find? key = some number)
    (found : worker.runners[number]? = some runner) (waits : runner.stage = .waiting)
    (ran : (worker.cancel key).run? later = some final) :
    ¬(make pool registry address).Invokes (earlier ++ .cancel key :: later) number ∧
      final.works number = false := by
  have coherent := coherent_of_run? reached own (coherent_make pool registry address)
  have idle : runner.isWorking = false := by simp [Runner.isWorking, waits]
  have never : (worker.cancel key).NeverWorks number := by
    rcases coherent.isOpen_of_handle handle found with ⟨rfl, isOpen⟩
    have unfinished := coherent.unfinished_of_isOpen found isOpen
    have reached : runner.phase? = some .unstarted := by
      simp only [Runner.IsOpen, waits] at isOpen
      simp [Runner.phase?, waits, isOpen]
    exact (hasEnded_cancel handle unfinished found reached rfl).2.2 idle
  refine ⟨?_, ?_⟩
  · rintro ⟨early, rest, between, other, cut, reachedBetween, foundBetween, working⟩
    rcases List.append_eq_append_iff.mp cut with ⟨past, rfl, tail⟩ | ⟨past, rfl, -⟩
    · rw [run?_append, reached, Option.bind_some] at reachedBetween
      cases past with
      | nil =>
          cases reachedBetween
          rw [Option.some.inj (found.symm.trans foundBetween), working] at idle
          cases idle
      | cons event past =>
          cases (List.cons.inj tail).1
          have idle := never past between other reachedBetween foundBetween
          rw [working] at idle
          cases idle
    · -- who has left the queue does not come back to it
      rw [run?_append, reachedBetween, Option.bind_some] at reached
      have left : other.isWaiting = false := by
        cases stage : other.stage <;> simp_all [Runner.isWaiting, Runner.isWorking]
      rcases runner_keeps_of_run? reached foundBetween left
        (motive := fun runner => runner.isWaiting = false)
        fun lives left => lives.isWaiting_eq_false left with ⟨same, foundAgain, left⟩
      cases found.symm.trans foundAgain
      simp [Runner.isWaiting, waits] at left
  · cases foundAfter : final.runners[number]? with
    | none => simp [works, foundAfter]
    | some other =>
        rw [works_of_found foundAfter]
        exact never later final other ran foundAfter

end Worker

namespace Agent

variable {agent moved changed : Agent} {events past : List Event} {number served : Nat}

/-- Who is given a slot by the first move has nobody before him who still waits. -/
theorem isWaiting_eq_false_of_first (first : agent.mover? = some number)
    {worker : Worker} (stepped : agent.worker.step? (.grant number) = some worker)
    {other : Nat} (earlier : other < number) {runner : Runner}
    (found : agent.worker.runners[other]? = some runner) : runner.isWaiting = false := by
  rcases Worker.exists_of_grant? stepped with ⟨-, -, -, unclosed, free, -⟩
  -- he could be given the slot as well, and would have moved first
  have still := (List.find?_range_eq_some.mp first).2.2 other earlier
  cases waits : runner.isWaiting with
  | false => rfl
  | true =>
      have stage := Runner.isWaiting_eq_true_iff.mp waits
      simp [move?, found, moveAt?, stage, withWorker?, Worker.grant?, waits, unclosed,
        free] at still

/-- An agent that lets the first runner move gives slots first come, first served. -/
theorem Course.servesInOrder (course : Course agent events changed) :
    agent.worker.ServesInOrder events := by
  let motive (past : List Event) (after : Agent) : Prop :=
    agent.worker.run? past = some after.worker ∧ agent.worker.ServesInOrder past
  have initially : motive [] agent := ⟨rfl, fun earlier number later worker cut => by simp at cut⟩
  refine (course.keeps (motive := motive) [] initially ?_).2
  rintro past before later after happens ⟨reached, serves⟩
  refine ⟨by rw [Worker.run?_append, reached, Option.bind_some, happens.run?], ?_⟩
  cases happens with
  | asked outside stepped =>
      refine serves.concat reached ?_
      rintro number rfl
      cases outside
  | elsewhere world => rwa [List.append_nil]
  | @moved number _ first moves =>
      rcases exists_of_move? moves with ⟨runner, found, moved⟩
      have ran := moved.run?
      cases tells : before.event? number with
      | none => rwa [Option.toList_none, List.append_nil]
      | some event =>
          rw [tells] at ran moved
          rcases Worker.exists_of_run?_cons ran with ⟨worker, stepped, -⟩
          refine serves.concat reached ?_
          rintro place rfl other earlier rival foundOther
          cases Option.some.inj moved.mover?_eq
          exact isWaiting_eq_false_of_first first stepped earlier foundOther

/-- A task waits only in an open pool all of whose slots are in use, and each slot in use is held by
a job that has been begun and is held up, by a closed gate or in a long rest. -/
structure KeepsBusy (agent : Agent) : Prop where
  full : 0 < agent.worker.pool.queued →
    agent.worker.pool.closed = false ∧ agent.worker.pool.active = agent.worker.pool.size
  busy : ∀ number runner, agent.worker.runners[number]? = some runner → runner.slot = true →
    runner.isWorking = true ∧
      ∃ computation, agent.computations.find? number = some computation ∧
        computation.IsHeldUp agent.world ∧ computation.wakeTime? false = none

/-- A task that waits at rest finds an open pool without a free slot. -/
theorem IsSettled.of_queued (settled : agent.IsSettled) (accounted : agent.worker.Accounted)
    (queued : 0 < agent.worker.pool.queued) :
    agent.worker.pool.closed = false ∧ agent.worker.pool.active = agent.worker.pool.size := by
  rw [accounted.queued_eq, List.countP_pos_iff] at queued
  rcases queued with ⟨runner, member, waits⟩
  rcases List.getElem?_of_mem member with ⟨number, found⟩
  rcases settled.of_waiting found (Runner.isWaiting_eq_true_iff.mp waits) with ⟨unclosed, none⟩
  exact ⟨unclosed, by rw [Pool.active, none, Nat.sub_zero]⟩

theorem IsSettled.keepsBusy (settled : agent.IsSettled) (accounted : agent.worker.Accounted)
    (staffed : agent.Staffed) : agent.KeepsBusy := by
  refine ⟨settled.of_queued accounted, ?_⟩
  intro number runner found slot
  have works := settled.isWorking accounted found slot
  exact ⟨works, settled.isHeldUp staffed found works⟩

variable {size : Nat} {registry : Registry} {address : Address} {figures : MachineFigures}
  {files : FileTree}

theorem Passage.accounted
    (passage : (make (.ofSize size) registry address figures files).Passage events agent) :
    agent.worker.Accounted :=
  Worker.accounted_of_run? passage.run? (Worker.accounted_make size registry address)

/-- However an agent came to rest, it keeps its slots busy. -/
theorem Passage.keepsBusy
    (passage : (make (.ofSize size) registry address figures files).Passage events agent)
    (settled : agent.IsSettled) : agent.KeepsBusy :=
  settled.keepsBusy passage.accounted
    (passage.staffed (staffed_make (.ofSize size) registry address figures files))

end Agent

namespace Session

variable {session : Session} {actions : List Action}

/-- In every session of a new agent slots are given in order of acceptance and to every task in
turn. Whenever the agent has settled, it keeps its slots busy: a task waits only in an open pool all
of whose slots are in use, and each slot in use is held by a job that is held up. A task that was
called off while it waited is not among those jobs at any time: it takes no slot from the next one.

Neither law is due to the order in which the agent lets its runners move. In whatever order they
do, it keeps its slots busy when it has settled, and slots are given in order of acceptance as long
as they are given first come, first served. -/
theorem work_is_conserved {size : Nat} {registry : Registry} {address : Address}
    {figures : MachineFigures} {files : FileTree}
    (new : session.agent = .make (.ofSize size) registry address figures files)
    (alone : ∀ action ∈ actions, action.isLocal = true)
    (own : ∀ action ∈ actions, action.isDeclaration = false) :
    let events := session.trace actions
    let final := (session.performed actions).agent
    session.agent.worker.run? events = some final.worker ∧
    final.worker.submissions.Sublist (events.filterMap Event.submission?) ∧
    granted events = List.range (granted events).length ∧
    (∀ last, actions.getLast? = some last → last.settles = true → final.IsSettled) ∧
    (final.IsSettled → final.KeepsBusy) ∧
    (∀ earlier key later worker number runner, events = earlier ++ .cancel key :: later →
      session.agent.worker.run? earlier = some worker →
        worker.tracker.handles.find? key = some number →
          worker.runners[number]? = some runner → runner.stage = .waiting →
            ¬session.agent.worker.Invokes events number ∧
            (final.IsSettled → ∀ moved, final.worker.runners[number]? = some moved →
              moved.slot = false)) ∧
    ∀ past agent, session.agent.Passage past agent →
      (agent.IsSettled → agent.KeepsBusy) ∧
      (session.agent.worker.ServesInOrder past →
        granted past = List.range (granted past).length) := by
  intro events final
  have course : session.agent.Course events final := course_performed alone
  have ran := course.run?
  rw [new] at course ran ⊢
  have accounted := course.passage.accounted
  have inTurn := Worker.inTurn_make (.ofSize size) registry address
  refine ⟨ran, Worker.submissions_sublist_of_run? ran,
    (Worker.inTurn_of_run? ran inTurn course.servesInOrder).1, ?_, course.passage.keepsBusy, ?_, ?_⟩
  · intro last ends settles
    exact isSettled_performed ends settles
  · intro earlier key later worker number runner cut reached handle found waits
    have undeclared : ∀ event ∈ earlier, event.isDeclaration = false := fun event member =>
      isDeclaration_of_mem_trace own event (cut ▸ List.mem_append_left _ member)
    rw [cut, Worker.run?_append, reached] at ran
    rcases Worker.not_invokes_of_canceled reached undeclared handle found waits ran with
      ⟨uninvoked, idle⟩
    rw [cut]
    refine ⟨uninvoked, ?_⟩
    intro settled moved foundAfter
    cases slot : moved.slot with
    | false => rfl
    | true =>
        rw [Worker.works_of_found foundAfter, settled.isWorking accounted foundAfter slot] at idle
        cases idle
  · intro past agent passage
    exact ⟨passage.keepsBusy, fun serves => (Worker.inTurn_of_run? passage.run? inTurn serves).1⟩

/-- A session of a new agent with one slot. -/
def oneSlot : Session :=
  let figures : MachineFigures :=
    ⟨.ofInt .single 0, 0, .ofInt .double 0, .ofInt .double 0, .ofInt .double 0⟩
  ⟨.make (.ofSize 1) .builtin ⟨"host", 1, 2⟩ figures .initial, ∅, "", false⟩

/-- The first task rests in the only slot while three others wait; it is called off together with
the one behind it, so that the third takes the slot, to rest there, and the last one still waits. -/
def restAndCallOff : List Action :=
  let task (number : Int64) (name : String) (arguments : Json) : Action :=
    .submit ⟨⟨1, number⟩, ⟨name⟩, arguments, "scratch"⟩
  let long : Json := .object [("ms", .integer 5000)]
  [task 1 "sleep" long, task 2 "noop" .null, task 3 "sleep" long, task 4 "noop" .null, .settle,
    .cancel ⟨1, 2⟩, .cancel ⟨1, 1⟩, .settle]

theorem work_is_conserved_restAndCallOff :
    let final := (oneSlot.performed restAndCallOff).agent
    final.IsSettled ∧ final.worker.pool.queued = 1 ∧
      final.worker.pool.closed = false ∧ final.worker.pool.active = final.worker.pool.size ∧
      granted (oneSlot.trace restAndCallOff) = [0, 1, 2] ∧
      ¬oneSlot.agent.worker.Invokes (oneSlot.trace restAndCallOff) 1 := by
  intro final
  have alone : ∀ action ∈ restAndCallOff, action.isLocal = true := by decide
  have own : ∀ action ∈ restAndCallOff, action.isDeclaration = false := by decide
  have new : oneSlot.agent = .make (.ofSize 1) .builtin ⟨"host", 1, 2⟩ oneSlot.agent.figures
    .initial := rfl
  rcases work_is_conserved new alone own with ⟨-, -, inTurn, rests, atRest, skipped, -⟩
  have settled : final.IsSettled := rests .settle rfl rfl
  have queued : final.worker.pool.queued = 1 := rfl
  have slots : (granted (oneSlot.trace restAndCallOff)).length = 3 := rfl
  rcases (atRest settled).full (by rw [queued]; decide) with ⟨unclosed, active⟩
  refine ⟨settled, queued, unclosed, active, by rw [inTurn, slots]; rfl, ?_⟩
  have cut : oneSlot.trace restAndCallOff = oneSlot.trace (restAndCallOff.take 5) ++
      .cancel ⟨1, 2⟩ :: (oneSlot.performed (restAndCallOff.take 6)).trace
        (restAndCallOff.drop 6) := rfl
  exact (skipped _ _ _ _ 1 _ cut rfl rfl rfl rfl).1

end Session

end TaskAgent
