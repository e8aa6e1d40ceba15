import TaskAgent.Proofs.Master.Orders
import TaskAgent.Proofs.Worker.FinalRecord
import TaskAgent.Proofs.Worker.Fate

/-!
# Tasks that are run on order

An order to run a task waits with the other orders of its answer until its turn comes, while the
worker goes on with other tasks. If nothing else asks for the task, what the worker accepts under
its key in the end is what was ordered (`Correspondence.Commissioned`), and the one event with which
the task can leave the flight is the report of the runner that has it
(`Correspondence.Commissioned.exists_report`).
-/

namespace TaskAgent

/-- The task that is submitted or called off. -/
def Event.subject? : Event → Option TaskKey
  | submit submission => some submission.key
  | cancel key => some key
  | _ => none

theorem Event.isTransfer_drain : Event.drain.isTransfer = true := rfl

theorem Event.isTransfer_restore (records : List TaskRecord) :
    (Event.restore records).isTransfer = true := rfl

theorem Event.subject?_ne_of_isTransfer {event : Event} (transfers : event.isTransfer = true)
    (key : TaskKey) : event.subject? ≠ some key := by
  cases event with
  | drain => simp [subject?]
  | restore records => simp [subject?]
  | _ => cases transfers

/-- The task that is to be run or called off. -/
def Command.subject? : Command → Option TaskKey
  | run key _ _ => some key
  | cancel key => some key
  | register => none

theorem Command.subject?_event? {scratch : String} {command : Command} {event : Event}
    (comes : command.event? scratch = some event) : event.subject? = command.subject? := by
  cases command <;> cases comes <;> rfl

namespace Worker

variable {worker changed : Worker} {event : Event} {key : TaskKey}

/-- A task that is not in flight stays so while it is not submitted. -/
theorem absent_of_step? (stepped : worker.step? event = some changed)
    (spared : event.subject? ≠ some key) (absent : worker.tracker.unfinished.find? key = none) :
    changed.tracker.unfinished.find? key = none := by
  rw [tracker_of_step? stepped]
  cases effect : worker.effect event with
  | nothing => exact absent
  | accept task number =>
      rcases submit_of_effect effect with ⟨-, -, submission, rfl, own⟩
      have differs : task ≠ key := fun same => spared (congrArg some (own.trans same))
      rw [Tracker.apply_accept, Tracker.find?_unfinished_accept, if_neg differs, absent]
  | finish task record =>
      rw [Tracker.apply_finish, Tracker.find?_unfinished_finish, absent, ite_self]
  | handOver => exact absent
  | takeBack records => exact absent

/-- No record is made of a task that is neither in flight nor submitted. -/
theorem newest?_made?_of_absent (keyed : worker.tracker.Keyed) (spared : event.subject? ≠ some key)
    (absent : worker.tracker.unfinished.find? key = none) :
    Chronicle.newest? (worker.made? event).toList key = none := by
  unfold made?
  cases effect : worker.effect event with
  | accept task number =>
      rcases submit_of_effect effect with ⟨-, -, submission, rfl, own⟩
      have differs : task ≠ key := fun same => spared (congrArg some (own.trans same))
      exact (Chronicle.newest?_concat [] _ key).trans (if_neg differs)
  | finish task record =>
      rcases exists_unfinished_of_effect effect with ⟨old, inFlight, own, -⟩
      have differs : record.key ≠ key := by
        rw [own, keyed.unfinished inFlight]
        rintro rfl
        rw [absent] at inFlight
        cases inFlight
      exact (Chronicle.newest?_concat [] _ key).trans (if_neg differs)
  | _ => rfl

/-- A task that is submitted while it is not in flight is given to a runner of its own. -/
theorem handle_submit {submission : Submission}
    (absent : worker.tracker.unfinished.find? submission.key = none) :
    ∃ number, (worker.submit submission).tracker.handles.find? submission.key = some number ∧
      (worker.submit submission).submissions[number]? = some submission := by
  have fresh := Tracker.isInFlight_eq_false_iff.mpr absent
  refine ⟨worker.runners.length, ?_, ?_⟩
  · simp [submit, fresh]
  · simp [submit, fresh, submissions, Runner.ofSubmission]

theorem absent_obey {scratch : String} {command : Command} (other : command.subject? ≠ some key)
    (absent : worker.tracker.unfinished.find? key = none) :
    (worker.obey scratch command).tracker.unfinished.find? key = none := by
  cases comes : command.event? scratch with
  | none =>
      cases command with
      | register => exact absent
      | _ => cases comes
  | some event =>
      exact absent_of_step? (step?_of_event? comes) (Command.subject?_event? comes ▸ other) absent

/-- A handle stays with its task until another task is accepted under the key. -/
theorem handle_of_spared {number : Nat} (stepped : worker.step? event = some changed)
    (spared : event.subject? ≠ some key)
    (handle : changed.tracker.handles.find? key = some number) :
    worker.tracker.handles.find? key = some number := by
  rcases handle_of_step? stepped handle with before | accepts
  · exact before
  · rcases submit_of_effect accepts with ⟨-, -, submission, rfl, own⟩
    exact absurd (congrArg some own) spared

/-- Only its runner can end a task that nobody calls off or declares to have ended. -/
theorem exists_report_of_effect {final : TaskRecord}
    (finishes : worker.effect event = .finish key final) (own : event.isDeclaration = false)
    (spared : event.subject? ≠ some key) :
    ∃ number runner outcome record, event = .report number ∧
      worker.runners[number]? = some runner ∧ runner.submission.key = key ∧
        runner.stage = .reporting outcome ∧
          worker.tracker.unfinished.find? key = some record ∧ final = record.ended outcome := by
  cases event with
  | report number =>
      simp only [effect] at finishes
      split at finishes
      · next task outcome reporting =>
          rcases Effect.ending_eq_finish.mp finishes with ⟨rfl, ends⟩
          rcases Option.map_eq_some_iff.mp ends with ⟨record, unfinished, rfl⟩
          rcases exists_of_reporting? reporting with ⟨runner, found, mine, stage⟩
          exact ⟨number, runner, outcome, record, rfl, found, mine, stage, unfinished, rfl⟩
      · cases finishes
  | cancel other =>
      rcases Effect.ending_eq_finish.mp finishes with ⟨rfl, -⟩
      exact absurd rfl spared
  | complete other result => cases own
  | fail other message => cases own
  | submit submission =>
      simp only [effect] at finishes
      split at finishes <;> cases finishes
  | _ => cases finishes

/-- A task leaves the flight with its final record. -/
theorem exists_finish_of_step? (stepped : worker.step? event = some changed)
    (inFlight : worker.tracker.unfinished.find? key ≠ none)
    (absent : changed.tracker.unfinished.find? key = none) :
    ∃ final, worker.effect event = .finish key final ∧
      changed.tracker.updates.find? key = some final := by
  rw [tracker_of_step? stepped] at absent ⊢
  cases effect : worker.effect event with
  | accept task number =>
      rw [effect, Tracker.apply_accept, Tracker.find?_unfinished_accept] at absent
      split at absent
      · cases absent
      · exact absurd absent inFlight
  | finish task final =>
      rw [effect, Tracker.apply_finish, Tracker.find?_unfinished_finish] at absent
      split at absent
      · next same =>
          subst same
          exact ⟨final, rfl, (Tracker.find?_updates_finish ..).trans (if_pos rfl)⟩
      · exact absurd absent inFlight
  | _ =>
      rw [effect] at absent
      exact absurd absent inFlight

end Worker

namespace Correspondence

variable {state changed : Correspondence} {scratch : String} {move : Move} {event : Event}
  {key : TaskKey} {submission : Submission}

/-- What is asked of the worker or done by a runner in a move. -/
def event? (scratch : String) (state : Correspondence) : Move → Option Event
  | .work event => some event
  | .obey =>
    match state.pending with
    | some (command :: _) => command.event? scratch
    | _ => none
  | _ => none

/-- What a move does to the worker: nothing, an event of its own, or a transfer of records. -/
inductive Touches (scratch : String) (state changed : Correspondence) (move : Move) : Prop where
  | still (worker : changed.mail.worker = state.mail.worker)
      (chronicle : changed.mail.chronicle = state.mail.chronicle)
  | undergone {event : Event} (asks : state.event? scratch move = some event)
      (single : event.isTransfer = false)
      (happened : state.mail.undergo? event = some changed.mail)
  | transferred {event : Event} (transfers : event.isTransfer = true)
      (stepped : state.mail.worker.step? event = some changed.mail.worker)
      (chronicle : changed.mail.chronicle = state.mail.chronicle)

theorem touches_beat (figures : MachineFigures) :
    Touches scratch state (state.proceed (state.reporter.beat figures state.mail.worker))
      (.beat figures) := by
  unfold Reporter.beat
  split
  · exact .transferred Event.isTransfer_drain rfl rfl
  · exact .still rfl rfl

theorem touches_hear {figures : MachineFigures} {reply : Reply}
    (heard : state.hear? scratch figures reply = some changed) :
    Touches scratch state changed (.hear figures reply) := by
  unfold hear? at heard
  dsimp only at heard
  split at heard
  · cases heard
  · next beats phase =>
      cases heard
      unfold Reporter.hear
      rw [phase]
      dsimp only
      split
      · split
        · exact .transferred Event.isTransfer_drain rfl rfl
        · exact .still rfl rfl
      · exact .still rfl rfl
  · next agent records phase =>
      split at heard
      · cases heard
        exact .still rfl rfl
      · next refused =>
          cases heard
          cases answer : reply.orders with
          | error error =>
              rw [Reporter.hear_of_error phase answer]
              exact .transferred (Event.isTransfer_restore records) rfl rfl
          | ok orders =>
              cases orders with
              | some given => exact absurd answer (refused given)
              | none =>
                  rw [Reporter.hear_of_unknown phase answer]
                  exact .transferred (Event.isTransfer_restore records) rfl rfl

theorem touches_obey (obeyed : state.obey? scratch = some changed) :
    Touches scratch state changed .obey := by
  unfold obey? at obeyed
  split at obeyed
  · cases obeyed
  · next command rest pending =>
      split at obeyed
      · next event comes =>
          rcases Option.map_eq_some_iff.mp obeyed with ⟨mail, happened, rfl⟩
          refine .undergone ?_ (isTransfer_of_event? comes) happened
          simp only [event?, pending, comes]
      · cases obeyed
        exact .still rfl rfl
  · dsimp only at obeyed
    split at obeyed
    · cases obeyed
      exact .still rfl rfl
    · cases obeyed
      exact .still rfl rfl

theorem touches_of_step? (stepped : state.step? scratch move = some changed) :
    state.Touches scratch changed move := by
  cases move with
  | work event =>
      simp only [step?] at stepped
      split at stepped
      · cases stepped
      · next single =>
          rcases Option.map_eq_some_iff.mp stepped with ⟨mail, happened, rfl⟩
          exact .undergone rfl (by simpa using single) happened
  | register =>
      simp only [step?] at stepped
      split at stepped
      · cases stepped
        exact .still rfl rfl
      · cases stepped
  | beat figures =>
      simp only [step?] at stepped
      split at stepped
      · cases stepped
        exact touches_beat figures
      · cases stepped
  | hear figures reply => exact touches_hear stepped
  | obey => exact touches_obey stepped

/-- The worker stays, or one event happens to it. -/
theorem Touches.worker_cases (touches : state.Touches scratch changed move) :
    changed.mail.worker = state.mail.worker ∨
      ∃ event, state.mail.worker.step? event = some changed.mail.worker ∧
        (event.isTransfer = true ∨ state.event? scratch move = some event) := by
  cases touches with
  | still worker chronicle => exact Or.inl worker
  | undergone asks single happened =>
      rcases Option.map_eq_some_iff.mp happened with ⟨worker, stepped, same⟩
      rw [← same]
      exact Or.inr ⟨_, stepped, Or.inr asks⟩
  | transferred transfers stepped chronicle => exact Or.inr ⟨_, stepped, Or.inl transfers⟩

/-- The move does not ask for the task to be run or called off. -/
def Move.Spares (key : TaskKey) : Move → Prop
  | .work event => event.subject? ≠ some key
  | .hear _ reply => ∀ orders, reply.orders = .ok (some orders) →
      ∀ command ∈ orders.commands, command.subject? ≠ some key
  | _ => True

/-- While orders are pending nothing is asked of the reporter. -/
theorem Posted.cases_of_pending {commands : List Command} (posted : state.Posted)
    (pending : state.pending = some commands) (stepped : state.step? scratch move = some changed) :
    (∃ event, move = .work event) ∨ move = .obey := by
  rcases posted.of_pending pending with ⟨phase, -⟩
  cases move with
  | work event => exact Or.inl ⟨event, rfl⟩
  | obey => exact Or.inr rfl
  | register => simp [step?, isFree, phase, pending] at stepped
  | beat figures => simp [step?, isFree, phase, pending] at stepped
  | hear figures reply => simp [step?, hear?, phase] at stepped

/-- Orders are pending since before, or one of them was carried out, or they have just come. -/
theorem pending_cases {commands : List Command} (stepped : state.step? scratch move = some changed)
    (pending : changed.pending = some commands) :
    state.pending = some commands ∨
      (∃ command, state.pending = some (command :: commands)) ∨
        ∃ figures reply orders, move = .hear figures reply ∧
          reply.orders = .ok (some orders) ∧ commands = orders.commands := by
  have exchange := exchange_of_step? stepped
  generalize state.posts scratch move = said at exchange
  cases exchange with
  | worked steppedWorker reporter same again => exact Or.inl (same ▸ pending)
  | beatsLater phase given reporter same => exact Or.inl (same ▸ pending)
  | introduced phase given reporter same => exact Or.inl (same ▸ pending)
  | rejected phase refused reporter same => exact Or.inl (same ▸ pending)
  | disowned registration phase unknown reporter same => exact Or.inl (same ▸ pending)
  | failed phase refused reporter same => exact Or.inl (same ▸ pending)
  | accepted phase given reporter come again =>
      cases come.symm.trans pending
      exact Or.inr (Or.inr ⟨_, _, _, rfl, given, rfl⟩)
  | obeyed before worker reporter left again =>
      cases left.symm.trans pending
      exact Or.inr (Or.inl ⟨_, before⟩)
  | registers free reporter none => cases none.symm.trans pending
  | introduces free unknown reporter none => cases none.symm.trans pending
  | beats free known reporter none => cases none.symm.trans pending
  | repeats before again worker reporter none => cases none.symm.trans pending
  | finished before again worker reporter none => cases none.symm.trans pending

theorem step?_hear_of_accepted (scratch : String) (figures : MachineFigures) {reply : Reply}
    {orders : Orders} {agent : AgentId} {records : List TaskRecord}
    (phase : state.reporter.phase = .beating agent records)
    (accepted : reply.orders = .ok (some orders)) :
    state.step? scratch (.hear figures reply) = some ⟨state.mail.answer true,
      { state.reporter with phase := .idle }, some orders.commands, false⟩ := by
  simp only [step?, hear?, phase, accepted]

/-- No order that is pending concerns the task. -/
def Unasked (key : TaskKey) (state : Correspondence) : Prop :=
  ∀ commands, state.pending = some commands → ∀ command ∈ commands, command.subject? ≠ some key

namespace Unasked

/-- An order that is carried out concerns the task only if it is pending. -/
theorem subject?_ne (unasked : state.Unasked key) (spared : move.Spares key)
    (asks : state.event? scratch move = some event) : event.subject? ≠ some key := by
  cases move with
  | work event =>
      cases asks
      exact spared
  | obey =>
      unfold event? at asks
      dsimp only at asks
      split at asks
      · next command rest pending =>
          rw [Command.subject?_event? asks]
          exact unasked _ pending command List.mem_cons_self
      · cases asks
  | _ => cases asks

theorem step (unasked : state.Unasked key) (spared : move.Spares key)
    (stepped : state.step? scratch move = some changed) : changed.Unasked key := by
  intro commands pending command listed
  rcases pending_cases stepped pending with
    before | ⟨first, before⟩ | ⟨figures, reply, answer, rfl, given, rfl⟩
  · exact unasked commands before command listed
  · exact unasked _ before command (List.mem_cons_of_mem _ listed)
  · exact spared answer given command listed

/-- A task that is not in flight stays so while nothing asks for it, and no record of it is made. -/
theorem absent_of_step? (unasked : state.Unasked key) (keyed : state.mail.worker.tracker.Keyed)
    (spared : move.Spares key) (stepped : state.step? scratch move = some changed)
    (absent : state.mail.worker.tracker.unfinished.find? key = none) :
    changed.mail.worker.tracker.unfinished.find? key = none ∧
      changed.mail.chronicle.history key = state.mail.chronicle.history key := by
  cases touches_of_step? stepped with
  | still worker chronicle =>
      rw [worker, chronicle]
      exact ⟨absent, rfl⟩
  | transferred transfers steppedWorker chronicle =>
      rw [chronicle]
      exact ⟨Worker.absent_of_step? steppedWorker
        (Event.subject?_ne_of_isTransfer transfers key) absent, rfl⟩
  | undergone asks single happened =>
      have other := unasked.subject?_ne spared asks
      rcases Option.map_eq_some_iff.mp happened with ⟨worker, steppedWorker, same⟩
      rw [← same]
      refine ⟨Worker.absent_of_step? steppedWorker other absent, ?_⟩
      have unmade := Worker.newest?_made?_of_absent keyed other absent
      rw [Chronicle.history_append, Chronicle.newest?_eq_none_iff.mp unmade, List.append_nil]

end Unasked

/-- The one order about the task is still to be carried out, or the task is in flight, if at all, as
it was ordered. -/
inductive Commissioned (submission : Submission) (state : Correspondence) : Prop where
  | ordered {commands : List Command} (pending : state.pending = some commands)
      (once : commands.filter (fun command => decide (command.subject? = some submission.key)) =
        [.run submission.key submission.config submission.arguments])
      (absent : state.mail.worker.tracker.unfinished.find? submission.key = none)
  | accepted (unasked : state.Unasked submission.key)
      (own : ∀ number, state.mail.worker.tracker.handles.find? submission.key = some number →
        state.mail.worker.submissions[number]? = some submission)

namespace Commissioned

/-- An accepted answer with one order about the task commissions it. -/
theorem of_hear {figures : MachineFigures} {reply : Reply} {orders : Orders} {agent : AgentId}
    {records : List TaskRecord} (phase : state.reporter.phase = .beating agent records)
    (accepted : reply.orders = .ok (some orders))
    (once : orders.commands.filter
        (fun command => decide (command.subject? = some submission.key)) =
      [.run submission.key submission.config submission.arguments])
    (absent : state.mail.worker.tracker.unfinished.find? submission.key = none)
    (heard : state.step? scratch (.hear figures reply) = some changed) :
    changed.Commissioned submission := by
  cases heard.symm.trans (step?_hear_of_accepted scratch figures phase accepted)
  exact .ordered rfl once absent

theorem own_of_step? {worker : Worker}
    (own : ∀ number, state.mail.worker.tracker.handles.find? submission.key = some number →
      state.mail.worker.submissions[number]? = some submission)
    (stepped : state.mail.worker.step? event = some worker)
    (spared : event.subject? ≠ some submission.key) (number : Nat)
    (handle : worker.tracker.handles.find? submission.key = some number) :
    worker.submissions[number]? = some submission := by
  have accepted := own number (Worker.handle_of_spared stepped spared handle)
  have kept := Worker.submissions_prefix_of_change (Worker.change_of_step? stepped)
  exact Worker.getElem?_of_prefix kept accepted

theorem step_of_accepted (spared : move.Spares submission.key)
    (unasked : state.Unasked submission.key)
    (own : ∀ number, state.mail.worker.tracker.handles.find? submission.key = some number →
      state.mail.worker.submissions[number]? = some submission)
    (stepped : state.step? scratch move = some changed) : changed.Commissioned submission := by
  refine .accepted (unasked.step spared stepped) ?_
  cases touches_of_step? stepped with
  | still worker chronicle =>
      rw [worker]
      exact own
  | undergone asks single happened =>
      rcases Option.map_eq_some_iff.mp happened with ⟨worker, steppedWorker, same⟩
      rw [← same]
      exact own_of_step? own steppedWorker (unasked.subject?_ne spared asks)
  | transferred transfers steppedWorker chronicle =>
      exact own_of_step? own steppedWorker (Event.subject?_ne_of_isTransfer transfers _)

/-- The first order of those that are pending is carried out. -/
theorem step_obey {command : Command} {rest : List Command}
    (pending : state.pending = some (command :: rest))
    (once : (command :: rest).filter
        (fun command => decide (command.subject? = some submission.key)) =
      [.run submission.key submission.config submission.arguments])
    (absent : state.mail.worker.tracker.unfinished.find? submission.key = none)
    (stepped : state.step? submission.scratch .obey = some changed) :
    changed.Commissioned submission := by
  rcases step?_obey submission.scratch pending with ⟨after, steppedAfter, worker, -, left, -⟩
  cases stepped.symm.trans steppedAfter
  rw [List.filter_cons] at once
  split at once
  · next about =>
      rcases List.cons.inj once with ⟨rfl, none⟩
      refine .accepted ?_ ?_
      · intro commands later
        cases left.symm.trans later
        simpa using List.filter_eq_nil_iff.mp none
      · intro number handle
        rw [worker] at handle ⊢
        rcases Worker.handle_submit absent with ⟨place, handled, submitted⟩
        cases handle.symm.trans handled
        exact submitted
  · next other =>
      refine .ordered left once ?_
      rw [worker]
      exact Worker.absent_obey (by simpa using other) absent

/-- The task stays commissioned while nothing else asks for it. -/
theorem step (commissioned : state.Commissioned submission) (posted : state.Posted)
    (spared : move.Spares submission.key)
    (stepped : state.step? submission.scratch move = some changed) :
    changed.Commissioned submission := by
  cases commissioned with
  | accepted unasked own => exact step_of_accepted spared unasked own stepped
  | @ordered commands pending once absent =>
      rcases posted.cases_of_pending pending stepped with ⟨event, rfl⟩ | rfl
      · cases exchange_of_step? stepped with
        | worked steppedWorker reporter same again =>
            exact .ordered (same.trans pending) once
              (Worker.absent_of_step? steppedWorker spared absent)
      · cases commands with
        | nil => cases once
        | cons command rest => exact step_obey pending once absent stepped

/-- The task leaves the flight with the report of the runner that was given what was ordered. -/
theorem exists_report (commissioned : state.Commissioned submission)
    (coherent : state.mail.worker.Coherent) (spared : move.Spares submission.key)
    (undeclared : ∀ event, state.event? scratch move = some event → event.isDeclaration = false)
    (stepped : state.step? scratch move = some changed)
    (inFlight : state.mail.worker.tracker.unfinished.find? submission.key ≠ none)
    (absent : changed.mail.worker.tracker.unfinished.find? submission.key = none) :
    ∃ (number : Nat) (runner : Runner) (outcome : Outcome),
      state.mail.worker.runners[number]? = some runner ∧ runner.submission = submission ∧
      runner.stage = .reporting outcome ∧ changed.Unasked submission.key ∧
        changed.mail.worker.tracker.updates.find? submission.key = some (TaskRecord.ended
          (.running submission.key state.mail.worker.tracker.address) outcome) := by
  cases commissioned with
  | ordered pending once fresh => exact absurd fresh inFlight
  | accepted unasked own =>
      cases touches_of_step? stepped with
      | still worker chronicle =>
          rw [worker] at absent
          exact absurd absent inFlight
      | transferred transfers steppedWorker chronicle =>
          rcases Worker.exists_finish_of_step? steppedWorker inFlight absent with ⟨final, effect, -⟩
          rw [← Worker.isTransfer_effect state.mail.worker, effect] at transfers
          cases transfers
      | undergone asks single happened =>
          rcases Option.map_eq_some_iff.mp happened with ⟨worker, steppedWorker, same⟩
          have remains := unasked.step spared stepped
          rw [← same] at absent ⊢
          rcases Worker.exists_finish_of_step? steppedWorker inFlight absent with
            ⟨final, effect, updates⟩
          rcases Worker.exists_report_of_effect effect (undeclared _ asks)
            (unasked.subject?_ne spared asks) with
            ⟨number, runner, outcome, record, rfl, found, mine, stage, unfinished, rfl⟩
          have handle := coherent.handle found (coherent.isOpen_of_reporting found stage)
          have accepted := own number (mine ▸ handle)
          rw [Worker.getElem?_submissions found] at accepted
          rw [(coherent.handle_of_unfinished unfinished).1] at updates
          exact ⟨number, runner, outcome, found, Option.some.inj accepted, stage, remains, updates⟩

end Commissioned

end Correspondence

end TaskAgent
