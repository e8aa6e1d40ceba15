import TaskAgent.Proofs.Master.Identity

/-!
# Orders of the master

The orders in an accepted answer are carried out from the first to the last, as the submissions
and cancellations that they come to (`Command.event?`). An order to register again has no part in
that: it only makes the reporter register once more after all of them, however many there are and
wherever they stand, and whatever comes of that registration leaves the worker alone.

This is what the reporter does with all orders at once, and what it does when events of the worker
fall between two of them (`Correspondence.run?_interleave`).
-/

namespace TaskAgent

variable {scratch : String} {worker : Worker} {commands : List Command}

theorem Worker.step?_of_event? {command : Command} {event : Event}
    (comes : command.event? scratch = some event) :
    worker.step? event = some (worker.obey scratch command) := by
  cases command with
  | run key config arguments =>
      cases comes
      rfl
  | cancel key =>
      cases comes
      rfl
  | register => cases comes

theorem Worker.obey_of_isRegister {command : Command} (register : command.isRegister = true) :
    worker.obey scratch command = worker ∧ command.event? scratch = none := by
  cases command with
  | run key config arguments => cases register
  | cancel key => cases register
  | register => exact ⟨rfl, rfl⟩

/-- Carrying out orders is submitting and canceling, one after the other. -/
theorem Worker.run?_commands (scratch : String) (worker : Worker) (commands : List Command) :
    worker.run? (commands.filterMap (Command.event? scratch)) =
      some (commands.foldl (Worker.obey scratch) worker) := by
  induction commands generalizing worker with
  | nil => rfl
  | cons command rest ih =>
      cases comes : command.event? scratch with
      | none =>
          have register : command.isRegister = true := by
            cases command <;> first | rfl | cases comes
          rw [List.filterMap_cons_none comes, List.foldl_cons, (obey_of_isRegister register).1]
          exact ih worker
      | some event =>
          rw [List.filterMap_cons_some comes, run?_cons_of_step? (step?_of_event? comes)]
          exact ih (worker.obey scratch command)

/-- Orders to register again may be left out. -/
theorem Worker.foldl_obey_filter (scratch : String) (worker : Worker) (commands : List Command) :
    (commands.filter fun command => !command.isRegister).foldl (Worker.obey scratch) worker =
      commands.foldl (Worker.obey scratch) worker := by
  induction commands generalizing worker with
  | nil => rfl
  | cons command rest ih =>
      cases register : command.isRegister with
      | true =>
          rw [List.filter_cons_of_neg (by simp [register]), List.foldl_cons,
            (obey_of_isRegister register).1]
          exact ih worker
      | false =>
          rw [List.filter_cons_of_pos (by simp [register]), List.foldl_cons, List.foldl_cons]
          exact ih (worker.obey scratch command)

namespace Reporter

variable {reporter : Reporter} {agent : AgentId} {records : List TaskRecord} {reply : Reply}
  {orders : Orders}

theorem obey_of_any (reporter : Reporter) (scratch : String) (worker : Worker)
    (again : orders.commands.any Command.isRegister = true) :
    let obeyed := orders.commands.foldl (Worker.obey scratch) worker
    reporter.obey scratch worker orders =
      ⟨⟨none, .registering false⟩, obeyed, .ask (.registration obeyed.registration)⟩ := by
  simp [obey, again, register]

theorem obey_of_not_any (reporter : Reporter) (scratch : String) (worker : Worker)
    (once : orders.commands.any Command.isRegister = false) :
    reporter.obey scratch worker orders =
      ⟨⟨reporter.agent, .idle⟩, orders.commands.foldl (Worker.obey scratch) worker,
        .done (.ok ())⟩ := by
  simp [obey, once, conclude]

theorem hear_of_rejected {known : Option AgentId} {error : MasterError}
    (refused : reply.registered = .error error) (scratch : String) (figures : MachineFigures)
    (worker : Worker) :
    hear ⟨known, .registering false⟩ scratch figures worker reply =
      ⟨⟨known, .idle⟩, worker, .done (.error error)⟩ := by
  simp [hear, enroll_of_error refused, conclude]

theorem hear_of_registered {known : Option AgentId} {agent : AgentId}
    (given : reply.registered = .ok agent) (scratch : String) (figures : MachineFigures)
    (worker : Worker) :
    hear ⟨known, .registering false⟩ scratch figures worker reply =
      ⟨⟨some agent, .idle⟩, worker, .done (.ok ())⟩ := by
  simp [hear, enroll_of_ok given, conclude]

/-- The orders to register again may be more or fewer and stand elsewhere. -/
theorem obey_congr {others : Orders} (reporter : Reporter) (scratch : String) (worker : Worker)
    (again : others.commands.any Command.isRegister = orders.commands.any Command.isRegister)
    (same : (others.commands.filter fun command => !command.isRegister) =
      orders.commands.filter fun command => !command.isRegister) :
    reporter.obey scratch worker others = reporter.obey scratch worker orders := by
  simp only [obey, again]
  rw [← Worker.foldl_obey_filter scratch worker others.commands, same,
    Worker.foldl_obey_filter]

end Reporter

namespace Correspondence

variable {state final : Correspondence} {moves : List Move}

/-- What happens to the worker while orders are carried out between events of its own. -/
def interleave (scratch : String) : List Command → List Move → List Event
  | commands, .work event :: rest => event :: interleave scratch commands rest
  | command :: commands, .obey :: rest =>
    (command.event? scratch).toList ++ interleave scratch commands rest
  | commands, _ :: rest => interleave scratch commands rest
  | _, [] => []

theorem run?_event?_toList (command : Command) (rest : List Event) :
    worker.run? ((command.event? scratch).toList ++ rest) =
      (worker.obey scratch command).run? rest := by
  cases command <;> rfl

/-- After the last order there is nothing more to carry out. -/
theorem run?_unordered (unpending : state.pending = none)
    (ran : state.run? scratch moves = some final)
    (within : ∀ move ∈ moves, move = .obey ∨ ∃ event, move = .work event) :
    state.mail.worker.run? (interleave scratch commands moves) = some final.mail.worker ∧
      state.journal scratch moves = [] ∧ final.pending = none := by
  induction moves generalizing state with
  | nil =>
      cases ran
      exact ⟨by simp [interleave, Worker.run?], rfl, unpending⟩
  | cons move rest ih =>
      rcases exists_of_run?_cons ran with ⟨changed, stepped, ran⟩
      have later := fun unpending => @ih changed unpending ran fun move member =>
        within move (List.mem_cons_of_mem _ member)
      rcases within move List.mem_cons_self with rfl | ⟨event, rfl⟩
      · simp [step?, obey?, unpending] at stepped
      · rw [journal_cons_of_step? stepped]
        cases exchange_of_step? stepped with
        | worked steppedWorker reporter pending again =>
            rcases later (pending.trans unpending) with ⟨ranWorker, silent, ended⟩
            refine ⟨?_, silent, ended⟩
            rw [interleave, Worker.run?_cons_of_step? steppedWorker]
            exact ranWorker

/-- Events of the worker may fall between the orders. The registration, if there is one, is asked
for after the last of them. -/
theorem run?_interleave (pending : state.pending = some commands)
    (ran : state.run? scratch moves = some final)
    (within : ∀ move ∈ moves, move = .obey ∨ ∃ event, move = .work event) :
    state.mail.worker.run? (interleave scratch commands moves) = some final.mail.worker ∧
      (state.journal scratch moves).filterMap Post.errand? =
        if final.pending.isNone && (state.again || commands.any Command.isRegister) then
          [.registration]
        else [] := by
  induction moves generalizing state commands with
  | nil =>
      cases ran
      simp [interleave, Worker.run?, journal, pending]
  | cons move rest ih =>
      rcases exists_of_run?_cons ran with ⟨changed, stepped, ranRest⟩
      have withinRest : ∀ move ∈ rest, move = .obey ∨ ∃ event, move = .work event :=
        fun move member => within move (List.mem_cons_of_mem _ member)
      rw [journal_cons_of_step? stepped]
      have exchange := exchange_of_step? stepped
      rcases within move List.mem_cons_self with rfl | ⟨event, rfl⟩
      · generalize state.posts scratch .obey = said at exchange ⊢
        cases exchange with
        | @obeyed command others before worker reporter left again =>
            cases pending.symm.trans before
            rcases ih left ranRest withinRest with ⟨ranWorker, asked⟩
            rw [worker] at ranWorker
            refine ⟨(run?_event?_toList command _).trans ranWorker, ?_⟩
            rw [again, Bool.or_assoc] at asked
            exact asked
        | repeats before again worker reporter left =>
            cases pending.symm.trans before
            rcases run?_unordered left ranRest withinRest with ⟨ranWorker, silent, ended⟩
            rw [worker] at ranWorker
            refine ⟨ranWorker, ?_⟩
            simp [silent, ended, again, Post.errand?, Request.errand]
        | finished before again worker reporter left =>
            cases pending.symm.trans before
            rcases run?_unordered left ranRest withinRest with ⟨ranWorker, silent, ended⟩
            rw [worker] at ranWorker
            refine ⟨ranWorker, ?_⟩
            simp [silent, again, Post.errand?]
      · cases exchange with
        | worked steppedWorker reporter left again =>
            rcases ih (left.trans pending) ranRest withinRest with ⟨ranWorker, asked⟩
            rw [again] at asked
            refine ⟨?_, asked⟩
            rw [interleave, Worker.run?_cons_of_step? steppedWorker]
            exact ranWorker

/-- The worker is left as the submissions and cancellations in the list leave it, from the first to
the last. Orders to register again, few or many and in any place, only make the reporter register
once after them, and a failure of that registration undoes nothing. -/
theorem orders_are_folded {reporter : Reporter} {agent : AgentId} {records : List TaskRecord}
    {reply : Reply} {orders : Orders} (phase : reporter.phase = .beating agent records)
    (accepted : reply.orders = .ok (some orders)) (scratch : String) (figures : MachineFigures)
    (worker : Worker) :
    let progress := reporter.hear scratch figures worker reply
    worker.run? (orders.commands.filterMap (Command.event? scratch)) = some progress.worker ∧
    (orders.commands.any Command.isRegister = false →
      progress.turn = .done (.ok ()) ∧ progress.reporter = ⟨reporter.agent, .idle⟩) ∧
    (orders.commands.any Command.isRegister = true →
      progress.turn = .ask (.registration progress.worker.registration) ∧
      progress.reporter = ⟨none, .registering false⟩ ∧
      ∀ laterFigures later answer,
        (∀ error, answer.registered = .error error →
          progress.reporter.hear scratch laterFigures later answer =
            ⟨⟨none, .idle⟩, later, .done (.error error)⟩) ∧
        ∀ number, answer.registered = .ok number →
          progress.reporter.hear scratch laterFigures later answer =
            ⟨⟨some number, .idle⟩, later, .done (.ok ())⟩) ∧
    (∀ other others, other.orders = .ok (some others) →
      others.commands.any Command.isRegister = orders.commands.any Command.isRegister →
      (others.commands.filter fun command => !command.isRegister) =
        (orders.commands.filter fun command => !command.isRegister) →
      reporter.hear scratch figures worker other = progress) ∧
    ∀ (state final : Correspondence) (moves : List Move), state.reporter = reporter →
      state.mail.worker = worker →
      (∀ move ∈ moves, move = .obey ∨ ∃ event, move = .work event) →
      state.run? scratch (.hear figures reply :: moves) = some final →
      worker.run? (interleave scratch orders.commands moves) = some final.mail.worker ∧
        (state.journal scratch (.hear figures reply :: moves)).filterMap Post.errand? =
          if final.pending.isNone && orders.commands.any Command.isRegister then [.registration]
          else [] := by
  intro progress
  have heard : progress = reporter.obey scratch worker orders :=
    Reporter.hear_of_accepted phase accepted ..
  refine ⟨?_, ?_, ?_, ?_, ?_⟩
  · rw [Worker.run?_commands, heard]
    unfold Reporter.obey
    dsimp only
    split
    · rfl
    · rfl
  · intro once
    rw [heard, Reporter.obey_of_not_any reporter scratch worker once]
    exact ⟨rfl, rfl⟩
  · intro again
    rw [heard, Reporter.obey_of_any reporter scratch worker again]
    refine ⟨rfl, rfl, ?_⟩
    intro laterFigures later answer
    constructor
    · intro error refused
      exact Reporter.hear_of_rejected refused scratch laterFigures later
    · intro number given
      exact Reporter.hear_of_registered given scratch laterFigures later
  · intro other others acceptedOther again same
    rw [heard, Reporter.hear_of_accepted phase acceptedOther]
    exact Reporter.obey_congr reporter scratch worker again same
  · rintro state final moves rfl rfl within ran
    rcases exists_of_run?_cons ran with ⟨changed, stepped, ranRest⟩
    have taken : changed = ⟨state.mail.answer true, { state.reporter with phase := .idle },
        some orders.commands, false⟩ := by
      simpa [step?, hear?, phase, accepted] using stepped.symm
    have quiet : state.posts scratch (.hear figures reply) = [.answered reply] := by
      simp [posts, heard?, turn?, phase, accepted]
    rw [journal_cons_of_step? stepped, quiet]
    subst taken
    exact run?_interleave rfl ranRest within

/-- A task is run on order, the reporter is to register again, the task is called off and run once
more, and the reporter is to register again. -/
def repeatedOrders : Reply :=
  let run := "[\"RUN_TASK\",1,2,[\"job\"],null]"
  .answered 200 ("[[" ++ run ++ ",[\"REGISTER\"],[\"CANCEL_TASK\",1,2]," ++ run ++
    ",[\"REGISTER\"]]]")

theorem orders_are_folded_repeatedOrders :
    let figures : MachineFigures :=
      ⟨.ofInt .single 0, 0, .ofInt .double 0, .ofInt .double 0, .ofInt .double 0⟩
    let worker := Worker.make (.ofSize 1) .empty ⟨"host", 1, 2⟩
    let progress := Reporter.hear ⟨some 7, .beating 7 []⟩ "scratch" figures worker repeatedOrders
    ∃ orders, repeatedOrders.orders = .ok (some orders) ∧
      orders.commands.map Command.isRegister = [false, true, false, false, true] ∧
      worker.run? (orders.commands.filterMap (Command.event? "scratch")) = some progress.worker ∧
      progress.reporter.hear "scratch" figures progress.worker .lost =
        ⟨⟨none, .idle⟩, progress.worker, .done (.error .lost)⟩ := by
  intro figures worker progress
  have kinds : repeatedOrders.orders.toOption.join.map
      (fun orders => orders.commands.map Command.isRegister) =
        some [false, true, false, false, true] := by decide +kernel
  rcases Option.map_eq_some_iff.mp kinds with ⟨orders, given, registers⟩
  have accepted : repeatedOrders.orders = .ok (some orders) := by
    cases answer : repeatedOrders.orders with
    | error error => simp [answer, Except.toOption] at given
    | ok known => simpa [answer, Except.toOption] using given
  have again : orders.commands.any Command.isRegister = true := by
    have some : (orders.commands.map Command.isRegister).any id = true := by
      rw [registers]
      rfl
    simpa using some
  have phase : (⟨some 7, .beating 7 []⟩ : Reporter).phase = .beating 7 [] := rfl
  rcases orders_are_folded phase accepted "scratch" figures worker with ⟨folds, -, repeats, -, -⟩
  refine ⟨orders, accepted, registers, folds, ?_⟩
  exact ((repeats again).2.2 figures progress.worker .lost).1 .lost rfl

end Correspondence

end TaskAgent
