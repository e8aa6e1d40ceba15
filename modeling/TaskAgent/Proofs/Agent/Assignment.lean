import TaskAgent.Proofs.Agent.Duty
import TaskAgent.Proofs.Master.Delivery
import TaskAgent.Proofs.Message.Arguments

/-!
# From the order to the report

A task that the master orders once stays what was ordered until its runner reports
(`Duty.Assigned`), and from then on its final record is delivered (`Duty.Reported`), whatever other
tasks do. For the job that gives its arguments back both ends are the same value: the one that is
written in the order is the one that is told in the record (`Duty.arguments_come_back`).
-/

namespace TaskAgent

theorem Event.subject?_ne_of_mover? {event : Event} {number : Nat}
    (mover : event.mover? = some number) (key : TaskKey) : event.subject? ≠ some key := by
  cases event with
  | submit submission => cases mover
  | cancel other => cases mover
  | _ => simp [subject?]

theorem Tracker.find?_unfinished_ne_none {tracker : Tracker} {key : TaskKey}
    (inFlight : tracker.isInFlight key = true) : tracker.unfinished.find? key ≠ none := by
  intro absent
  rw [isInFlight_eq_false_iff.mpr absent] at inFlight
  cases inFlight

namespace Duty

variable {duty changed final : Duty} {scratch : String} {move : Move} {moves : List Move}
  {key : TaskKey} {address : Address} {submission : Submission} {record : TaskRecord}

/-- A move that spares a task is at most one step of the correspondence that spares it too. -/
theorem spares_cases (spared : move.Spares key) (stepped : duty.step? scratch move = some changed) :
    changed.correspondence = duty.correspondence ∨
      ∃ turn, duty.correspondence.step? scratch turn = some changed.correspondence ∧
        turn.Spares key ∧
          (move.IsRegular → ∀ event, duty.correspondence.event? scratch turn = some event →
            event.isDeclaration = false) := by
  rcases correspondence_cases stepped with same | ⟨turn, steppedTurn, whose⟩
  · exact Or.inl same
  · refine Or.inr ⟨turn, steppedTurn, ?_⟩
    rcases whose with ⟨own, number, rfl, mover⟩ | rfl
    · refine ⟨Event.subject?_ne_of_mover? mover key, fun _ event asks => ?_⟩
      cases asks
      exact Event.isDeclaration_of_mover? mover
    · exact ⟨spared, fun proper event asks => (isRegular_of_event? proper asks).1⟩

theorem unclosed_of_step? (stepped : duty.step? scratch move = some changed)
    (unclosed : changed.worker.pool.closed = false) : duty.worker.pool.closed = false := by
  rcases worker_cases stepped with same | ⟨event, steppedWorker, -⟩
  · exact same ▸ unclosed
  · exact Worker.unclosed_of_step? steppedWorker unclosed

/-! ### Until the report -/

/-- The order waits to be carried out, or has been: what is in flight under the key, if anything, is
what was ordered. -/
structure Assigned (address : Address) (submission : Submission) (duty : Duty) : Prop where
  regular : duty.Regular address
  commissioned : duty.correspondence.Commissioned submission

/-- The final record of the task is delivered, and nothing asks for the task again. -/
structure Reported (count : Nat) (record : TaskRecord) (duty : Duty) : Prop where
  posted : duty.correspondence.Posted
  sound : duty.mail.Sound
  unasked : duty.correspondence.Unasked record.key
  absent : duty.worker.tracker.unfinished.find? record.key = none
  delivers : duty.mail.Delivers count record

namespace Assigned

/-- The task is assigned when the answer with its order is accepted. -/
theorem of_hear {figures : MachineFigures} {reply : Reply} {orders : Orders} {agent : AgentId}
    {records : List TaskRecord} (regular : duty.Regular address)
    (phase : duty.correspondence.reporter.phase = .beating agent records)
    (accepted : reply.orders = .ok (some orders))
    (once : orders.commands.filter
        (fun command => decide (command.subject? = some submission.key)) =
      [.run submission.key submission.config submission.arguments])
    (fresh : duty.worker.tracker.isInFlight submission.key = false)
    (heard : duty.step? scratch (.talk (.hear figures reply)) = some changed) :
    changed.Assigned address submission := by
  have proper : (Move.talk (.hear figures reply)).IsRegular := trivial
  refine ⟨regular.step proper heard, ?_⟩
  rcases exists_of_talk heard with ⟨correspondence, -, steppedTurn, rfl⟩
  exact .of_hear phase accepted once (Tracker.isInFlight_eq_false_iff.mp fresh) steppedTurn

theorem step (assigned : duty.Assigned address submission) (proper : move.IsRegular)
    (spared : move.Spares submission.key)
    (stepped : duty.step? submission.scratch move = some changed) :
    changed.Assigned address submission := by
  refine ⟨assigned.regular.step proper stepped, ?_⟩
  rcases spares_cases spared stepped with same | ⟨turn, steppedTurn, sparedTurn, -⟩
  · rw [same]
    exact assigned.commissioned
  · exact assigned.commissioned.step assigned.regular.posted sparedTurn steppedTurn

theorem run (assigned : duty.Assigned address submission) (proper : ∀ move ∈ moves, move.IsRegular)
    (spared : ∀ move ∈ moves, move.Spares submission.key)
    (ran : duty.run? submission.scratch moves = some final) : final.Assigned address submission :=
  keeps_of_run? ran assigned fun move member _ _ stepped before =>
    before.step (proper move member) (spared move member) stepped

/-- In flight is only what was ordered. -/
theorem exists_runner (assigned : duty.Assigned address submission)
    (inFlight : duty.worker.tracker.isInFlight submission.key = true) :
    ∃ (number : Nat) (runner : Runner), duty.worker.runners[number]? = some runner ∧
      runner.submission = submission ∧ runner.IsOpen := by
  rcases Tracker.isInFlight_eq_true_iff.mp inFlight with ⟨record, unfinished⟩
  rcases assigned.regular.coherent.handle_of_unfinished unfinished with ⟨-, number, handle⟩
  rcases assigned.regular.coherent.handle_iff.mp handle with ⟨runner, found, -, isOpen⟩
  refine ⟨number, runner, found, ?_, isOpen⟩
  cases assigned.commissioned with
  | ordered pending once absent => exact absurd absent (Tracker.find?_unfinished_ne_none inFlight)
  | accepted unasked own =>
      have accepted := own number handle
      exact Option.some.inj ((Worker.getElem?_submissions found).symm.trans accepted)

/-- The runner of a task of the job `echo` can move, unless it waits and no slot is free. -/
theorem exists_mover (assigned : duty.Assigned address submission)
    (named : submission.config.name = "echo")
    (inFlight : duty.worker.tracker.isInFlight submission.key = true)
    (unclosed : duty.worker.pool.closed = false) :
    ∃ (number : Nat) (runner : Runner), duty.worker.runners[number]? = some runner ∧
      runner.submission = submission ∧
        ((runner.isWaiting = true ∧ duty.worker.pool.available = 0) ∨
          ∃ changed, duty.step? submission.scratch (.run number) = some changed) := by
  rcases assigned.exists_runner inFlight with ⟨number, runner, found, rfl, isOpen⟩
  refine ⟨number, runner, found, rfl, ?_⟩
  cases moves : duty.agent.move? number with
  | some moved => exact Or.inr (exists_run_of_move? runner.submission.scratch moves)
  | none =>
      have echoes := assigned.regular.echoing.echoes unclosed found named
      exact Or.inl (echoes.of_move?_eq_none found isOpen unclosed moves)

/-- With the end of a task of the job `echo` its arguments are reported. -/
theorem reported (assigned : duty.Assigned address submission) (proper : move.IsRegular)
    (spared : move.Spares submission.key) (named : submission.config.name = "echo")
    (stepped : duty.step? submission.scratch move = some changed)
    (inFlight : duty.worker.tracker.isInFlight submission.key = true)
    (ended : changed.worker.tracker.isInFlight submission.key = false)
    (unclosed : changed.worker.pool.closed = false) :
    changed.Reported changed.mail.shipments.length
      ⟨submission.key, .completed, some submission.arguments, none, address⟩ := by
  have absent := Tracker.isInFlight_eq_false_iff.mp ended
  have present := Tracker.find?_unfinished_ne_none inFlight
  have regular := assigned.regular.step proper stepped
  rcases spares_cases spared stepped with same | ⟨turn, steppedTurn, sparedTurn, undeclared⟩
  · rw [worker, mail, same] at absent
    exact absurd absent present
  · rcases assigned.commissioned.exists_report assigned.regular.coherent sparedTurn
      (undeclared proper) steppedTurn present absent with
      ⟨number, runner, outcome, found, rfl, stage, unasked, updates⟩
    have before := unclosed_of_step? stepped unclosed
    have echoes := assigned.regular.echoing.echoes before found named
    simp only [Agent.Echoes, stage] at echoes
    subst echoes
    have reachable : duty.correspondence.mail.worker.tracker.address = address :=
      assigned.regular.reachable
    rw [reachable] at updates
    exact ⟨regular.posted, regular.sound, unasked, absent, Mail.delivers_of_changed updates⟩

end Assigned

/-! ### After the report -/

namespace Reported

variable {count : Nat}

theorem step (reported : duty.Reported count record) (spared : move.Spares record.key)
    (stepped : duty.step? scratch move = some changed) : changed.Reported count record := by
  rcases spares_cases spared stepped with same | ⟨turn, steppedTurn, sparedTurn, -⟩
  · rcases reported with ⟨posted, sound, unasked, absent, delivers⟩
    simp only [worker, mail, ← same] at posted sound unasked absent delivers
    exact ⟨posted, sound, unasked, absent, delivers⟩
  · rcases Correspondence.follows_step? reported.posted steppedTurn with ⟨course, posted⟩
    have keyed := reported.sound.keyed
    rcases reported.unasked.absent_of_step? keyed sparedTurn steppedTurn reported.absent with
      ⟨absent, unmade⟩
    exact ⟨posted, reported.sound.course course, reported.unasked.step sparedTurn steppedTurn,
      absent, reported.delivers.course keyed course unmade⟩

theorem run (reported : duty.Reported count record)
    (spared : ∀ move ∈ moves, move.Spares record.key)
    (ran : duty.run? scratch moves = some final) : final.Reported count record :=
  keeps_of_run? ran reported fun move member _ _ stepped before =>
    before.step (spared move member) stepped

end Reported

/-! ### Order and report -/

/-- The task leaves the flight in the second state while the pool is open, with a move that does not
concern it from outside. -/
structure Ends (scratch : String) (key : TaskKey) (duty changed : Duty) : Prop where
  moved : ∃ move : Move, move.IsRegular ∧ move.Spares key ∧ duty.step? scratch move = some changed
  before : duty.worker.tracker.isInFlight key = true
  after : changed.worker.tracker.isInFlight key = false
  unclosed : changed.worker.pool.closed = false

/-- The first heartbeat that was sent after a moment and accepted. -/
def firstAccepted? (moment final : Duty) : Option Shipment :=
  (final.mail.shipments.drop moment.mail.shipments.length).find? Shipment.arrived

/-- The master accepts a heartbeat and orders, among other things and once only, to run a task of
the job `echo` that is not in flight; then anything may happen that does not ask for the task again
or call it off. What is written as its arguments stands for a value, `null` if nothing is. While it
is in flight and the pool is open, its runner can move or waits for a slot. When it has run, the
first heartbeat after that to be accepted has exactly one record of the task on board, completed and
without an error. Its result is that value, also as it is read off the text of the record. -/
theorem arguments_come_back {pool : Pool} {figures machine : MachineFigures} {files : FileTree}
    {earlier middle : List Move} {asked present : Duty} {agent : AgentId}
    {records : List TaskRecord} {reply : Reply} {orders : Orders} {value : Json}
    (reached : (start pool .builtin address figures files).run? scratch earlier = some asked)
    (waits : asked.correspondence.reporter.phase = .beating agent records)
    (accepted : reply.orders = .ok (some orders))
    (once : orders.commands.filter (fun command => decide (command.subject? = some key)) =
      [.run key ⟨"echo"⟩ value])
    (fresh : asked.worker.tracker.isInFlight key = false)
    (ran : asked.run? scratch (.talk (.hear machine reply) :: middle) = some present)
    (regular : ∀ move ∈ earlier ++ middle, move.IsRegular)
    (spared : ∀ move ∈ middle, move.Spares key)
    (integral : value.IsIntegral) :
    (∃ text ∈ reply.orderTexts,
      Command.read? (Json.greatestNesting - 2) text = some (.run key ⟨"echo"⟩ value) ∧
        Command.arguments? text = some value) ∧
    (present.worker.tracker.isInFlight key = true → present.worker.pool.closed = false →
      ∃ (number : Nat) (runner : Runner), present.worker.runners[number]? = some runner ∧
        runner.submission = ⟨key, ⟨"echo"⟩, value, scratch⟩ ∧
          ((runner.isWaiting = true ∧ present.worker.pool.available = 0) ∨
            ∃ changed, present.step? scratch (.run number) = some changed)) ∧
    ∀ (ended final : Duty) (later : List Move) (shipment : Shipment),
      present.Ends scratch key ended → ended.run? scratch later = some final →
        (∀ move ∈ later, move.Spares key) → ended.firstAccepted? final = some shipment →
          ∃ record, shipment.about key = [record] ∧
            record = ⟨key, .completed, some value, none, address⟩ ∧
              (Json.read? (Json.render record.toJson).toList).bind TaskRecord.result? =
                some value := by
  have listed : .run key ⟨"echo"⟩ value ∈ orders.commands :=
    List.mem_of_mem_filter (once ▸ List.mem_cons_self)
  rcases Reply.exists_text_of_run accepted listed with ⟨text, inBody, reads, decodes⟩
  rcases List.forall_mem_append.mp regular with ⟨regularEarlier, regularMiddle⟩
  have atHearing := (regular_start pool address figures files).run regularEarlier reached
  rcases exists_of_run?_cons ran with ⟨heard, steppedHear, ranMiddle⟩
  have assigned : present.Assigned address ⟨key, ⟨"echo"⟩, value, scratch⟩ :=
    (Assigned.of_hear atHearing waits accepted once fresh steppedHear).run regularMiddle spared
      ranMiddle
  refine ⟨⟨text, inBody, reads, decodes⟩, assigned.exists_mover rfl, ?_⟩
  rintro ended final later shipment ⟨⟨move, proper, sparedMove, stepped⟩, before, after, unclosed⟩
    followed sparedLater first
  have reported := assigned.reported proper sparedMove rfl stepped before after unclosed
  refine ⟨_, (reported.run sparedLater followed).delivers.brings.of_find? first, rfl, ?_⟩
  exact TaskRecord.result?_render rfl integral (Command.isWithin_of_arguments? decodes)

/-- An agent that has accepted an answer with orders. -/
def heed (duty : Duty) (orders : Orders) : Duty :=
  { duty with correspondence := ⟨duty.mail.answer true,
    { duty.correspondence.reporter with phase := .idle }, some orders.commands, false⟩ }

theorem run?_hear_of_accepted (figures : MachineFigures) {reply : Reply} {orders : Orders}
    {agent : AgentId} {records : List TaskRecord}
    (phase : duty.correspondence.reporter.phase = .beating agent records)
    (accepted : reply.orders = .ok (some orders)) :
    duty.run? scratch (.talk (.hear figures reply) :: moves) =
      (duty.heed orders).run? scratch moves := by
  have heard := Correspondence.step?_hear_of_accepted scratch figures phase accepted
  simp only [run?, step?, Correspondence.Move.isOwn, heard, Option.map_some]
  rfl

/-- An agent makes itself known and beats. -/
def introduction (figures : MachineFigures) : List Move :=
  [.talk (.beat figures), .talk (.hear figures (.answered 200 "[7]"))]

/-- A task of another job starts while the one that was ordered runs. -/
def besideAnother : List Move :=
  [.talk .obey, .talk .obey, .run 0,
    .talk (.work (.submit ⟨⟨1, 1⟩, ⟨"fail"⟩, .null, "scratch"⟩)), .run 0, .run 1, .run 0, .run 1,
    .run 0, .run 0]

/-- A heartbeat is lost while the task of the other job fails, and the next one arrives. -/
def lossAndArrival (figures : MachineFigures) : List Move :=
  [.talk (.beat figures), .run 1, .talk (.hear figures .lost), .run 1, .run 1,
    .talk (.beat figures), .talk (.hear figures (.answered 200 "[]"))]

theorem arguments_come_back_besideAnother :
    let figures : MachineFigures :=
      ⟨.ofInt .single 0, 0, .ofInt .double 0, .ofInt .double 0, .ofInt .double 0⟩
    let orders : Orders := ⟨[.run ⟨1, 2⟩ ⟨"echo"⟩ (.array [.integer 5, .array [.null]])]⟩
    ∃ (asked present ended final : Duty) (shipment : Shipment) (record : TaskRecord),
      (start (.ofSize 2) .builtin ⟨"host", 1, 2⟩ figures .initial).run? "scratch"
        (introduction figures) = some asked ∧
      asked.run? "scratch" (.talk (.hear figures (.ordering orders)) :: besideAnother) =
        some present ∧
      present.Ends "scratch" ⟨1, 2⟩ ended ∧
      ended.run? "scratch" (lossAndArrival figures) = some final ∧
      ended.firstAccepted? final = some shipment ∧ shipment.about ⟨1, 2⟩ = [record] ∧
      record.result = some (.array [.integer 5, .array [.null]]) := by
  intro figures orders
  have computed : ((start (.ofSize 2) .builtin ⟨"host", 1, 2⟩ figures .initial).run? "scratch"
      (introduction figures)).bind (fun asked =>
        ((asked.heed orders).run? "scratch" besideAnother).bind fun present =>
          (present.step? "scratch" (.run 0)).bind fun ended =>
            (ended.run? "scratch" (lossAndArrival figures)).bind fun final =>
              (ended.firstAccepted? final).map fun _ =>
                [asked.mail.underway.isSome, asked.worker.tracker.isInFlight ⟨1, 2⟩,
                  present.worker.tracker.isInFlight ⟨1, 2⟩,
                  ended.worker.tracker.isInFlight ⟨1, 2⟩, ended.worker.pool.closed]) =
        some [true, false, true, false, false] := by
    decide +kernel
  simp only [Option.bind_eq_some_iff, Option.map_eq_some_iff, List.cons.injEq] at computed
  rcases computed with ⟨asked, reached, present, heeded, ended, stepped, final, followed, shipment,
    first, underway, fresh, before, after, unclosed, -⟩
  have integral : Json.IsIntegral (.array [.integer 5, .array [.null]]) := by
    simp [Json.IsIntegral.integer]
  have isSorted : Json.IsSorted (.array [.integer 5, .array [.null]]) :=
    .array (by simp [Json.IsSorted.integer, Json.IsSorted.array, Json.IsSorted.null])
  have accepted : (Reply.ordering orders).orders = .ok (some orders) := by
    refine Reply.orders_ordering ?_ (by decide)
    simpa [orders] using Command.IsPlain.run ⟨1, 2⟩ ⟨"echo"⟩ integral isSorted
  have regular : ∀ move ∈ introduction figures ++ besideAnother, move.IsRegular := by
    simp [introduction, besideAnother, Move.IsRegular, Event.isDeclaration]
  have spared : ∀ move ∈ besideAnother, move.Spares ⟨1, 2⟩ := by
    simp [besideAnother, Move.Spares, Correspondence.Move.Spares, Event.subject?]
  have sparedLater : ∀ move ∈ lossAndArrival figures, move.Spares ⟨1, 2⟩ := by
    have nothing : (Reply.answered 200 "[]").orders = .ok (some ⟨[]⟩) := rfl
    have lost : Reply.lost.orders = .error .lost := rfl
    simp [lossAndArrival, Move.Spares, Correspondence.Move.Spares, nothing, lost]
  have atHearing := (regular_start (.ofSize 2) ⟨"host", 1, 2⟩ figures .initial).run
    (fun move member => regular move (List.mem_append_left _ member)) reached
  rcases Option.isSome_iff_exists.mp underway with ⟨sent, underway⟩
  rcases atHearing.posted.of_underway underway with ⟨agent, phase⟩
  have ran := (run?_hear_of_accepted figures phase accepted).trans heeded
  have ends : present.Ends "scratch" ⟨1, 2⟩ ended :=
    ⟨⟨.run 0, trivial, trivial, stepped⟩, before, after, unclosed⟩
  rcases arguments_come_back reached phase accepted rfl fresh ran regular spared integral with
    ⟨-, -, brings⟩
  rcases brings ended final _ shipment ends followed sparedLater first with ⟨record, about, rfl, -⟩
  exact ⟨asked, present, ended, final, shipment, _, reached, ran, ends, followed, first, about, rfl⟩

end Duty

end TaskAgent
