import TaskAgent.Proofs.Master.Mail
import TaskAgent.Proofs.Master.Reporter

/-!
# Correspondence with the master

A worker and its reporter move by turns, in any order: the worker by events of its own, the
reporter when it is asked to register or to beat, when a reply comes, and when it carries out the
next of the orders that it was given. Orders are carried out one at a time here, so that events
may fall between two of them; without such events this comes to what the reporter does with all of
them at once (`Correspondence.run?_hear`).

Whatever the master answers, no record is lost on the way and none is overtaken by an older one
(`Correspondence.no_record_is_lost`).
-/

namespace TaskAgent

/-- A worker with its mail, and its reporter. -/
structure Correspondence where
  mail : Mail
  reporter : Reporter
  /-- The orders of the last answer that are still to be carried out. -/
  pending : Option (List Command)
  /-- Whether one that was carried out was to register again. -/
  again : Bool

/-- A single step of a worker or of its reporter. -/
inductive Correspondence.Move where
  | work (event : Event)
  | register
  | beat (figures : MachineFigures)
  | hear (figures : MachineFigures) (reply : Reply)
  /-- The next order is carried out, or all of them have been. -/
  | obey

/-- What an order comes to; an order to register again is left for later. -/
def Command.event? (scratch : String) : Command → Option Event
  | run key config arguments => some (.submit ⟨key, config, arguments, scratch⟩)
  | cancel key => some (.cancel key)
  | register => none

namespace Correspondence

variable {state changed : Correspondence} {scratch : String} {move : Move} {moves : List Move}

/-- A worker without tasks and a reporter that the master does not know. -/
def start (pool : Pool) (registry : Registry) (address : Address) : Correspondence :=
  ⟨.make pool registry address, .new, none, false⟩

/-- Whether the reporter may be asked for something. -/
def isFree (state : Correspondence) : Bool :=
  match state.reporter.phase with
  | .idle => state.pending.isNone
  | _ => false

def proceed (state : Correspondence) (progress : Progress) : Correspondence :=
  { state with
    reporter := progress.reporter
    mail := { state.mail with
      worker := progress.worker
      underway :=
        match progress.turn with
        | .ask (.heartbeat message) => some ⟨message.records, state.mail.chronicle, false⟩
        | _ => none } }

def hear? (scratch : String) (state : Correspondence) (figures : MachineFigures)
    (reply : Reply) : Option Correspondence :=
  let progress := state.reporter.hear scratch figures state.mail.worker reply
  match state.reporter.phase with
  | .idle => none
  | .registering _ => some (state.proceed progress)
  | .beating _ _ =>
    match reply.orders with
    | .ok (some orders) =>
      some ⟨state.mail.answer true, { state.reporter with phase := .idle },
        some orders.commands, false⟩
    | _ => some ({ state with mail := state.mail.answer false }.proceed progress)

/-- The correspondence after the next order was carried out; the last order of all is to register
again. -/
def obey? (scratch : String) (state : Correspondence) : Option Correspondence :=
  match state.pending with
  | none => none
  | some (command :: rest) =>
    match command.event? scratch with
    | some event =>
      (state.mail.undergo? event).map fun mail => { state with mail, pending := some rest }
    | none => some { state with pending := some rest, again := true }
  | some [] =>
    let after := { state with pending := none }
    if state.again then
      some (after.proceed ({ state.reporter with agent := none }.register false state.mail.worker))
    else some (after.proceed (state.reporter.conclude state.mail.worker (.ok ())))

def step? (scratch : String) (state : Correspondence) : Move → Option Correspondence
  | .work event =>
    if event.isTransfer then none
    else (state.mail.undergo? event).map fun mail => { state with mail }
  | .register =>
    if state.isFree then some (state.proceed (state.reporter.register false state.mail.worker))
    else none
  | .beat figures =>
    if state.isFree then some (state.proceed (state.reporter.beat figures state.mail.worker))
    else none
  | .hear figures reply => state.hear? scratch figures reply
  | .obey => state.obey? scratch

def run? (scratch : String) (state : Correspondence) : List Move → Option Correspondence
  | [] => some state
  | move :: rest =>
    match state.step? scratch move with
    | some changed => changed.run? scratch rest
    | none => none

/-- The reporter waits for the reply to a heartbeat if there is one under way. -/
def Posted (state : Correspondence) : Prop :=
  match state.reporter.phase with
  | .idle => state.mail.underway = none
  | .registering _ => state.pending = none ∧ state.mail.underway = none
  | .beating _ records =>
    state.pending = none ∧
      ∃ shipment, state.mail.underway = some shipment ∧ shipment.records = records

theorem posted_start (pool : Pool) (registry : Registry) (address : Address) :
    (start pool registry address).Posted := rfl

theorem Posted.of_isFree (posted : state.Posted) (free : state.isFree = true) :
    state.mail.underway = none ∧ state.pending = none := by
  unfold Posted at posted
  unfold isFree at free
  split at free
  · next phase =>
      rw [phase] at posted
      exact ⟨posted, by simpa using free⟩
  · cases free

/-- Orders are carried out only while nothing is under way. -/
theorem Posted.of_pending (posted : state.Posted) {commands : List Command}
    (pending : state.pending = some commands) :
    state.reporter.phase = .idle ∧ state.mail.underway = none := by
  unfold Posted at posted
  split at posted
  · next phase => exact ⟨phase, posted⟩
  · rw [pending] at posted
    cases posted.1
  · rw [pending] at posted
    cases posted.1

theorem Posted.of_underway {shipment : Shipment} (posted : state.Posted)
    (underway : state.mail.underway = some shipment) :
    ∃ agent, state.reporter.phase = .beating agent shipment.records := by
  unfold Posted at posted
  split at posted
  · rw [underway] at posted
    cases posted
  · rw [underway] at posted
    cases posted.2
  · next agent records phase =>
      rcases posted with ⟨-, other, waits, rfl⟩
      cases underway.symm.trans waits
      exact ⟨agent, phase⟩

theorem Posted.of_idle (phase : state.reporter.phase = .idle) (free : state.mail.underway = none) :
    state.Posted := by
  rw [Posted, phase]
  exact free

theorem Posted.congr (posted : state.Posted) (reporter : changed.reporter = state.reporter)
    (pending : changed.pending = state.pending)
    (underway : changed.mail.underway = state.mail.underway) : changed.Posted := by
  unfold Posted
  rw [reporter, pending, underway]
  exact posted

/-- A move of the reporter that sends no heartbeat leaves nothing under way. -/
theorem mail_proceed {progress : Progress}
    (silent : ∀ message, progress.turn ≠ .ask (.heartbeat message)) :
    (state.proceed progress).mail =
      { state.mail with worker := progress.worker, underway := none } := by
  unfold proceed
  split
  · next message asked => exact absurd asked (silent message)
  · rfl

theorem posted_proceed {progress : Progress} (unpending : state.pending = none)
    (waits : progress.reporter.phase = .idle ∨
      ∃ beats, progress.reporter.phase = .registering beats)
    (silent : ∀ message, progress.turn ≠ .ask (.heartbeat message)) :
    (state.proceed progress).Posted := by
  have free : (state.proceed progress).mail.underway = none := by rw [mail_proceed silent]
  unfold Posted
  rcases waits with idle | ⟨beats, registering⟩
  · rw [show (state.proceed progress).reporter.phase = .idle from idle]
    exact free
  · rw [show (state.proceed progress).reporter.phase = .registering beats from registering]
    exact ⟨unpending, free⟩

/-- What a step does to the mail, and that it leaves the correspondence in order. -/
def Follows (state changed : Correspondence) : Prop :=
  state.mail.Course changed.mail ∧ changed.Posted

theorem follows_send (free : state.mail.underway = none) (unpending : state.pending = none)
    (reporter : Reporter) (figures : MachineFigures) (agent : AgentId) :
    state.Follows (state.proceed (reporter.send figures agent state.mail.worker)) :=
  ⟨.sent free, unpending, _, rfl, rfl⟩

theorem follows_register (free : state.mail.underway = none) (unpending : state.pending = none)
    (reporter : Reporter) (beats : Bool) :
    state.Follows (state.proceed (reporter.register beats state.mail.worker)) := by
  have silent : ∀ message,
      (reporter.register beats state.mail.worker).turn ≠ .ask (.heartbeat message) := by
    intro message same
    cases same
  refine ⟨?_, posted_proceed unpending (Or.inr ⟨beats, rfl⟩) silent⟩
  rw [mail_proceed silent, ← free]
  exact .still

theorem follows_conclude (free : state.mail.underway = none) (unpending : state.pending = none)
    (reporter : Reporter) (result : Except MasterError Unit) :
    state.Follows (state.proceed (reporter.conclude state.mail.worker result)) := by
  have silent : ∀ message,
      (reporter.conclude state.mail.worker result).turn ≠ .ask (.heartbeat message) := by
    intro message same
    cases same
  refine ⟨?_, posted_proceed unpending (Or.inl rfl) silent⟩
  rw [mail_proceed silent, ← free]
  exact .still

theorem follows_undergo? {event : Event} {mail : Mail} (posted : state.Posted)
    (single : event.isTransfer = false) (happened : state.mail.undergo? event = some mail) :
    state.Follows { state with mail } := by
  refine ⟨.undergone single happened, posted.congr rfl rfl ?_⟩
  rcases Option.map_eq_some_iff.mp happened with ⟨worker, -, rfl⟩
  rfl

theorem follows_beat (posted : state.Posted) (free : state.isFree = true)
    (figures : MachineFigures) :
    state.Follows (state.proceed (state.reporter.beat figures state.mail.worker)) := by
  rcases posted.of_isFree free with ⟨empty, unpending⟩
  unfold Reporter.beat
  split
  · exact follows_send empty unpending ..
  · exact follows_register empty unpending ..

/-- A heartbeat that failed gives its records back. -/
theorem follows_fail {shipment : Shipment} {progress : Progress} (unpending : state.pending = none)
    (underway : state.mail.underway = some shipment)
    (worker : progress.worker = state.mail.worker.restore shipment.records)
    (waits : progress.reporter.phase = .idle ∨
      ∃ beats, progress.reporter.phase = .registering beats)
    (silent : ∀ message, progress.turn ≠ .ask (.heartbeat message)) :
    state.Follows ({ state with mail := state.mail.answer false }.proceed progress) := by
  refine ⟨?_, posted_proceed unpending waits silent⟩
  rw [mail_proceed silent, worker]
  exact .failed underway

theorem follows_hear (posted : state.Posted) {figures : MachineFigures} {reply : Reply}
    (heard : state.hear? scratch figures reply = some changed) : state.Follows changed := by
  unfold Posted at posted
  unfold hear? at heard
  dsimp only at heard
  split at heard
  · cases heard
  · next beats phase =>
      rw [phase] at posted
      cases heard
      unfold Reporter.hear
      rw [phase]
      dsimp only
      split
      · split
        · exact follows_send posted.2 posted.1 ..
        · exact follows_conclude posted.2 posted.1 ..
      · exact follows_conclude posted.2 posted.1 ..
  · next agent records phase =>
      rw [phase] at posted
      rcases posted with ⟨unpending, shipment, underway, rfl⟩
      split at heard
      · cases heard
        exact ⟨.arrived underway, Posted.of_idle rfl rfl⟩
      · next refused =>
          cases heard
          cases answer : reply.orders with
          | error error =>
              rw [Reporter.hear_of_error phase answer]
              refine follows_fail unpending underway rfl (Or.inl rfl) ?_
              intro message same
              cases same
          | ok orders =>
              cases orders with
              | some given => exact absurd answer (refused given)
              | none =>
                  rw [Reporter.hear_of_unknown phase answer]
                  refine follows_fail unpending underway rfl (Or.inr ⟨false, rfl⟩) ?_
                  intro message same
                  cases same

theorem isTransfer_of_event? {command : Command} {event : Event}
    (comes : command.event? scratch = some event) : event.isTransfer = false := by
  cases command <;> cases comes <;> rfl

theorem follows_obey (posted : state.Posted) (obeyed : state.obey? scratch = some changed) :
    state.Follows changed := by
  unfold obey? at obeyed
  split at obeyed
  · cases obeyed
  · next command rest pending =>
      rcases posted.of_pending pending with ⟨phase, free⟩
      split at obeyed
      · next event comes =>
          rcases Option.map_eq_some_iff.mp obeyed with ⟨mail, happened, rfl⟩
          have single := isTransfer_of_event? comes
          rcases follows_undergo? posted single happened with ⟨course, follows⟩
          refine ⟨course, Posted.of_idle phase ?_⟩
          rcases Option.map_eq_some_iff.mp happened with ⟨worker, -, rfl⟩
          exact free
      · cases obeyed
        exact ⟨.still, Posted.of_idle phase free⟩
  · next pending =>
      rcases posted.of_pending pending with ⟨-, free⟩
      have emptied : ({ state with pending := none } : Correspondence).mail.underway = none := free
      dsimp only at obeyed
      split at obeyed
      · cases obeyed
        exact follows_register emptied rfl ..
      · cases obeyed
        exact follows_conclude emptied rfl ..

theorem follows_step? (posted : state.Posted) (stepped : state.step? scratch move = some changed) :
    state.Follows changed := by
  cases move with
  | work event =>
      simp only [step?] at stepped
      split at stepped
      · cases stepped
      · next single =>
          rcases Option.map_eq_some_iff.mp stepped with ⟨mail, happened, rfl⟩
          exact follows_undergo? posted (by simpa using single) happened
  | register =>
      simp only [step?] at stepped
      split at stepped
      · next free =>
          cases stepped
          rcases posted.of_isFree free with ⟨empty, unpending⟩
          exact follows_register empty unpending ..
      · cases stepped
  | beat figures =>
      simp only [step?] at stepped
      split at stepped
      · next free =>
          cases stepped
          exact follows_beat posted free figures
      · cases stepped
  | hear figures reply => exact follows_hear posted stepped
  | obey => exact follows_obey posted stepped

theorem run?_cons_of_step? (stepped : state.step? scratch move = some changed)
    (rest : List Move) : state.run? scratch (move :: rest) = changed.run? scratch rest := by
  rw [run?, stepped]

/-- An order that is carried out does to the worker what the worker does at an order. -/
theorem step?_obey (scratch : String) {command : Command} {rest : List Command}
    (pending : state.pending = some (command :: rest)) :
    ∃ changed, state.step? scratch .obey = some changed ∧
      changed.mail.worker = state.mail.worker.obey scratch command ∧
        changed.reporter = state.reporter ∧ changed.pending = some rest ∧
          changed.again = (state.again || command.isRegister) := by
  simp only [step?, obey?, pending]
  cases command with
  | run key config arguments => exact ⟨_, rfl, rfl, rfl, rfl, (Bool.or_false _).symm⟩
  | cancel key => exact ⟨_, rfl, rfl, rfl, rfl, (Bool.or_false _).symm⟩
  | register => exact ⟨_, rfl, rfl, rfl, rfl, (Bool.or_true _).symm⟩

theorem run?_obey (scratch : String) {commands : List Command}
    (pending : state.pending = some commands) :
    ∃ final, state.run? scratch (List.replicate (commands.length + 1) .obey) = some final ∧
      final.mail.worker = commands.foldl (Worker.obey scratch) state.mail.worker ∧
        final.pending = none ∧
          final.reporter =
            if state.again || commands.any Command.isRegister then ⟨none, .registering false⟩
            else ⟨state.reporter.agent, .idle⟩ := by
  induction commands generalizing state with
  | nil =>
      simp only [List.length_nil, List.any_nil, Bool.or_false]
      cases again : state.again with
      | true =>
          have stepped : state.step? scratch .obey = some ({ state with pending := none }.proceed
              ({ state.reporter with agent := none }.register false state.mail.worker)) := by
            simp only [step?, obey?, pending, again, if_true]
          exact ⟨_, run?_cons_of_step? stepped [], rfl, rfl, rfl⟩
      | false =>
          have stepped : state.step? scratch .obey = some ({ state with pending := none }.proceed
              (state.reporter.conclude state.mail.worker (.ok ()))) := by
            simp only [step?, obey?, pending, again, Bool.false_eq_true, if_false]
          exact ⟨_, run?_cons_of_step? stepped [], rfl, rfl, rfl⟩
  | cons command rest ih =>
      rcases step?_obey scratch pending with
        ⟨changed, stepped, worker, reporter, left, again⟩
      rcases ih left with ⟨final, ran, ended, empty, last⟩
      refine ⟨final, ?_, ?_, empty, ?_⟩
      · rw [List.length_cons, List.replicate_succ, run?_cons_of_step? stepped]
        exact ran
      · rw [ended, worker, List.foldl_cons]
      · rw [last, again, reporter, List.any_cons, Bool.or_assoc]

/-- Orders that are carried out one after the other, without anything in between, come to what the
reporter does with all of them at once. -/
theorem run?_hear {agent : AgentId} {records : List TaskRecord} {figures : MachineFigures}
    {reply : Reply} {orders : Orders} (phase : state.reporter.phase = .beating agent records)
    (accepted : reply.orders = .ok (some orders)) :
    let progress := state.reporter.hear scratch figures state.mail.worker reply
    ∃ final, state.run? scratch
        (.hear figures reply :: List.replicate (orders.commands.length + 1) .obey) =
          some final ∧
      final.mail.worker = progress.worker ∧ final.reporter = progress.reporter ∧
        final.pending = none := by
  intro progress
  have stepped : state.step? scratch (.hear figures reply) =
      some ⟨state.mail.answer true, { state.reporter with phase := .idle },
        some orders.commands, false⟩ := by
    simp only [step?, hear?, phase, accepted]
  have heard : progress = state.reporter.obey scratch state.mail.worker orders :=
    Reporter.hear_of_accepted phase accepted ..
  have given : (⟨state.mail.answer true, { state.reporter with phase := .idle },
      some orders.commands, false⟩ : Correspondence).pending = some orders.commands := rfl
  rcases run?_obey scratch given with ⟨final, ran, worker, empty, reporter⟩
  refine ⟨final, ?_, ?_, ?_, empty⟩
  · rw [run?_cons_of_step? stepped]
    exact ran
  · rw [worker, heard, Reporter.obey]
    dsimp only
    split
    · rfl
    · rfl
  · rw [reporter, heard, Reporter.obey, Bool.false_or]
    dsimp only
    split
    · rfl
    · rfl

/-- The mail stays sound through every run. -/
theorem sound_of_run? (ran : state.run? scratch moves = some changed) (posted : state.Posted)
    (sound : state.mail.Sound) : changed.mail.Sound ∧ changed.Posted := by
  induction moves generalizing state with
  | nil =>
      cases ran
      exact ⟨sound, posted⟩
  | cons move rest ih =>
      unfold run? at ran
      split at ran
      · next middle stepped =>
          rcases follows_step? posted stepped with ⟨course, follows⟩
          exact ih ran follows (sound.course course)
      · cases ran

/-- At all times, the newest record of every task that was submitted is among the changed ones,
in the heartbeat under way, or in one that was answered with orders. Heartbeats carry the last
records of histories that only grow from one to the next, and a record that has arrived is not
sent again. -/
theorem no_record_is_lost {pool : Pool} {registry : Registry} {address : Address}
    (ran : (start pool registry address).run? scratch moves = some state) :
    (∀ key ∈ state.mail.submitted, ∃ record, state.mail.chronicle.newest? key = some record ∧
      (state.mail.worker.tracker.updates.find? key = some record ∨
        (∃ shipment agent, state.mail.underway = some shipment ∧
          state.reporter.phase = .beating agent shipment.records ∧
            shipment.Carries state.mail.chronicle record) ∨
        ∃ shipment ∈ state.mail.answered, shipment.arrived = true ∧
          shipment.Carries state.mail.chronicle record)) ∧
    (∀ shipment ∈ state.mail.shipments, ∀ record ∈ shipment.records,
      (shipment.past.history record.key).getLast? = some record ∧
        shipment.past.history record.key <+: state.mail.chronicle.history record.key) ∧
    state.mail.shipments.Pairwise fun earlier later =>
      ∀ record ∈ earlier.records, ∀ other ∈ later.records, other.key = record.key →
        earlier.past.history record.key <+: later.past.history record.key ∧
          (earlier.arrived = true →
            earlier.past.history record.key ≠ later.past.history record.key) := by
  have started := posted_start pool registry address
  rcases sound_of_run? ran started (Mail.sound_make pool registry address) with ⟨sound, posted⟩
  refine ⟨?_, ?_, ?_⟩
  · intro key member
    rcases sound.known key member with ⟨record, newest⟩
    refine ⟨record, newest, ?_⟩
    rcases sound.kept newest with changed | ⟨shipment, underway, carries⟩ | arrived
    · exact Or.inl changed
    · rcases posted.of_underway underway with ⟨agent, phase⟩
      exact Or.inr (Or.inl ⟨shipment, agent, underway, phase, carries⟩)
    · exact Or.inr (Or.inr arrived)
  · intro shipment member record aboard
    exact ⟨sound.newest shipment member record aboard,
      Chronicle.prefix_history (sound.past shipment member) record.key⟩
  · refine sound.ordered.imp ?_
    intro earlier later precedes record aboard other aboardLater same
    exact ⟨Chronicle.prefix_history precedes.past record.key,
      fun arrived => precedes.renewed arrived record aboard other aboardLater same⟩

/-- A task is called off while the heartbeat with its acceptance is on the way to be lost, and is
submitted again before the next heartbeat, which arrives. -/
def lostBeat (figures : MachineFigures) : List Move :=
  let task : Submission := ⟨⟨1, 2⟩, ⟨"job"⟩, .null, "scratch"⟩
  [.work (.submit task), .beat figures, .hear figures (.answered 200 "[7]"),
    .work (.cancel task.key), .hear figures .lost, .work (.submit task), .beat figures,
    .hear figures (.answered 200 "[]"), .obey, .beat figures]

theorem no_record_is_lost_lostBeat :
    ∃ state, (start (.ofSize 1) .empty ⟨"host", 1, 2⟩).run? "scratch" (lostBeat
        ⟨.ofInt .single 0, 0, .ofInt .double 0, .ofInt .double 0, .ofInt .double 0⟩) = some state ∧
      state.mail.shipments.length = 3 ∧
      (∃ record, state.mail.chronicle.newest? ⟨1, 2⟩ = some record) ∧
      ∀ shipment ∈ state.mail.shipments, ∀ record ∈ shipment.records,
        (shipment.past.history record.key).getLast? = some record := by
  have counted : ((start (.ofSize 1) .empty ⟨"host", 1, 2⟩).run? "scratch" (lostBeat
      ⟨.ofInt .single 0, 0, .ofInt .double 0, .ofInt .double 0, .ofInt .double 0⟩)).map
        (fun state => (state.mail.shipments.length, state.mail.submitted)) =
          some (3, [⟨1, 2⟩, ⟨1, 2⟩]) := rfl
  rcases Option.map_eq_some_iff.mp counted with ⟨state, ran, counts⟩
  rcases Prod.mk.inj counts with ⟨three, submitted⟩
  rcases no_record_is_lost ran with ⟨kept, newest, -⟩
  rcases kept ⟨1, 2⟩ (submitted ▸ List.mem_cons_self) with ⟨record, known, -⟩
  exact ⟨state, ran, three, ⟨record, known⟩,
    fun shipment sent record aboard => (newest shipment sent record aboard).1⟩

end Correspondence

end TaskAgent
