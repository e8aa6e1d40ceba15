import TaskAgent.Proofs.Master.Correspondence

/-!
# The journal of a reporter

What passes between a reporter and its master, and what comes of every call of the reporter, in
the order in which it happens. As the chronicle of a worker, the journal is no part of the state.

Each move adds to the journal what it hears and what the reporter says to it. All that a move can
come to is listed once (`Correspondence.Exchange`).
-/

namespace TaskAgent

/-- Something heard or said by a reporter. -/
inductive Post where
  /-- The reply to a registration. -/
  | registered (reply : Reply)
  /-- The reply to a heartbeat. -/
  | answered (reply : Reply)
  /-- A request is sent, or what the reporter was asked to do is done. -/
  | turn (turn : Turn)

namespace Correspondence

variable {state changed final : Correspondence} {scratch : String} {move : Move}
  {moves : List Move} {said : List Post}

/-- The reply that the reporter hears. -/
def heard? (state : Correspondence) : Move → Option Post
  | .hear _ reply =>
    match state.reporter.phase with
    | .idle => none
    | .registering _ => some (.registered reply)
    | .beating _ _ => some (.answered reply)
  | _ => none

/-- What the reporter comes to; orders are carried out before it comes to anything. -/
def turn? (scratch : String) (state : Correspondence) : Move → Option Turn
  | .work _ => none
  | .register => some (state.reporter.register false state.mail.worker).turn
  | .beat figures => some (state.reporter.beat figures state.mail.worker).turn
  | .hear figures reply =>
    match state.reporter.phase, reply.orders with
    | .beating _ _, .ok (some _) => none
    | _, _ => some (state.reporter.hear scratch figures state.mail.worker reply).turn
  | .obey =>
    match state.pending with
    | some [] =>
      if state.again then some (state.reporter.register false state.mail.worker).turn
      else some (.done (.ok ()))
    | _ => none

/-- What a move adds to the journal. -/
def posts (scratch : String) (state : Correspondence) (move : Move) : List Post :=
  (state.heard? move).toList ++ ((state.turn? scratch move).map .turn).toList

/-- Everything that is heard and said while the moves are made. -/
def journal (scratch : String) (state : Correspondence) : List Move → List Post
  | [] => []
  | move :: rest =>
    match state.step? scratch move with
    | some changed => state.posts scratch move ++ changed.journal scratch rest
    | none => []

theorem journal_cons_of_step? (stepped : state.step? scratch move = some changed)
    (rest : List Move) :
    state.journal scratch (move :: rest) =
      state.posts scratch move ++ changed.journal scratch rest := by
  rw [journal, stepped]

theorem exists_of_run?_cons {rest : List Move}
    (ran : state.run? scratch (move :: rest) = some final) :
    ∃ changed,
      state.step? scratch move = some changed ∧ changed.run? scratch rest = some final := by
  unfold run? at ran
  split at ran
  · next changed stepped => exact ⟨changed, stepped, ran⟩
  · cases ran

/-- What a move can come to: what is heard and said, and where it leaves the reporter. -/
inductive Exchange (scratch : String) (state changed : Correspondence) :
    Move → List Post → Prop where
  | worked {event : Event}
      (stepped : state.mail.worker.step? event = some changed.mail.worker)
      (reporter : changed.reporter = state.reporter) (pending : changed.pending = state.pending)
      (again : changed.again = state.again) : Exchange scratch state changed (.work event) []
  | registers (free : state.isFree = true)
      (reporter : changed.reporter = ⟨state.reporter.agent, .registering false⟩)
      (pending : changed.pending = none) :
      Exchange scratch state changed .register
        [.turn (.ask (.registration state.mail.worker.registration))]
  | introduces {figures : MachineFigures} (free : state.isFree = true)
      (unknown : state.reporter.agent = none)
      (reporter : changed.reporter = ⟨none, .registering true⟩)
      (pending : changed.pending = none) :
      Exchange scratch state changed (.beat figures)
        [.turn (.ask (.registration state.mail.worker.registration))]
  | beats {figures : MachineFigures} {message : Heartbeat} (free : state.isFree = true)
      (known : state.reporter.agent = some message.agent)
      (reporter : changed.reporter = ⟨some message.agent, .beating message.agent message.records⟩)
      (pending : changed.pending = none) :
      Exchange scratch state changed (.beat figures) [.turn (.ask (.heartbeat message))]
  | beatsLater {figures : MachineFigures} {reply : Reply} {message : Heartbeat}
      (phase : state.reporter.phase = .registering true)
      (given : reply.registered = .ok message.agent)
      (reporter : changed.reporter = ⟨some message.agent, .beating message.agent message.records⟩)
      (pending : changed.pending = state.pending) :
      Exchange scratch state changed (.hear figures reply)
        [.registered reply, .turn (.ask (.heartbeat message))]
  | introduced {figures : MachineFigures} {reply : Reply} {agent : AgentId}
      (phase : state.reporter.phase = .registering false) (given : reply.registered = .ok agent)
      (reporter : changed.reporter = ⟨some agent, .idle⟩)
      (pending : changed.pending = state.pending) :
      Exchange scratch state changed (.hear figures reply)
        [.registered reply, .turn (.done (.ok ()))]
  | rejected {figures : MachineFigures} {reply : Reply} {error : MasterError} {beats : Bool}
      (phase : state.reporter.phase = .registering beats)
      (refused : reply.registered = .error error)
      (reporter : changed.reporter = ⟨state.reporter.agent, .idle⟩)
      (pending : changed.pending = state.pending) :
      Exchange scratch state changed (.hear figures reply)
        [.registered reply, .turn (.done (.error error))]
  | accepted {figures : MachineFigures} {reply : Reply} {agent : AgentId}
      {records : List TaskRecord} {orders : Orders}
      (phase : state.reporter.phase = .beating agent records)
      (given : reply.orders = .ok (some orders))
      (reporter : changed.reporter = ⟨state.reporter.agent, .idle⟩)
      (pending : changed.pending = some orders.commands) (again : changed.again = false) :
      Exchange scratch state changed (.hear figures reply) [.answered reply]
  | disowned {figures : MachineFigures} {reply : Reply} {agent : AgentId}
      {records : List TaskRecord} (registration : Registration)
      (phase : state.reporter.phase = .beating agent records) (unknown : reply.orders = .ok none)
      (reporter : changed.reporter = ⟨none, .registering false⟩)
      (pending : changed.pending = state.pending) :
      Exchange scratch state changed (.hear figures reply)
        [.answered reply, .turn (.ask (.registration registration))]
  | failed {figures : MachineFigures} {reply : Reply} {error : MasterError} {agent : AgentId}
      {records : List TaskRecord} (phase : state.reporter.phase = .beating agent records)
      (refused : reply.orders = .error error)
      (reporter : changed.reporter = ⟨state.reporter.agent, .idle⟩)
      (pending : changed.pending = state.pending) :
      Exchange scratch state changed (.hear figures reply)
        [.answered reply, .turn (.done (.error error))]
  | obeyed {command : Command} {rest : List Command}
      (before : state.pending = some (command :: rest))
      (worker : changed.mail.worker = state.mail.worker.obey scratch command)
      (reporter : changed.reporter = state.reporter) (pending : changed.pending = some rest)
      (again : changed.again = (state.again || command.isRegister)) :
      Exchange scratch state changed .obey []
  | repeats (before : state.pending = some []) (again : state.again = true)
      (worker : changed.mail.worker = state.mail.worker)
      (reporter : changed.reporter = ⟨none, .registering false⟩)
      (pending : changed.pending = none) :
      Exchange scratch state changed .obey
        [.turn (.ask (.registration state.mail.worker.registration))]
  | finished (before : state.pending = some []) (again : state.again = false)
      (worker : changed.mail.worker = state.mail.worker)
      (reporter : changed.reporter = ⟨state.reporter.agent, .idle⟩)
      (pending : changed.pending = none) :
      Exchange scratch state changed .obey [.turn (.done (.ok ()))]

theorem isFree_eq_true_iff :
    state.isFree = true ↔ state.reporter.phase = .idle ∧ state.pending = none := by
  unfold isFree
  split
  · next phase => simp [phase]
  · next other =>
      refine iff_of_false (by simp) ?_
      rintro ⟨idle, -⟩
      exact other idle

theorem exchange_beat (figures : MachineFigures)
    (stepped : state.step? scratch (.beat figures) = some changed) :
    state.Exchange scratch changed (.beat figures) (state.posts scratch (.beat figures)) := by
  simp only [step?] at stepped
  split at stepped
  · next free =>
      rcases isFree_eq_true_iff.mp free with ⟨-, pending⟩
      cases stepped
      simp only [posts, heard?, turn?, Reporter.beat]
      split
      · next agent known =>
          refine .beats free known ?_ pending
          rw [← known]
          rfl
      · next unknown =>
          exact .introduces free unknown (by simp [proceed, Reporter.register, unknown]) pending
  · cases stepped

theorem exchange_hear (figures : MachineFigures) (reply : Reply)
    (stepped : state.step? scratch (.hear figures reply) = some changed) :
    state.Exchange scratch changed (.hear figures reply)
      (state.posts scratch (.hear figures reply)) := by
  simp only [step?, hear?] at stepped
  split at stepped
  · cases stepped
  · next beats phase =>
      cases stepped
      simp only [posts, heard?, turn?, phase, Reporter.hear, Reporter.enroll]
      cases given : reply.registered with
      | error error => exact .rejected phase given rfl rfl
      | ok agent =>
          cases beats with
          | true => exact .beatsLater phase given rfl rfl
          | false => exact .introduced phase given rfl rfl
  · next agent records phase =>
      simp only [posts, heard?, turn?, phase]
      split at stepped
      · next orders given =>
          cases stepped
          rw [given]
          exact .accepted phase given rfl rfl rfl
      · next refused =>
          cases stepped
          cases answer : reply.orders with
          | error error =>
              rw [Reporter.hear_of_error phase answer]
              exact .failed phase answer rfl rfl
          | ok orders =>
              cases orders with
              | some given => exact absurd answer (refused given)
              | none =>
                  rw [Reporter.hear_of_unknown phase answer]
                  exact .disowned _ phase answer rfl rfl

theorem exchange_obey (stepped : state.step? scratch .obey = some changed) :
    state.Exchange scratch changed .obey (state.posts scratch .obey) := by
  cases before : state.pending with
  | none => simp [step?, obey?, before] at stepped
  | some commands =>
      cases commands with
      | cons command rest =>
          rcases step?_obey scratch before with ⟨next, steppedNext, worker, reporter, left, again⟩
          cases stepped.symm.trans steppedNext
          have silent : state.posts scratch .obey = [] := by
            simp [posts, heard?, turn?, before]
          rw [silent]
          exact .obeyed before worker reporter left again
      | nil =>
          simp only [step?, obey?, before] at stepped
          cases again : state.again with
          | true =>
              simp only [again, if_true] at stepped
              cases stepped
              have spoken : state.posts scratch .obey =
                  [.turn (.ask (.registration state.mail.worker.registration))] := by
                simp [posts, heard?, turn?, before, again, Reporter.register]
              rw [spoken]
              exact .repeats before again rfl rfl rfl
          | false =>
              simp only [again, Bool.false_eq_true, if_false] at stepped
              cases stepped
              have spoken : state.posts scratch .obey = [.turn (.done (.ok ()))] := by
                simp [posts, heard?, turn?, before, again]
              rw [spoken]
              exact .finished before again rfl rfl rfl

/-- Every move comes to something in the list. -/
theorem exchange_of_step? (stepped : state.step? scratch move = some changed) :
    state.Exchange scratch changed move (state.posts scratch move) := by
  cases move with
  | work event =>
      simp only [step?] at stepped
      split at stepped
      · cases stepped
      · rcases Option.map_eq_some_iff.mp stepped with ⟨mail, happened, rfl⟩
        rcases Option.map_eq_some_iff.mp happened with ⟨worker, steppedWorker, rfl⟩
        exact .worked steppedWorker rfl rfl rfl
  | register =>
      simp only [step?] at stepped
      split at stepped
      · next free =>
          rcases isFree_eq_true_iff.mp free with ⟨-, pending⟩
          cases stepped
          exact .registers free rfl pending
      · cases stepped
  | beat figures => exact exchange_beat figures stepped
  | hear figures reply => exact exchange_hear figures reply stepped
  | obey => exact exchange_obey stepped

end Correspondence

end TaskAgent
