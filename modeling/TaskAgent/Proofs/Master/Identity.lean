import TaskAgent.Proofs.Master.Journal

/-!
# The number of an agent

The master gives an agent its number when it registers. The journal tells at any time which number
the agent has (`Post.identify`): that of its last registration, unless the master has disowned it
since, by the reply to a heartbeat that does not know it or that orders it to register again. The
reporter may still hold the old number while it carries out the orders, but it sends nothing then,
so every heartbeat goes out under the number that the journal tells (`Correspondence.Knows`).

A call of the reporter sends few requests, in one order only
(`Correspondence.errands_prefix_outstanding`).
-/

namespace TaskAgent

/-- The reply takes the number of the agent away. -/
def Reply.disowns (reply : Reply) : Bool :=
  match reply.orders with
  | .ok none => true
  | .ok (some orders) => orders.commands.any Command.isRegister
  | .error _ => false

/-- What a request is for. -/
inductive Errand where
  | registration
  | heartbeat
deriving DecidableEq

def Request.errand : Request → Errand
  | registration _ => .registration
  | heartbeat _ => .heartbeat

namespace Post

/-- The number that a registration gives. -/
def given? : Post → Option AgentId
  | registered reply =>
    match reply.registered with
    | .ok agent => some agent
    | .error _ => none
  | _ => none

/-- The number that the agent has after a post. -/
def identify (known : Option AgentId) : Post → Option AgentId
  | registered reply =>
    match reply.registered with
    | .ok agent => some agent
    | .error _ => known
  | answered reply => if reply.disowns then none else known
  | turn _ => known

def errand? : Post → Option Errand
  | turn (.ask request) => some request.errand
  | _ => none

/-- A post gives a number, takes it away or leaves it. -/
theorem identify_cases (known : Option AgentId) (post : Post) :
    post.identify known = post.given?.or known ∨ post.identify known = none := by
  cases post with
  | registered reply =>
      simp only [identify, given?]
      cases reply.registered <;> simp
  | answered reply =>
      simp only [identify, given?, Option.none_or]
      cases reply.disowns <;> simp
  | turn turn => exact Or.inl rfl

end Post

/-- The number that the agent has after the posts. -/
def identity (known : Option AgentId) (posts : List Post) : Option AgentId :=
  posts.foldl Post.identify known

theorem identity_append (known : Option AgentId) (posts more : List Post) :
    identity known (posts ++ more) = identity (identity known posts) more :=
  List.foldl_append

/-- The agent has the number of its last registration, if it has one. -/
theorem last_given_of_identity {known : Option AgentId} {posts : List Post} {agent : AgentId}
    (has : identity known posts = some agent) :
    (posts.filterMap Post.given?).getLast?.or known = some agent := by
  induction posts generalizing known with
  | nil => simpa [identity] using has
  | cons post rest ih =>
      have later := ih has
      have split : ((post :: rest).filterMap Post.given?).getLast? =
          (rest.filterMap Post.given?).getLast?.or post.given? := by
        cases given : post.given? with
        | none => simp [given]
        | some number => simp [given, List.getLast?_cons]
      rw [split, Option.or_assoc]
      rcases post.identify_cases known with keeps | takes
      · rwa [keeps] at later
      · rw [takes, Option.or_none] at later
        rw [later]
        rfl

/-- Every heartbeat goes out under the number that the agent has. -/
def IsIdentified (known : Option AgentId) : List Post → Prop
  | [] => True
  | post :: rest =>
    (∀ message, post = .turn (.ask (.heartbeat message)) → known = some message.agent) ∧
      IsIdentified (post.identify known) rest

theorem isIdentified_append {known : Option AgentId} {posts more : List Post} :
    IsIdentified known (posts ++ more) ↔
      IsIdentified known posts ∧ IsIdentified (identity known posts) more := by
  induction posts generalizing known with
  | nil => simp [IsIdentified, identity]
  | cons post rest ih =>
      rw [List.cons_append, IsIdentified, IsIdentified, ih, and_assoc]
      rfl

namespace Correspondence

variable {state changed final : Correspondence} {scratch : String} {move : Move}
  {moves : List Move} {known : Option AgentId} {said : List Post}

/-- The number that the reporter holds is the right one, unless it still has orders to register
again. -/
structure Knows (state : Correspondence) (known : Option AgentId) : Prop where
  held : state.pending = none → state.reporter.agent = known
  ordered : ∀ commands, state.pending = some commands → state.reporter.phase = .idle ∧
    known = if state.again || commands.any Command.isRegister then none else state.reporter.agent

theorem knows_start (pool : Pool) (registry : Registry) (address : Address) :
    (start pool registry address).Knows none := by
  constructor
  · intro _
    rfl
  · intro commands pending
    cases pending

theorem Knows.of_idle (unpending : state.pending = none) (held : state.reporter.agent = known) :
    state.Knows known := by
  constructor
  · intro _
    exact held
  · intro commands pending
    rw [unpending] at pending
    cases pending

/-- Nothing is pending while a reply is waited for. -/
theorem Knows.unpending (knows : state.Knows known) (waits : state.reporter.phase ≠ .idle) :
    state.pending = none := by
  cases pending : state.pending with
  | none => rfl
  | some commands => exact absurd (knows.ordered commands pending).1 waits

theorem Knows.exchange (knows : state.Knows known)
    (exchange : state.Exchange scratch changed move said) :
    IsIdentified known said ∧ changed.Knows (identity known said) := by
  cases exchange with
  | worked stepped reporter pending again =>
      refine ⟨trivial, ?_, ?_⟩
      · rw [pending, reporter]
        exact knows.held
      · rw [pending, reporter, again]
        exact knows.ordered
  | registers free reporter pending =>
      have held := knows.held (isFree_eq_true_iff.mp free).2
      exact ⟨⟨by simp, trivial⟩, .of_idle pending (by rw [reporter]; exact held)⟩
  | introduces free unknown reporter pending =>
      have held := knows.held (isFree_eq_true_iff.mp free).2
      rw [unknown] at held
      exact ⟨⟨by simp, trivial⟩, .of_idle pending (by rw [reporter]; exact held)⟩
  | beats free has reporter pending =>
      have held := knows.held (isFree_eq_true_iff.mp free).2
      rw [has] at held
      exact ⟨⟨by simp [← held], trivial⟩, .of_idle pending (by rw [reporter]; exact held)⟩
  | @beatsLater _ reply message phase given reporter pending =>
      have gives : Post.identify known (.registered reply) = some message.agent := by
        simp [Post.identify, given]
      have unpending := knows.unpending (by simp [phase])
      exact ⟨⟨by simp, by simp [gives], trivial⟩,
        .of_idle (pending.trans unpending) (by rw [reporter]; exact gives.symm)⟩
  | @introduced _ reply agent phase given reporter pending =>
      have gives : Post.identify known (.registered reply) = some agent := by
        simp [Post.identify, given]
      have unpending := knows.unpending (by simp [phase])
      exact ⟨⟨by simp, by simp, trivial⟩,
        .of_idle (pending.trans unpending) (by rw [reporter]; exact gives.symm)⟩
  | @rejected _ reply error beats phase refused reporter pending =>
      have keeps : Post.identify known (.registered reply) = known := by
        simp [Post.identify, refused]
      have unpending := knows.unpending (by simp [phase])
      exact ⟨⟨by simp, by simp, trivial⟩, .of_idle (pending.trans unpending)
        (by rw [reporter]; exact (knows.held unpending).trans keeps.symm)⟩
  | @accepted _ reply agent records orders phase given reporter pending again =>
      have held := knows.held (knows.unpending (by simp [phase]))
      refine ⟨⟨by simp, trivial⟩, ?_, ?_⟩
      · rw [pending]
        intro none
        cases none
      · rw [pending, reporter, again, held]
        rintro commands ⟨⟩
        exact ⟨rfl, by simp [identity, Post.identify, Reply.disowns, given]⟩
  | @disowned _ reply agent records registration phase unknown reporter pending =>
      have takes : Post.identify known (.answered reply) = none := by
        simp [Post.identify, Reply.disowns, unknown]
      have unpending := knows.unpending (by simp [phase])
      exact ⟨⟨by simp, by simp, trivial⟩,
        .of_idle (pending.trans unpending) (by rw [reporter]; exact takes.symm)⟩
  | @failed _ reply error agent records phase refused reporter pending =>
      have keeps : Post.identify known (.answered reply) = known := by
        simp [Post.identify, Reply.disowns, refused]
      have unpending := knows.unpending (by simp [phase])
      exact ⟨⟨by simp, by simp, trivial⟩, .of_idle (pending.trans unpending)
        (by rw [reporter]; exact (knows.held unpending).trans keeps.symm)⟩
  | obeyed before worker reporter pending again =>
      rcases knows.ordered _ before with ⟨idle, has⟩
      refine ⟨trivial, ?_, ?_⟩
      · rw [pending]
        intro none
        cases none
      · rw [pending, reporter, again]
        rintro commands ⟨⟩
        refine ⟨idle, ?_⟩
        rw [List.any_cons, ← Bool.or_assoc] at has
        exact has
  | repeats before again worker reporter pending =>
      rcases knows.ordered _ before with ⟨-, has⟩
      rw [again, Bool.true_or, if_pos rfl] at has
      exact ⟨⟨by simp, trivial⟩, .of_idle pending (by rw [reporter]; exact has.symm)⟩
  | finished before again worker reporter pending =>
      rcases knows.ordered _ before with ⟨-, has⟩
      rw [again, List.any_nil, Bool.or_self, if_neg Bool.false_ne_true] at has
      exact ⟨⟨by simp, trivial⟩, .of_idle pending (by rw [reporter]; exact has.symm)⟩

theorem isIdentified_of_run? (ran : state.run? scratch moves = some final)
    (knows : state.Knows known) : IsIdentified known (state.journal scratch moves) := by
  induction moves generalizing state known with
  | nil => trivial
  | cons move rest ih =>
      rcases exists_of_run?_cons ran with ⟨changed, stepped, ran⟩
      rcases knows.exchange (exchange_of_step? stepped) with ⟨identified, knowsAfter⟩
      rw [journal_cons_of_step? stepped, isIdentified_append]
      exact ⟨identified, ih ran knowsAfter⟩

theorem knows_of_run? (ran : state.run? scratch moves = some final) (knows : state.Knows known) :
    final.Knows (identity known (state.journal scratch moves)) := by
  induction moves generalizing state known with
  | nil =>
      cases ran
      exact knows
  | cons move rest ih =>
      rcases exists_of_run?_cons ran with ⟨changed, stepped, ran⟩
      rw [journal_cons_of_step? stepped, identity_append]
      exact ih ran (knows.exchange (exchange_of_step? stepped)).2

/-! ### What a call asks for -/

/-- Whether a move is a call of the reporter. -/
def Move.isCall : Move → Bool
  | .register | .beat _ => true
  | _ => false

/-- The requests that may still be sent before the reporter is called again. -/
def outstanding (state : Correspondence) : List Errand :=
  match state.reporter.phase with
  | .idle => if state.pending.isSome then [.registration] else []
  | .registering true => [.heartbeat, .registration]
  | .registering false => []
  | .beating _ _ => [.registration]

theorem Knows.outstanding (knows : state.Knows known)
    (exchange : state.Exchange scratch changed move said) (within : move.isCall = false) :
    said.filterMap Post.errand? ++ changed.outstanding <+: state.outstanding := by
  cases exchange with
  | worked stepped reporter pending again =>
      simp [Correspondence.outstanding, reporter, pending]
  | registers free reporter pending => cases within
  | introduces free unknown reporter pending => cases within
  | beats free has reporter pending => cases within
  | beatsLater phase given reporter pending =>
      simp [Correspondence.outstanding, reporter, phase, List.filterMap_cons, Post.errand?,
        Request.errand]
  | introduced phase given reporter pending =>
      have unpending := knows.unpending (by simp [phase])
      simp [Correspondence.outstanding, reporter, pending, unpending, List.filterMap_cons,
        Post.errand?]
  | rejected phase refused reporter pending =>
      have unpending := knows.unpending (by simp [phase])
      simp [Correspondence.outstanding, reporter, pending, unpending, List.filterMap_cons,
        Post.errand?]
  | accepted phase given reporter pending again =>
      simp [Correspondence.outstanding, reporter, pending, phase, List.filterMap_cons, Post.errand?]
  | disowned registration phase unknown reporter pending =>
      simp [Correspondence.outstanding, reporter, phase, List.filterMap_cons, Post.errand?,
        Request.errand]
  | failed phase refused reporter pending =>
      have unpending := knows.unpending (by simp [phase])
      simp [Correspondence.outstanding, reporter, pending, unpending, List.filterMap_cons,
        Post.errand?]
  | obeyed before worker reporter pending again =>
      simp [Correspondence.outstanding, reporter, pending, before]
  | repeats before again worker reporter pending =>
      have idle := (knows.ordered _ before).1
      simp [Correspondence.outstanding, reporter, idle, before, Post.errand?, Request.errand]
  | finished before again worker reporter pending =>
      simp [Correspondence.outstanding, reporter, pending, List.filterMap_cons, Post.errand?]

/-- Without another call no more is asked for than was outstanding. -/
theorem errands_prefix_outstanding (ran : state.run? scratch moves = some final)
    (knows : state.Knows known) (within : ∀ move ∈ moves, move.isCall = false) :
    (state.journal scratch moves).filterMap Post.errand? <+: state.outstanding := by
  induction moves generalizing state known with
  | nil => exact List.nil_prefix
  | cons move rest ih =>
      rcases exists_of_run?_cons ran with ⟨changed, stepped, ran⟩
      have exchange := exchange_of_step? stepped
      have first := knows.outstanding exchange (within move List.mem_cons_self)
      have later := ih ran (knows.exchange exchange).2 fun move member =>
        within move (List.mem_cons_of_mem _ member)
      rw [journal_cons_of_step? stepped, List.filterMap_append]
      exact ((List.prefix_append_right_inj _).mpr later).trans first

/-- A call asks for what its first request is for and then at most for what is outstanding. -/
theorem errands_of_beat {figures : MachineFigures} {rest : List Move}
    (ran : state.run? scratch (.beat figures :: rest) = some final) (knows : state.Knows known)
    (within : ∀ move ∈ rest, move.isCall = false) :
    ∃ more, (state.journal scratch (.beat figures :: rest)).filterMap Post.errand? =
        (if state.reporter.agent.isSome then .heartbeat else .registration) :: more ∧
      more <+: if state.reporter.agent.isSome then [.registration]
        else [.heartbeat, .registration] := by
  rcases exists_of_run?_cons ran with ⟨changed, stepped, ran⟩
  have exchange := exchange_of_step? stepped
  have later := errands_prefix_outstanding ran (knows.exchange exchange).2 within
  rw [journal_cons_of_step? stepped, List.filterMap_append]
  generalize state.posts scratch (.beat figures) = said at exchange ⊢
  cases exchange with
  | introduces free unknown reporter pending =>
      have left : changed.outstanding = [.heartbeat, .registration] := by
        simp [Correspondence.outstanding, reporter]
      rw [left] at later
      simp only [unknown, Option.isSome_none, Bool.false_eq_true, if_false]
      exact ⟨_, rfl, later⟩
  | beats free has reporter pending =>
      have left : changed.outstanding = [.registration] := by
        simp [Correspondence.outstanding, reporter]
      rw [left] at later
      simp only [has, Option.isSome_some, if_true]
      exact ⟨_, rfl, later⟩

theorem errands_of_register {rest : List Move}
    (ran : state.run? scratch (.register :: rest) = some final) (knows : state.Knows known)
    (within : ∀ move ∈ rest, move.isCall = false) :
    (state.journal scratch (.register :: rest)).filterMap Post.errand? = [.registration] := by
  rcases exists_of_run?_cons ran with ⟨changed, stepped, ran⟩
  have exchange := exchange_of_step? stepped
  have later := errands_prefix_outstanding ran (knows.exchange exchange).2 within
  rw [journal_cons_of_step? stepped, List.filterMap_append]
  generalize state.posts scratch .register = said at exchange ⊢
  cases exchange with
  | registers free reporter pending =>
      have left : changed.outstanding = [] := by simp [Correspondence.outstanding, reporter]
      rw [left] at later
      rw [List.prefix_nil.mp later]
      rfl

/-! ### A beat that ends with its registration -/

variable {events : List Event} {figures : MachineFigures} {reply : Reply} {error : MasterError}

/-- A reporter that introduces itself in vain is again where it was, and the worker does in the
meantime what it does without that. -/
theorem run?_introducing (reporter : state.reporter = ⟨none, .idle⟩)
    (empty : state.mail.underway = none) (refused : reply.registered = .error error) :
    run? scratch { state with reporter := ⟨none, .registering true⟩ }
        (events.map .work ++ [.hear figures reply]) = state.run? scratch (events.map .work) := by
  induction events generalizing state with
  | nil =>
      rcases state with ⟨⟨worker, chronicle, submitted, underway, answered⟩, _, pending, again⟩
      cases reporter
      cases empty
      simp [run?, step?, hear?, Reporter.hear, Reporter.enroll_of_error refused,
        Reporter.conclude, proceed]
  | cons event rest ih =>
      simp only [List.map_cons, List.cons_append, run?, step?]
      cases event.isTransfer with
      | true => rfl
      | false =>
          cases happened : state.mail.undergo? event with
          | none => rfl
          | some mail =>
              have still : mail.underway = none := by
                rcases Option.map_eq_some_iff.mp happened with ⟨worker, -, rfl⟩
                exact empty
              exact @ih { state with mail } reporter still

theorem journal_introducing (refused : reply.registered = .error error)
    (waits : state.reporter.phase = .registering true)
    (ran : state.run? scratch (events.map .work ++ [.hear figures reply]) = some final) :
    state.journal scratch (events.map .work ++ [.hear figures reply]) =
      [.registered reply, .turn (.done (.error error))] := by
  induction events generalizing state with
  | nil =>
      rcases exists_of_run?_cons ran with ⟨changed, stepped, -⟩
      rw [List.map_nil, List.nil_append, journal_cons_of_step? stepped]
      simp [posts, heard?, turn?, waits, Reporter.hear, Reporter.enroll_of_error refused,
        Reporter.conclude, journal]
  | cons event rest ih =>
      rcases exists_of_run?_cons ran with ⟨changed, stepped, ran⟩
      rw [List.map_cons, List.cons_append, journal_cons_of_step? stepped]
      cases exchange_of_step? stepped with
      | worked steppedWorker reporter pending again => exact ih (by rw [reporter]; exact waits) ran

/-- A beat of an agent without a number that cannot register is only that attempt. -/
theorem run?_beat_rejected (scratch : String) (events : List Event)
    (beatFigures figures : MachineFigures) (posted : state.Posted) (free : state.isFree = true)
    (unknown : state.reporter.agent = none) (refused : reply.registered = .error error) :
    state.run? scratch (.beat beatFigures :: (events.map .work ++ [.hear figures reply])) =
        state.run? scratch (events.map .work) ∧
      ∀ final, state.run? scratch (events.map .work) = some final →
        state.journal scratch (.beat beatFigures :: (events.map .work ++ [.hear figures reply])) =
          [.turn (.ask (.registration state.mail.worker.registration)), .registered reply,
            .turn (.done (.error error))] := by
  rcases posted.of_isFree free with ⟨empty, -⟩
  have idle := (isFree_eq_true_iff.mp free).1
  have reporter : state.reporter = ⟨none, .idle⟩ := by
    rw [← unknown, ← idle]
  have stepped : state.step? scratch (.beat beatFigures) =
      some { state with reporter := ⟨none, .registering true⟩ } := by
    rcases state with ⟨⟨worker, chronicle, submitted, underway, answered⟩, _, pending, again⟩
    cases reporter
    cases empty
    simp [step?, free, Reporter.beat, Reporter.register, proceed]
  have ends : run? scratch { state with reporter := ⟨none, .registering true⟩ }
      (events.map .work ++ [.hear figures reply]) = state.run? scratch (events.map .work) :=
    run?_introducing reporter empty refused
  refine ⟨?_, ?_⟩
  · rw [run?_cons_of_step? stepped, ends]
  · intro final ran
    rw [journal_cons_of_step? stepped, journal_introducing refused rfl (ends.trans ran)]
    simp [posts, heard?, turn?, Reporter.beat, unknown, Reporter.register]

/-- A heartbeat carries the number of the last registration, and after the master has disowned the
agent there is none before the next registration. A call asks for a registration first if the
agent has no number, for one heartbeat at most, and for one more registration at most. A beat
whose registration fails is only that attempt. -/
theorem identity_is_kept {pool : Pool} {registry : Registry} {address : Address}
    (ran : (start pool registry address).run? scratch moves = some state) :
    (∀ before message after, (start pool registry address).journal scratch moves =
        before ++ .turn (.ask (.heartbeat message)) :: after →
      (before.filterMap Post.given?).getLast? = some message.agent ∧
      ∀ earlier reply between, before = earlier ++ .answered reply :: between →
        reply.disowns = true →
          (between.filterMap Post.given?).getLast? = some message.agent) ∧
    (∀ figures rest final, state.run? scratch (.beat figures :: rest) = some final →
      (∀ move ∈ rest, move.isCall = false) →
      ∃ more, (state.journal scratch (.beat figures :: rest)).filterMap Post.errand? =
          (if state.reporter.agent.isSome then .heartbeat else .registration) :: more ∧
        more <+: if state.reporter.agent.isSome then [.registration]
          else [.heartbeat, .registration]) ∧
    (∀ rest final, state.run? scratch (.register :: rest) = some final →
      (∀ move ∈ rest, move.isCall = false) →
      (state.journal scratch (.register :: rest)).filterMap Post.errand? = [.registration]) ∧
    (state.isFree = true → state.reporter.agent = none →
      ∀ reply error, reply.registered = .error error → ∀ beatFigures figures (events : List Event),
        let beat : List Move := .beat beatFigures :: (events.map .work ++ [.hear figures reply])
        state.run? scratch beat = state.run? scratch (events.map .work) ∧
        ∀ final, state.run? scratch beat = some final →
          state.journal scratch beat =
            [.turn (.ask (.registration state.mail.worker.registration)), .registered reply,
              .turn (.done (.error error))]) := by
  have started := knows_start pool registry address
  have knows := knows_of_run? ran started
  have posted := (sound_of_run? ran (posted_start pool registry address)
    (Mail.sound_make pool registry address)).2
  refine ⟨?_, ?_, ?_, ?_⟩
  · intro before message after journal_eq
    have identified := isIdentified_of_run? ran started
    rw [journal_eq, isIdentified_append] at identified
    have has : identity none before = some message.agent := identified.2.1 message rfl
    refine ⟨by simpa using last_given_of_identity has, ?_⟩
    rintro earlier reply between rfl disowns
    have taken : identity none (earlier ++ .answered reply :: between) = identity none between := by
      rw [identity_append, identity, List.foldl_cons, Post.identify, if_pos disowns]
      rfl
    rw [taken] at has
    simpa using last_given_of_identity has
  · intro figures rest final ranCall within
    exact errands_of_beat ranCall knows within
  · intro rest final ranCall within
    exact errands_of_register ranCall knows within
  · intro free unknown reply error refused beatFigures figures events beat
    rcases run?_beat_rejected scratch events beatFigures figures posted free unknown refused with
      ⟨same, journal_eq⟩
    refine ⟨same, ?_⟩
    intro final ranBeat
    exact journal_eq final (same.symm.trans ranBeat)

/-- The master restarts and loses the registration that follows, answers the next heartbeat with
the order to register again, and fails at that. -/
def restart (figures : MachineFigures) : List Move :=
  [.beat figures, .hear figures (.answered 200 "[7]"), .hear figures (.answered 404 ""),
    .hear figures .lost, .beat figures, .hear figures (.answered 200 "[8]"),
    .hear figures (.answered 200 "[[[\"REGISTER\"]]]"), .obey, .obey,
    .hear figures (.answered 500 "")]

theorem identity_is_kept_restart :
    let figures : MachineFigures :=
      ⟨.ofInt .single 0, 0, .ofInt .double 0, .ofInt .double 0, .ofInt .double 0⟩
    let agent := start (.ofSize 1) .empty ⟨"host", 1, 2⟩
    ∃ state, agent.run? "scratch" (restart figures) = some state ∧
      (agent.journal "scratch" (restart figures)).filterMap Post.errand? =
        [.registration, .heartbeat, .registration, .registration, .heartbeat, .registration] ∧
      (∀ before message after, agent.journal "scratch" (restart figures) =
          before ++ .turn (.ask (.heartbeat message)) :: after →
        (before.filterMap Post.given?).getLast? = some message.agent) ∧
      state.run? "scratch" [.beat figures, .hear figures .lost] = some state := by
  intro figures agent
  have counted : (agent.run? "scratch" (restart figures)).map
      (fun state => (state.isFree, state.reporter.agent)) = some (true, none) := by decide +kernel
  rcases Option.map_eq_some_iff.mp counted with ⟨state, ran, ends⟩
  rcases Prod.mk.inj ends with ⟨free, unknown⟩
  rcases identity_is_kept ran with ⟨numbers, -, -, rejected⟩
  refine ⟨state, ran, by decide +kernel, ?_, ?_⟩
  · intro before message after journal_eq
    exact (numbers before message after journal_eq).1
  · exact (rejected free unknown .lost .lost rfl figures figures []).1

end Correspondence

end TaskAgent
