import TaskAgent.Agent.Service
import TaskAgent.Proofs.Agent.Trace
import TaskAgent.Proofs.Master.Commission

/-!
# The announced number of slots

A configuration is accepted with any number of slots but none. Not every such number makes a pool,
and a request tells the number of slots in 32 bits. So an agent comes into service exactly if there
can be a pool of the size in its configuration, and from then on every request, whatever happens in
between, announces that size up to a multiple of `UInt32.size` (`Config.slots_are_announced`).
-/

namespace TaskAgent

namespace Request

/-- The number of slots that the request tells of. -/
def poolSize : Request → UInt32
  | registration message => message.poolSize
  | heartbeat message => message.health.poolSize

/-- The request tells of so many slots, as far as 32 bits can tell. -/
def Announces (size : Nat) (request : Request) : Prop :=
  request.poolSize.toNat = size % UInt32.size

variable {size : Nat} {request : Request}

theorem Announces.toNat_eq_iff (announces : request.Announces size) :
    request.poolSize.toNat = size ↔ size < UInt32.size := by
  rw [announces]
  exact Nat.mod_eq_iff_lt (by decide)

theorem Announces.eq_zero_iff (announces : request.Announces size) :
    request.poolSize = 0 ↔ UInt32.size ∣ size := by
  rw [← UInt32.toNat_inj, announces]
  exact Nat.dvd_iff_mod_eq_zero.symm

end Request

/-! ### The worker -/

namespace Worker

variable {worker : Worker} {size : Nat}

theorem announces_registration (size_eq : worker.pool.size = size) :
    (Request.registration worker.registration).Announces size := by
  subst size_eq
  exact UInt32.toNat_ofNat

theorem announces_heartbeat (size_eq : worker.pool.size = size) (agent : AgentId)
    (figures : MachineFigures) (records : List TaskRecord) :
    (Request.heartbeat ⟨agent, worker.health figures, records⟩).Announces size := by
  subst size_eq
  exact UInt32.toNat_ofNat

end Worker

/-! ### The reporter -/

/-- The worker has so many slots, and what is sent tells of them. -/
structure Progress.Announces (size : Nat) (progress : Progress) : Prop where
  size_eq : progress.worker.pool.size = size
  asked : ∀ request, progress.turn = .ask request → request.Announces size

namespace Reporter

variable {worker : Worker} {size : Nat}

theorem announces_conclude (reporter : Reporter) (result : Except MasterError Unit)
    (size_eq : worker.pool.size = size) : (reporter.conclude worker result).Announces size := by
  refine ⟨size_eq, ?_⟩
  intro request asked
  cases asked

theorem announces_register (reporter : Reporter) (beats : Bool)
    (size_eq : worker.pool.size = size) : (reporter.register beats worker).Announces size := by
  refine ⟨size_eq, ?_⟩
  intro request asked
  cases asked
  exact Worker.announces_registration size_eq

theorem announces_send (reporter : Reporter) (figures : MachineFigures) (agent : AgentId)
    (size_eq : worker.pool.size = size) : (reporter.send figures agent worker).Announces size := by
  refine ⟨size_eq, ?_⟩
  intro request asked
  cases asked
  have kept : worker.drain.2.pool.size = size := size_eq
  exact Worker.announces_heartbeat kept agent figures worker.drain.1

theorem announces_beat (reporter : Reporter) (figures : MachineFigures)
    (size_eq : worker.pool.size = size) : (reporter.beat figures worker).Announces size := by
  unfold beat
  split
  · exact announces_send reporter figures _ size_eq
  · exact announces_register reporter true size_eq

theorem announces_obey (reporter : Reporter) (scratch : String) (orders : Orders)
    (size_eq : worker.pool.size = size) :
    (reporter.obey scratch worker orders).Announces size := by
  have kept := (Worker.size_of_run?
    (Worker.run?_commands scratch worker orders.commands)).trans size_eq
  unfold obey
  dsimp only
  split
  · exact announces_register _ false kept
  · exact announces_conclude reporter (.ok ()) kept

/-- Whatever the master answers, the worker keeps its slots and the next request tells of them. -/
theorem announces_hear (reporter : Reporter) (scratch : String) (figures : MachineFigures)
    (reply : Reply) (size_eq : worker.pool.size = size) :
    (reporter.hear scratch figures worker reply).Announces size := by
  unfold hear
  split
  · exact announces_conclude reporter (.ok ()) size_eq
  · split
    · split
      · exact announces_send _ figures _ size_eq
      · exact announces_conclude _ (.ok ()) size_eq
    · exact announces_conclude _ _ size_eq
  · next agent records phase =>
      have restored : (worker.restore records).pool.size = size := size_eq
      split
      · exact announces_obey reporter scratch _ size_eq
      · exact announces_register _ false restored
      · exact announces_conclude reporter _ restored

end Reporter

namespace Correspondence

variable {state changed : Correspondence} {scratch : String} {move : Move} {size : Nat}
  {request : Request}

theorem poolSize_of_step? (stepped : state.step? scratch move = some changed) :
    changed.mail.worker.pool.size = state.mail.worker.pool.size := by
  rcases (touches_of_step? stepped).worker_cases with still | ⟨event, steppedWorker, -⟩
  · rw [still]
  · exact Worker.size_of_step? steppedWorker

theorem announces_turn? (size_eq : state.mail.worker.pool.size = size)
    (asked : state.turn? scratch move = some (.ask request)) : request.Announces size := by
  cases move with
  | work event => cases asked
  | register =>
      exact (state.reporter.announces_register false size_eq).asked request (Option.some.inj asked)
  | beat figures =>
      exact (state.reporter.announces_beat figures size_eq).asked request (Option.some.inj asked)
  | hear figures reply =>
      simp only [turn?] at asked
      split at asked
      · cases asked
      · exact (state.reporter.announces_hear scratch figures reply size_eq).asked request
          (Option.some.inj asked)
  | obey =>
      simp only [turn?] at asked
      split at asked
      · split at asked
        · exact (state.reporter.announces_register false size_eq).asked request
            (Option.some.inj asked)
        · cases asked
      · cases asked

/-- Whatever happens to the worker between the requests, each of them tells of its slots. -/
theorem announces_of_mem_journal {moves : List Move}
    (size_eq : state.mail.worker.pool.size = size)
    (sent : .turn (.ask request) ∈ state.journal scratch moves) : request.Announces size := by
  induction moves generalizing state with
  | nil => cases sent
  | cons move rest ih =>
      unfold journal at sent
      split at sent
      · next changed stepped =>
          rcases List.mem_append.mp sent with now | later
          · simp only [posts, List.mem_append, Option.mem_toList, Option.map_eq_some_iff,
              Post.turn.injEq, exists_eq_right] at now
            rcases now with heard | turned
            · cases move <;> simp only [heard?] at heard <;> try cases heard
              split at heard <;> cases heard
            · exact announces_turn? size_eq turned
          · exact ih ((poolSize_of_step? stepped).trans size_eq) later
      · cases sent

end Correspondence

/-! ### An agent in service -/

/-- A request either comes last in the log of the master or is not logged. -/
theorem ScriptedMaster.log_serve (master : ScriptedMaster) (request : Request) :
    (master.serve request).2.log = master.log ∨
      (master.serve request).2.log =
        master.log ++ [(Url.target (master.base ++ request.path), request)] := by
  unfold serve
  dsimp only
  split
  · exact Or.inl rfl
  · split
    · exact Or.inl rfl
    · split
      · exact Or.inr rfl
      · exact Or.inr rfl
      · exact Or.inl rfl

namespace Exchange

variable {exchange : Exchange} {size : Nat}

/-- The agent has so many slots, and the master was told so by every request. -/
structure Announces (size : Nat) (exchange : Exchange) : Prop where
  size_eq : exchange.agent.worker.pool.size = size
  logged : ∀ sent ∈ exchange.master.log, sent.2.Announces size

theorem mem_log_serve {master : ScriptedMaster} {request : Request} {sent : String × Request}
    (member : sent ∈ (master.serve request).2.log) : sent ∈ master.log ∨ sent.2 = request := by
  rcases master.log_serve request with same | grown
  · rw [same] at member
    exact Or.inl member
  · rw [grown, List.mem_append, List.mem_singleton] at member
    exact member.imp_right (congrArg Prod.snd)

variable {progress : Progress} {request : Request} {reply : Reply} {master : ScriptedMaster}
  {result : Except MasterError Unit}

theorem follow_of_done (done : progress.turn = .done result) (requests : Nat) :
    exchange.follow progress (requests + 1) = (result, exchange.taken progress) := by
  simp [follow, done]

theorem follow_of_ask (asks : progress.turn = .ask request)
    (served : exchange.master.serve request = (reply, master)) (requests : Nat) :
    exchange.follow progress (requests + 1) =
      { exchange with master }.follow
        (progress.reporter.hear exchange.scratch exchange.agent.figures progress.worker reply)
        requests := by
  simp [follow, asks, served]

/-- A registration by itself is the exchange in which the reporter does nothing else. -/
theorem follow_register (exchange : Exchange) :
    exchange.follow (exchange.agent.reporter.register false exchange.agent.worker)
      (longest + 1) = (exchange.register.1.map fun _ => (), exchange.register.2) := by
  rcases served : exchange.master.serve (.registration exchange.agent.worker.registration) with
    ⟨reply, master⟩
  rw [follow_of_ask rfl served]
  change follow _ (Reporter.hear ⟨_, .registering false⟩ _ _ _ _) _ = _
  cases given : reply.registered with
  | ok number =>
      rw [Reporter.hear_of_registered given]
      refine (follow_of_done rfl 2).trans ?_
      simp only [register, served, Reporter.enroll_of_ok given]
      rfl
  | error error =>
      rw [Reporter.hear_of_rejected given]
      refine (follow_of_done rfl 2).trans ?_
      simp only [register, served, Reporter.enroll_of_error given]
      rfl

theorem registerUntil_of_ok {joined : Exchange} {number : AgentId}
    (registered : exchange.register = (.ok number, joined)) (asked : Bool) (attempts : Nat) :
    registerUntil asked (attempts + 1) exchange = (some number, joined) := by
  unfold registerUntil
  generalize exchange.register = registration at registered ⊢
  subst registered
  rfl

theorem registerUntil_of_error {refused : Exchange} {error : MasterError}
    (registered : exchange.register = (.error error, refused)) (asked : Bool) (attempts : Nat) :
    registerUntil asked (attempts + 1) exchange =
      if asked || refused.master.isShutDown then (none, refused)
      else registerUntil asked attempts refused := by
  conv => lhs; unfold registerUntil
  generalize exchange.register = registration at registered ⊢
  subst registered
  rfl

theorem Announces.follow (announces : exchange.Announces size) {progress : Progress}
    (going : progress.Announces size) (requests : Nat) :
    (exchange.follow progress requests).2.Announces size := by
  induction requests generalizing exchange progress with
  | zero => exact ⟨going.size_eq, announces.logged⟩
  | succ requests ih =>
      cases asks : progress.turn with
      | done result =>
          rw [follow_of_done asks]
          exact ⟨going.size_eq, announces.logged⟩
      | ask request =>
          have logged : ∀ sent ∈ (exchange.master.serve request).2.log, sent.2.Announces size := by
            intro sent member
            rcases mem_log_serve member with before | rfl
            · exact announces.logged sent before
            · exact going.asked _ asks
          rcases served : exchange.master.serve request with ⟨reply, master⟩
          rw [served] at logged
          rw [follow_of_ask asks served]
          have going := progress.reporter.announces_hear exchange.scratch exchange.agent.figures
            reply going.size_eq
          have after : Announces size { exchange with master } := ⟨announces.size_eq, logged⟩
          exact ih after going

theorem Announces.register (announces : exchange.Announces size) :
    exchange.register.2.Announces size := by
  have asked := Reporter.announces_register exchange.agent.reporter false announces.size_eq
  have followed := announces.follow asked (longest + 1)
  rwa [follow_register] at followed

theorem Announces.beat (announces : exchange.Announces size) : exchange.beat.2.Announces size :=
  announces.follow (Reporter.announces_beat _ _ announces.size_eq) _

theorem Announces.settle (announces : exchange.Announces size) :
    exchange.settle.Announces size :=
  ⟨(Worker.size_of_run? exchange.agent.course_settle.run?).trans announces.size_eq,
    announces.logged⟩

theorem Announces.registerUntil (announces : exchange.Announces size) (asked : Bool)
    (attempts : Nat) : (registerUntil asked attempts exchange).2.Announces size := by
  induction attempts generalizing exchange with
  | zero => exact announces
  | succ attempts ih =>
      have announced := announces.register
      rcases registered : exchange.register with ⟨refused | done, after⟩
      · rw [registered] at announced
        rw [registerUntil_of_error registered]
        split
        · exact announced
        · exact ih announced
      · rw [registered] at announced
        rw [registerUntil_of_ok registered]
        exact announced

theorem Announces.beatUntil (announces : exchange.Announces size) (beats : Nat) :
    (beatUntil beats exchange).Announces size := by
  induction beats generalizing exchange with
  | zero => exact announces
  | succ beats ih =>
      unfold Exchange.beatUntil
      split
      · exact announces
      · exact ih announces.settle.beat

/-- However long an agent is in service, it tells of its slots at every request. -/
theorem Announces.serve (announces : exchange.Announces size) : exchange.serve.Announces size := by
  have registered : (exchange.registerUntilOk false).2.Announces size :=
    announces.registerUntil false _
  unfold Exchange.serve
  generalize exchange.registerUntilOk false = registration at registered ⊢
  rcases registration with ⟨joined, after⟩
  cases joined with
  | none => exact registered
  | some number =>
      have beaten := Announces.beatUntil registered after.master.replies.length
      exact ⟨beaten.size_eq, beaten.logged⟩

end Exchange

/-! ### The configuration -/

namespace Pool

variable {size : Nat} {pool : Pool}

theorem size_of_make? (positive : 0 < size) (made : make? size = .ok pool) : pool.size = size := by
  unfold make? at made
  split at made
  · cases made
  · cases made
    exact Nat.max_eq_left positive

theorem make?_of_le (fits : size ≤ greatestSize) : make? size = .ok (ofSize size) :=
  if_neg (Nat.not_lt.mpr fits)

theorem make?_of_lt (exceeds : greatestSize < size) : make? size = .error .tooLarge :=
  if_pos exceeds

end Pool

namespace Config

variable {machine : String} {options : Options} {config : Config} {figures : MachineFigures}
  {files : FileTree} {reachable : Bool} {replies : List Reply}

theorem poolSize_of_ofOptions (accepted : ofOptions machine options = .ok config) :
    config.poolSize = options.poolSize ∧ 0 < config.poolSize.toNat := by
  unfold ofOptions at accepted
  dsimp only at accepted
  split at accepted
  · cases accepted
  · next some =>
      split at accepted
      · cases accepted
      · split at accepted
        · cases accepted
        · split at accepted
          · cases accepted
          · cases accepted
            exact ⟨rfl, UInt64.pos_iff_ne_zero.mpr some⟩

theorem serve_of_le (fits : config.poolSize.toNat ≤ Pool.greatestSize) :
    ∃ exchange, config.serve figures files reachable replies = .ok exchange := by
  rw [serve, Agent.ofConfig?, Pool.make?_of_le fits]
  exact ⟨_, rfl⟩

theorem serve_of_lt (exceeds : Pool.greatestSize < config.poolSize.toNat) :
    config.serve figures files reachable replies = .error .tooLarge := by
  rw [serve, Agent.ofConfig?, Pool.make?_of_lt exceeds]
  rfl

theorem announces_of_serve {exchange : Exchange} (positive : 0 < config.poolSize.toNat)
    (served : config.serve figures files reachable replies = .ok exchange) :
    exchange.Announces config.poolSize.toNat := by
  unfold serve Agent.ofConfig? at served
  cases made : Pool.make? config.poolSize.toNat with
  | error fault =>
      rw [made] at served
      cases served
  | ok pool =>
      rw [made] at served
      rw [← Except.ok.inj served]
      refine Exchange.Announces.serve ⟨Pool.size_of_make? positive made, ?_⟩
      intro sent member
      cases member

/-- An accepted configuration asks for at least one slot. There is a pool of that size exactly if
it is at most the greatest, and then every request, in service and in any other course of events,
announces the size as far as 32 bits tell it: truthfully below `UInt32.size`, and as nothing at its
multiples. -/
theorem slots_are_announced (accepted : ofOptions machine options = .ok config) :
    let size := config.poolSize.toNat
    config.poolSize = options.poolSize ∧ 0 < size ∧
    (∀ figures files reachable replies,
      (size ≤ Pool.greatestSize →
        ∃ exchange, config.serve figures files reachable replies = .ok exchange) ∧
      (Pool.greatestSize < size →
        config.serve figures files reachable replies = .error .tooLarge) ∧
      ∀ exchange, config.serve figures files reachable replies = .ok exchange →
        ∀ sent ∈ exchange.master.log, sent.2.Announces size) ∧
    (∀ pool registry scratch moves request, Pool.make? size = .ok pool →
      .turn (.ask request) ∈
        (Correspondence.start pool registry config.address).journal scratch moves →
      request.Announces size) ∧
    ∀ request : Request, request.Announces size →
      (request.poolSize.toNat = size ↔ size < UInt32.size) ∧
      (request.poolSize = 0 ↔ UInt32.size ∣ size) := by
  rcases poolSize_of_ofOptions accepted with ⟨asked, positive⟩
  refine ⟨asked, positive, ?_, ?_, ?_⟩
  · intro figures files reachable replies
    exact ⟨serve_of_le, serve_of_lt,
      fun exchange served => (announces_of_serve positive served).logged⟩
  · intro pool registry scratch moves request made sent
    exact Correspondence.announces_of_mem_journal (Pool.size_of_make? positive made) sent
  · intro request announces
    exact ⟨announces.toNat_eq_iff, announces.eq_zero_iff⟩

/-- Options that leave all but the host and the number of slots as it is. -/
def optionsFor (slots : UInt64) : Options := { host := some "w1", poolSize := slots }

/-- What these options make. -/
def withSlots (slots : UInt64) : Config :=
  ⟨"http://localhost:8080", slots, ⟨"w1", 29998, 29999⟩, 1000, "/data/tmp"⟩

/-- More slots than 32 bits can count: the agent registers, and its number comes with the reply. -/
theorem slots_are_announced_beyondCount :
    let figures : MachineFigures :=
      ⟨.ofInt .single 0, 0, .ofInt .double 0, .ofInt .double 0, .ofInt .double 0⟩
    (∃ exchange, (withSlots 4294967299).serve figures .initial true [] = .ok exchange) ∧
    ∃ pool, Pool.make? 4294967299 = .ok pool ∧
      ∃ request, Post.turn (.ask request) ∈
        (Correspondence.start pool .builtin ⟨"w1", 29998, 29999⟩).journal "scratch"
          [.register, .hear figures (.answered 200 "[7]")] ∧
        request.poolSize.toNat = 3 := by
  intro figures
  have accepted : ofOptions "machine" (optionsFor 4294967299) = .ok (withSlots 4294967299) := rfl
  have size : (withSlots 4294967299).poolSize.toNat = 4294967299 := by decide
  have announced := slots_are_announced accepted
  rw [size] at announced
  rcases announced with ⟨-, -, served, told, -⟩
  have asked : Post.turn (.ask (.registration ⟨⟨"w1", 29998, 29999⟩, 3⟩)) ∈
      (Correspondence.start (.ofSize 4294967299) .builtin ⟨"w1", 29998, 29999⟩).journal "scratch"
        [.register, .hear figures (.answered 200 "[7]")] := List.mem_cons_self
  exact ⟨(served figures .initial true []).1 (by decide), _, rfl, _, asked,
    told _ _ _ _ _ rfl asked⟩

/-- There is no pool for an accepted number of slots, and another one is announced as none. -/
theorem slots_are_misjudged :
    ofOptions "machine" (optionsFor 2305843009213693952) = .ok (withSlots 2305843009213693952) ∧
    Pool.make? (withSlots 2305843009213693952).poolSize.toNat = .error .tooLarge ∧
    ofOptions "machine" (optionsFor 4294967296) = .ok (withSlots 4294967296) ∧
    ∃ pool, Pool.make? (withSlots 4294967296).poolSize.toNat = .ok pool ∧
      (Worker.make pool .builtin ⟨"w1", 29998, 29999⟩).registration.poolSize = 0 :=
  ⟨rfl, by decide, rfl, _, rfl, by decide⟩

end Config

end TaskAgent
