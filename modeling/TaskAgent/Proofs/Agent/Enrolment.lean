import TaskAgent.Proofs.Agent.Announcement

/-!
# Registering until it succeeds

An agent that registers until it succeeds sends one registration for each reply, always the same,
and stops at the first reply that gives it a number, whether or not a shutdown was asked for. The
other replies stay with the master, and the worker is not touched. An agent in service sends no
heartbeat before such a reply (`Exchange.registers_until_numbered`).
-/

namespace TaskAgent

namespace Reply

variable {reply : Reply} {number : AgentId}

/-- The reply is a success, and its body gives the number. -/
def Numbers (reply : Reply) (number : AgentId) : Prop :=
  ∃ status body, reply = .answered status body ∧ 200 ≤ status ∧ status < 300 ∧
    decode? Registered.read? body = some ⟨number⟩

theorem registered_eq_ok_iff : reply.registered = .ok number ↔ reply.Numbers number := by
  constructor
  · intro given
    cases reply with
    | answered status body =>
        rw [registered] at given
        split at given
        · next success =>
            split at given
            · next decoded read =>
                cases given
                simp only [isSuccess, Bool.and_eq_true, decide_eq_true_eq] at success
                exact ⟨status, body, rfl, success.1, success.2, read⟩
            · cases given
        · cases given
    | lost => cases given
    | unsendable => cases given
  · rintro ⟨status, body, rfl, least, greatest, read⟩
    simp [registered, isSuccess, least, greatest, read]

/-- The reply gives no number. -/
def IsRefusal (reply : Reply) : Prop := ∀ number, ¬reply.Numbers number

theorem IsRefusal.exists_error (refusal : reply.IsRefusal) :
    ∃ error, reply.registered = .error error := by
  cases registered : reply.registered with
  | ok number => exact absurd (registered_eq_ok_iff.mp registered) (refusal number)
  | error error => exact ⟨error, rfl⟩

theorem isRefusal_of_error {error : MasterError} (refused : reply.registered = .error error) :
    reply.IsRefusal := by
  intro number numbers
  cases refused.symm.trans (registered_eq_ok_iff.mpr numbers)

/-- Among replies there is a first that gives a number, or none does. -/
theorem exists_first_number (replies : List Reply) :
    (∃ before reply after number, replies = before ++ reply :: after ∧
      (∀ other ∈ before, other.IsRefusal) ∧ reply.Numbers number) ∨
    ∀ reply ∈ replies, reply.IsRefusal := by
  induction replies with
  | nil =>
      right
      intro reply member
      cases member
  | cons reply rest ih =>
      cases registered : reply.registered with
      | ok number =>
          left
          refine ⟨[], reply, rest, number, rfl, ?_, registered_eq_ok_iff.mp registered⟩
          intro other member
          cases member
      | error error =>
          have refusal := isRefusal_of_error registered
          rcases ih with ⟨before, first, after, number, rfl, refusals, numbers⟩ | refusals
          · left
            exact ⟨reply :: before, first, after, number, rfl,
              List.forall_mem_cons.mpr ⟨refusal, refusals⟩, numbers⟩
          · right
            exact List.forall_mem_cons.mpr ⟨refusal, refusals⟩

end Reply

/-! ### The master -/

namespace ScriptedMaster

variable {master : ScriptedMaster} {message : Registration} {reply : Reply} {rest : List Reply}

/-- Registrations reach the master. -/
structure TakesRegistrations (master : ScriptedMaster) : Prop where
  usable : Url.isUsable (master.base ++ "/api/v1/workers/register") = true
  reachable : master.reachable = true

theorem TakesRegistrations.serve_cons (takes : master.TakesRegistrations)
    (replies : master.replies = reply :: rest) :
    master.serve (.registration message) =
      (reply, { master with
        replies := rest
        log := master.log ++
          [(Url.target (master.base ++ "/api/v1/workers/register"), .registration message)] }) := by
  simp [serve, Request.path, takes.usable, takes.reachable, replies]

theorem TakesRegistrations.serve_nil (takes : master.TakesRegistrations)
    (replies : master.replies = []) (ending : master.ending = .shutsDown) :
    master.serve (.registration message) = (.answered closingStatus "", master) := by
  simp [serve, Request.path, takes.usable, takes.reachable, replies, ending]

theorem serve_of_not_takes (out : ¬master.TakesRegistrations) :
    ∃ reply, reply.IsRefusal ∧ master.serve (.registration message) = (reply, master) := by
  cases usable : Url.isUsable (master.base ++ "/api/v1/workers/register") with
  | false =>
      refine ⟨.unsendable, Reply.isRefusal_of_error rfl, ?_⟩
      simp [serve, Request.path, usable]
  | true =>
      have unreachable : master.reachable = false :=
        Bool.eq_false_iff.mpr fun reachable => out ⟨usable, reachable⟩
      refine ⟨.lost, Reply.isRefusal_of_error rfl, ?_⟩
      simp [serve, Request.path, usable, unreachable]

theorem log_prefix_serve (master : ScriptedMaster) (request : Request) :
    master.log <+: (master.serve request).2.log := by
  rcases master.log_serve request with same | grown
  · exact ⟨[], (List.append_nil _).trans same.symm⟩
  · exact ⟨_, grown.symm⟩

end ScriptedMaster

/-! ### The exchange -/

namespace Exchange

variable {exchange : Exchange} {reply : Reply} {before after : List Reply} {number : AgentId}

/-- The exchange after so many registrations that reached the master, each with the address of the
agent and the number of its slots, with the replies that are left and the number that the agent has
then. Nothing else changes. -/
def enrolled (exchange : Exchange) (registrations : Nat) (left : List Reply)
    (number : Option AgentId) : Exchange :=
  { exchange with
    agent := { exchange.agent with reporter := ⟨number, .idle⟩ }
    master := { exchange.master with
      replies := left
      log := exchange.master.log ++ List.replicate registrations
        (Url.target (exchange.master.base ++ "/api/v1/workers/register"),
          .registration ⟨exchange.agent.worker.tracker.address,
            UInt32.ofNat exchange.agent.worker.pool.size⟩) } }

theorem enrolled_enrolled (exchange : Exchange) (first second : Nat) (left later : List Reply)
    (known number : Option AgentId) :
    (exchange.enrolled first left known).enrolled second later number =
      exchange.enrolled (first + second) later number := by
  simp [enrolled, List.replicate_append_replicate]

variable {master : ScriptedMaster}

theorem register_of_refusal (refusal : reply.IsRefusal)
    (served : exchange.master.serve (.registration exchange.agent.worker.registration) =
      (reply, master)) :
    ∃ error, exchange.register = (.error error,
      { exchange with
        agent := { exchange.agent with reporter := ⟨exchange.agent.reporter.agent, .idle⟩ }
        master }) := by
  rcases refusal.exists_error with ⟨error, refused⟩
  refine ⟨error, ?_⟩
  simp only [register, served, Reporter.enroll_of_error refused]

theorem register_of_numbers (numbers : reply.Numbers number)
    (served : exchange.master.serve (.registration exchange.agent.worker.registration) =
      (reply, master)) :
    exchange.register = (.ok number,
      { exchange with
        agent := { exchange.agent with reporter := ⟨some number, .idle⟩ }
        master }) := by
  simp only [register, served, Reporter.enroll_of_ok (Reply.registered_eq_ok_iff.mpr numbers)]

/-- A shutdown asked for beforehand leaves exactly one registration, whatever the master does. -/
theorem registerUntilOk_of_asked (exchange : Exchange) :
    exchange.registerUntilOk true = (exchange.register.1.toOption, exchange.register.2) := by
  rw [registerUntilOk]
  rcases registered : exchange.register with ⟨error | number, after⟩
  · exact registerUntil_of_error registered true _
  · exact registerUntil_of_ok registered true _

variable {rest : List Reply}

theorem register_of_cons_numbers (takes : exchange.master.TakesRegistrations)
    (replies : exchange.master.replies = reply :: rest) (numbers : reply.Numbers number) :
    exchange.register = (.ok number, exchange.enrolled 1 rest (some number)) :=
  register_of_numbers numbers (takes.serve_cons replies)

theorem register_of_cons_refusal (takes : exchange.master.TakesRegistrations)
    (replies : exchange.master.replies = reply :: rest) (refusal : reply.IsRefusal) :
    ∃ error, exchange.register =
      (.error error, exchange.enrolled 1 rest exchange.agent.reporter.agent) :=
  register_of_refusal refusal (takes.serve_cons replies)

theorem register_of_nil (takes : exchange.master.TakesRegistrations)
    (replies : exchange.master.replies = []) (ending : exchange.master.ending = .shutsDown) :
    ∃ error, exchange.register =
      (.error error, exchange.enrolled 0 [] exchange.agent.reporter.agent) := by
  have refusal : (Reply.answered ScriptedMaster.closingStatus "").IsRefusal :=
    Reply.isRefusal_of_error rfl
  rcases register_of_refusal refusal (takes.serve_nil replies ending) with ⟨error, registered⟩
  refine ⟨error, registered.trans ?_⟩
  simp [enrolled, ← replies]

theorem registerUntil_of_refusal (takes : exchange.master.TakesRegistrations)
    (replies : exchange.master.replies = reply :: rest) (refusal : reply.IsRefusal)
    (more : rest ≠ []) (attempts : Nat) :
    registerUntil false (attempts + 1) exchange =
      registerUntil false attempts (exchange.enrolled 1 rest exchange.agent.reporter.agent) := by
  rcases register_of_cons_refusal takes replies refusal with ⟨error, registered⟩
  rw [registerUntil_of_error registered]
  simp [enrolled, ScriptedMaster.isShutDown, more]

theorem registerUntil_of_last (takes : exchange.master.TakesRegistrations)
    (ending : exchange.master.ending = .shutsDown) (replies : exchange.master.replies = [reply])
    (refusal : reply.IsRefusal) (asked : Bool) (attempts : Nat) :
    registerUntil asked (attempts + 1) exchange =
      (none, exchange.enrolled 1 [] exchange.agent.reporter.agent) := by
  rcases register_of_cons_refusal takes replies refusal with ⟨error, registered⟩
  rw [registerUntil_of_error registered]
  simp [enrolled, ScriptedMaster.isShutDown, ending]

theorem takes_enrolled (takes : exchange.master.TakesRegistrations) (registrations : Nat)
    (left : List Reply) (known : Option AgentId) :
    (exchange.enrolled registrations left known).master.TakesRegistrations :=
  ⟨takes.usable, takes.reachable⟩

/-- The first reply with a number is heard, and nothing after it is asked for. -/
theorem registerUntil_of_numbers (takes : exchange.master.TakesRegistrations)
    (replies : exchange.master.replies = before ++ reply :: after)
    (refusals : ∀ other ∈ before, other.IsRefusal) (numbers : reply.Numbers number)
    (spare : Nat) :
    registerUntil false (before.length + spare + 1) exchange =
      (some number, exchange.enrolled (before.length + 1) after (some number)) := by
  induction before generalizing exchange with
  | nil => exact registerUntil_of_ok (register_of_cons_numbers takes replies numbers) false _
  | cons refused before ih =>
      rcases List.forall_mem_cons.mp refusals with ⟨refusal, refusals⟩
      rw [List.cons_append] at replies
      have more : before ++ reply :: after ≠ [] := by simp
      have later := ih (takes_enrolled takes 1 _ exchange.agent.reporter.agent) rfl refusals
      rw [registerUntil_of_refusal takes replies refusal more, List.length_cons,
        Nat.add_right_comm before.length, later, enrolled_enrolled, Nat.add_comm 1]

/-- Without a number every reply is asked for. -/
theorem registerUntil_of_refusals (takes : exchange.master.TakesRegistrations)
    (ending : exchange.master.ending = .shutsDown)
    (refusals : ∀ reply ∈ exchange.master.replies, reply.IsRefusal) :
    registerUntil false (exchange.master.replies.length + 1) exchange =
      (none, exchange.enrolled exchange.master.replies.length []
        exchange.agent.reporter.agent) := by
  generalize replies : exchange.master.replies = all at refusals
  induction all generalizing exchange with
  | nil =>
      rcases register_of_nil takes replies ending with ⟨error, registered⟩
      rw [registerUntil_of_error registered]
      simp [enrolled, ScriptedMaster.isShutDown, ending]
  | cons reply rest ih =>
      rcases List.forall_mem_cons.mp refusals with ⟨refusal, refusals⟩
      cases rest with
      -- Taking the last reply is what asks for the shutdown.
      | nil => exact registerUntil_of_last takes ending replies refusal false _
      | cons next rest =>
          have later := ih (takes_enrolled takes 1 _ exchange.agent.reporter.agent) ending rfl
            refusals
          rw [registerUntil_of_refusal takes replies refusal (List.cons_ne_nil _ _),
            List.length_cons, later, enrolled_enrolled, Nat.add_comm 1]
          rfl

/-- An agent whose registrations do not reach the master gets no number. -/
theorem registerUntil_of_not_takes (out : ¬exchange.master.TakesRegistrations) (asked : Bool)
    (attempts : Nat) :
    ∃ agent, registerUntil asked attempts exchange = (none, { exchange with agent }) := by
  induction attempts generalizing exchange with
  | zero => exact ⟨exchange.agent, rfl⟩
  | succ attempts ih =>
      rcases ScriptedMaster.serve_of_not_takes out with ⟨reply, refusal, served⟩
      rcases register_of_refusal refusal served with ⟨error, registered⟩
      rw [registerUntil_of_error registered]
      split
      · exact ⟨_, rfl⟩
      · exact ih out

/-! ### An agent in service -/

theorem log_prefix_follow (exchange : Exchange) (progress : Progress) (requests : Nat) :
    exchange.master.log <+: (exchange.follow progress requests).2.master.log := by
  induction requests generalizing exchange progress with
  | zero => exact List.prefix_rfl
  | succ requests ih =>
      cases asks : progress.turn with
      | done result =>
          rw [follow_of_done asks]
          exact List.prefix_rfl
      | ask request =>
          have logged := exchange.master.log_prefix_serve request
          rcases served : exchange.master.serve request with ⟨reply, master⟩
          rw [served] at logged
          rw [follow_of_ask asks served]
          exact logged.trans (ih { exchange with master } _)

theorem log_prefix_beatUntil (beats : Nat) (exchange : Exchange) :
    exchange.master.log <+: (beatUntil beats exchange).master.log := by
  induction beats generalizing exchange with
  | zero => exact List.prefix_rfl
  | succ beats ih =>
      unfold beatUntil
      split
      · exact List.prefix_rfl
      · exact (log_prefix_follow exchange.settle _ _).trans (ih _)

theorem serve_of_joined {joined : Exchange}
    (registered : exchange.registerUntilOk false = (some number, joined)) :
    joined.master.log <+: exchange.serve.master.log := by
  unfold serve
  generalize exchange.registerUntilOk false = registration at registered ⊢
  subst registered
  exact log_prefix_beatUntil joined.master.replies.length joined

theorem serve_of_not_joined {left : Exchange}
    (registered : exchange.registerUntilOk false = (none, left)) : exchange.serve = left := by
  unfold serve
  generalize exchange.registerUntilOk false = registration at registered ⊢
  subst registered
  rfl

theorem registerUntilOk_of_numbers (takes : exchange.master.TakesRegistrations)
    (replies : exchange.master.replies = before ++ reply :: after)
    (refusals : ∀ other ∈ before, other.IsRefusal) (numbers : reply.Numbers number) :
    exchange.registerUntilOk false =
      (some number, exchange.enrolled (before.length + 1) after (some number)) := by
  have spare : exchange.master.replies.length + 1 = before.length + (after.length + 1) + 1 := by
    simp [replies]
  rw [registerUntilOk, spare]
  exact registerUntil_of_numbers takes replies refusals numbers _

/-- Every heartbeat of the log comes after a registration to which the reply at the same place gave
a number. -/
def BeatsOnceNumbered (replies : List Reply) (log : List (String × Request)) : Prop :=
  ∀ (place : Nat) target message, log[place]? = some (target, .heartbeat message) →
    ∃ earlier < place, ∃ reply number, replies[earlier]? = some reply ∧ reply.Numbers number ∧
      ∃ asked registration, log[earlier]? = some (asked, .registration registration)

theorem beatsOnceNumbered_append {replies : List Reply} {refusals : Nat} {asked : String}
    {registration : Registration} {later : List (String × Request)}
    (given : replies[refusals]? = some reply) (numbers : reply.Numbers number) :
    BeatsOnceNumbered replies
      (List.replicate (refusals + 1) (asked, .registration registration) ++ later) := by
  intro place target message sent
  have first : refusals < place := by
    by_contra early
    rw [List.getElem?_append_left (by simp; omega), List.getElem?_replicate] at sent
    split at sent
    · cases sent
    · cases sent
  refine ⟨refusals, first, reply, number, given, numbers, asked, registration, ?_⟩
  rw [List.getElem?_append_left (by simp)]
  simp

theorem beatsOnceNumbered_serve (ending : exchange.master.ending = .shutsDown)
    (fresh : exchange.master.log = []) :
    BeatsOnceNumbered exchange.master.replies exchange.serve.master.log := by
  by_cases takes : exchange.master.TakesRegistrations
  · rcases Reply.exists_first_number exchange.master.replies with
      ⟨before, reply, after, number, replies, refusals, numbers⟩ | refusals
    · rcases serve_of_joined (registerUntilOk_of_numbers takes replies refusals numbers) with
        ⟨later, grown⟩
      rw [← grown]
      simp only [enrolled, fresh, List.nil_append]
      exact beatsOnceNumbered_append (by simp [replies]) numbers
    · intro place target message sent
      rw [serve_of_not_joined (registerUntil_of_refusals takes ending refusals)] at sent
      simp [enrolled, fresh, List.getElem?_replicate] at sent
  · intro place target message sent
    rcases registerUntil_of_not_takes takes false _ with ⟨agent, left⟩
    rw [serve_of_not_joined left] at sent
    simp [fresh] at sent

theorem beatsOnceNumbered_of_serve {config : Config} {figures : MachineFigures}
    {files : FileTree} {reachable : Bool} {replies : List Reply} {served : Exchange}
    (serves : config.serve figures files reachable replies = .ok served) :
    BeatsOnceNumbered replies served.master.log := by
  unfold Config.serve at serves
  cases made : Agent.ofConfig? config figures files with
  | error fault =>
      rw [made] at serves
      cases serves
  | ok agent =>
      have fresh := @beatsOnceNumbered_serve
        ⟨agent, ⟨config.masterUrl, reachable, replies, .shutsDown, []⟩, config.scratchDir⟩ rfl rfl
      simp only [made, Except.map, Except.ok.injEq] at serves
      subst serves
      exact fresh

/-- Where registrations reach the master, the agent sends one for each reply up to the first that
gives a number, always with its address and the number of its slots. That number comes of it and is
kept, and the other replies are left alone; with no such reply the agent sends one for each, nothing
comes of it, and the number it had is kept. When a shutdown is asked for beforehand it registers
exactly once, and what comes of that comes of it. Nothing but the reporter and the master changes.
In service it sends a heartbeat only after a registration whose reply gave a number. -/
theorem registers_until_numbered (takes : exchange.master.TakesRegistrations)
    (ending : exchange.master.ending = .shutsDown) :
    (∀ asked before reply after number, exchange.master.replies = before ++ reply :: after →
      (∀ other ∈ before, other.IsRefusal) → reply.Numbers number → (asked = true → before = []) →
      exchange.registerUntilOk asked =
        (some number, exchange.enrolled (before.length + 1) after (some number))) ∧
    ((∀ reply ∈ exchange.master.replies, reply.IsRefusal) →
      let left := exchange.enrolled exchange.master.replies.length [] exchange.agent.reporter.agent
      exchange.registerUntilOk false = (none, left) ∧ exchange.serve = left) ∧
    (∀ reply rest, exchange.master.replies = reply :: rest → reply.IsRefusal →
      exchange.registerUntilOk true =
        (none, exchange.enrolled 1 rest exchange.agent.reporter.agent)) ∧
    exchange.registerUntilOk true = (exchange.register.1.toOption, exchange.register.2) ∧
    ∀ (config : Config) figures files reachable replies served,
      config.serve figures files reachable replies = .ok served →
      BeatsOnceNumbered replies served.master.log := by
  refine ⟨?_, ?_, ?_, registerUntilOk_of_asked exchange, ?_⟩
  · intro asked before reply after number replies refusals numbers patient
    cases asked with
    | false => exact registerUntilOk_of_numbers takes replies refusals numbers
    | true =>
        cases patient rfl
        rw [registerUntilOk_of_asked, register_of_cons_numbers takes replies numbers]
        rfl
  · intro refusals left
    have registered := registerUntil_of_refusals takes ending refusals
    exact ⟨registered, serve_of_not_joined registered⟩
  · intro reply rest replies refusal
    rcases register_of_cons_refusal takes replies refusal with ⟨error, registered⟩
    rw [registerUntilOk_of_asked, registered]
    rfl
  · intro config figures files reachable replies served serves
    exact beatsOnceNumbered_of_serve serves

/-- An agent with one slot, and a master with these replies. -/
def newcomer (replies : List Reply) : Exchange :=
  ⟨.make (.ofSize 1) .builtin ⟨"w1", 29998, 29999⟩
      ⟨.ofInt .single 0, 0, .ofInt .double 0, .ofInt .double 0, .ofInt .double 0⟩ .initial,
    ⟨"http://[::1]:8080", true, replies, .shutsDown, []⟩, "/data/tmp"⟩

theorem takes_newcomer (replies : List Reply) :
    (newcomer replies).master.TakesRegistrations := by
  have usable : Url.isUsable ("http://[::1]:8080" ++ "/api/v1/workers/register") = true := by
    decide +kernel
  refine ⟨?_, rfl⟩
  simpa only [newcomer] using usable

/-- Two attempts fail before a number comes; the last reply is not asked for. -/
theorem registers_until_numbered_lateNumber :
    let replies := [.answered 503 "", .lost, .answered 200 "[7]", .answered 200 "[8]"]
    let exchange := newcomer replies
    exchange.registerUntilOk false =
      (some 7, exchange.enrolled 3 [.answered 200 "[8]"] (some 7)) ∧
    exchange.registerUntilOk true =
      (none, exchange.enrolled 1 [.lost, .answered 200 "[7]", .answered 200 "[8]"] none) ∧
    ∃ served, (Config.withSlots 1).serve exchange.agent.figures .initial true replies =
      .ok served ∧ BeatsOnceNumbered replies served.master.log := by
  intro replies exchange
  have numbers : Reply.Numbers (.answered 200 "[7]") 7 :=
    ⟨200, "[7]", rfl, by decide, by decide, rfl⟩
  have failed : Reply.IsRefusal (.answered 503 "") := Reply.isRefusal_of_error rfl
  have lost : Reply.IsRefusal .lost := Reply.isRefusal_of_error rfl
  rcases registers_until_numbered (takes_newcomer replies) rfl with ⟨given, -, once, -, beats⟩
  have fits : (Config.withSlots 1).poolSize.toNat ≤ Pool.greatestSize := by decide
  rcases Config.serve_of_le fits with ⟨served, serves⟩
  refine ⟨?_, once _ _ rfl failed, served, serves, beats _ _ _ _ _ _ serves⟩
  apply given false [.answered 503 "", .lost] _ _ _ rfl
  · simp [failed, lost]
  · exact numbers
  · intro asks
    cases asks

end Exchange

end TaskAgent
