import Mathlib.Data.List.DropRight
import Mathlib.Data.List.Infix
import TaskAgent.Proofs.Agent.Announcement

/-!
# Which options make a configuration

Options must meet four demands (`Demand`), and the first one that they do not meet is reported.
The demand on the address of the master is about its longest beginning that does not end in a
slash (`IsUnslashed`). That beginning is what the configuration keeps, so an address of a request
never has a doubled slash where the path is joined to it, and a configuration that is taken for
options again comes out as it was (`Config.validation`).
-/

namespace TaskAgent

/-! ### Slashes at the end -/

/-- A text is the longest beginning of another one that does not end in a slash. -/
structure IsUnslashed (text whole : String) : Prop where
  begins : text.toList <+: whole.toList
  unslashed : text.toList.getLast? ≠ some '/'
  longest : ∀ other, other <+: whole.toList → other.getLast? ≠ some '/' →
    other.length ≤ text.toList.length

theorem IsUnslashed.eq {text other whole : String} (first : IsUnslashed text whole)
    (second : IsUnslashed other whole) : text = other := by
  have shorter := second.longest _ first.begins first.unslashed
  have longer := first.longest _ second.begins second.unslashed
  have begins := List.prefix_of_prefix_length_le first.begins second.begins shorter
  exact String.toList_inj.mp (begins.eq_of_length_le longer)

theorem toList_withoutTrailingSlashes (text : String) :
    (withoutTrailingSlashes text).toList = text.toList.rdropWhile (· == '/') :=
  String.toList_ofList

theorem isUnslashed_withoutTrailingSlashes (text : String) :
    IsUnslashed (withoutTrailingSlashes text) text := by
  have split : text.toList = (withoutTrailingSlashes text).toList ++
      text.toList.rtakeWhile (· == '/') := by
    rw [toList_withoutTrailingSlashes, List.rdropWhile_append_rtakeWhile]
  refine ⟨⟨_, split.symm⟩, ?_, ?_⟩
  · rw [toList_withoutTrailingSlashes]
    intro slash
    have some : text.toList.rdropWhile (· == '/') ≠ [] := by
      intro empty
      simp [empty] at slash
    have last := List.rdropWhile_last_not (· == '/') text.toList some
    rw [List.getLast?_eq_some_getLast some, Option.some.injEq] at slash
    exact last (by simp [slash])
  · intro other begins unslashed
    by_contra longer
    -- A longer beginning would go on into the slashes and end with one of them.
    have below : (withoutTrailingSlashes text).toList <+: other :=
      List.prefix_of_prefix_length_le ⟨_, split.symm⟩ begins (by omega)
    rcases below with ⟨extra, rfl⟩
    have slashes : extra <+: text.toList.rtakeWhile (· == '/') := by
      rw [split] at begins
      exact (List.prefix_append_right_inj _).mp begins
    have some : extra ≠ [] := by
      rintro rfl
      simp at longer
    have last := List.mem_rtakeWhile_imp (slashes.subset (List.getLast_mem some))
    apply unslashed
    rw [List.getLast?_append_of_ne_nil _ some, List.getLast?_eq_some_getLast some]
    simpa using last

theorem withoutTrailingSlashes_of_unslashed {text : String}
    (unslashed : text.toList.getLast? ≠ some '/') : withoutTrailingSlashes text = text := by
  apply (isUnslashed_withoutTrailingSlashes text).eq
  refine ⟨List.prefix_rfl, unslashed, ?_⟩
  intro other begins _
  exact begins.length_le

/-! ### Demands -/

/-- What options must fulfil, in the order in which it is asked for. -/
inductive Demand where
  /-- There is at least one slot. -/
  | slots
  /-- There is time between heartbeats. -/
  | interval
  /-- The master speaks the hypertext protocol. -/
  | hypertext
  /-- There is a host to be announced under. -/
  | host

namespace Demand

/-- The demands in order. -/
def all : List Demand := [slots, interval, hypertext, host]

/-- The field that a demand is about. -/
def field : Demand → String
  | slots => "pool_size"
  | interval => "heartbeat_interval_ms"
  | hypertext => "master_url"
  | host => "host"

/-- The options fulfil the demand on a machine of the given name. -/
def Met (machine : String) (options : Options) : Demand → Prop
  | slots => options.poolSize ≠ 0
  | interval => options.heartbeatIntervalMs ≠ 0
  | hypertext => ∃ base, IsUnslashed base options.masterUrl ∧
      ("http://".toList <+: base.toList ∨ "https://".toList <+: base.toList)
  | host => (∃ given, options.host = some given ∧ ∃ c ∈ given.toList, Text.isBlank c = false) ∨
      machine ≠ ""

/-- The options do not fulfil the demand, but all demands before it. -/
def FirstUnmet (machine : String) (options : Options) (demand : Demand) : Prop :=
  ¬demand.Met machine options ∧ ∃ earlier later, all = earlier ++ demand :: later ∧
    ∀ passed ∈ earlier, passed.Met machine options

variable {machine : String} {options : Options}

theorem met_hypertext_iff :
    hypertext.Met machine options ↔
      startsAsHypertext (withoutTrailingSlashes options.masterUrl) = true := by
  simp only [startsAsHypertext, Bool.or_eq_true, List.isPrefixOf_iff_prefix]
  constructor
  · rintro ⟨base, trimmed, starts⟩
    rw [(isUnslashed_withoutTrailingSlashes options.masterUrl).eq trimmed]
    exact starts
  · intro starts
    exact ⟨_, isUnslashed_withoutTrailingSlashes options.masterUrl, starts⟩

theorem isBlankText_eq_false_iff {text : String} :
    isBlankText text = false ↔ ∃ c ∈ text.toList, Text.isBlank c = false := by
  simp [isBlankText]

theorem met_host_iff :
    host.Met machine options ↔ (announcedHost options.host machine).isEmpty = false := by
  simp only [Met, ← isBlankText_eq_false_iff, announcedHost]
  cases options.host with
  | none => simp
  | some given =>
      by_cases blank : isBlankText given
      · simp [blank]
      · have solid : given ≠ "" := by
          rintro rfl
          exact blank rfl
        simp [blank, solid]

end Demand

/-! ### Where requests go -/

theorem Request.single_slashes (request : Request) : ¬['/', '/'] <:+: request.path.toList := by
  cases request with
  | registration message =>
      rw [path]
      decide
  | heartbeat message =>
      rw [path]
      decide

/-- Two slashes next to each other in the address of a request stand in what its path is joined
to. -/
theorem Request.doubled_slash_in_base {base : String} (unslashed : base.toList.getLast? ≠ some '/')
    (request : Request) {before after : List Char}
    (doubled : (base ++ request.path).toList = before ++ '/' :: '/' :: after) :
    before.length + 2 ≤ base.length := by
  rw [String.toList_append] at doubled
  have length : base.toList.length = base.length := String.length_toList
  by_contra outside
  by_cases joint : base.length = before.length + 1
  · have split : base.toList ++ request.path.toList = (before ++ ['/']) ++ '/' :: after := by
      rw [doubled]
      simp
    have ends := (List.append_inj split (by simp; omega)).1
    apply unslashed
    rw [ends]
    simp
  · have within : base.toList <+: before :=
      List.prefix_of_prefix_length_le ⟨_, doubled⟩ (List.prefix_append _ _) (by omega)
    rcases within with ⟨extra, rfl⟩
    rw [List.append_assoc, List.append_cancel_left_eq] at doubled
    have inside : ['/', '/'] <:+: request.path.toList := ⟨extra, after, by simp [doubled]⟩
    exact request.single_slashes inside

namespace Exchange

variable {kept : ScriptedMaster → Prop}
  (serves : ∀ master request, kept master → kept (master.serve request).2)

include serves

theorem master_keeps_follow {exchange : Exchange} (before : kept exchange.master)
    (progress : Progress) (requests : Nat) : kept (exchange.follow progress requests).2.master := by
  induction requests generalizing exchange progress with
  | zero => exact before
  | succ requests ih =>
      unfold follow
      split
      · exact before
      · next request asks =>
          have after := serves exchange.master request before
          generalize exchange.master.serve request = served at after ⊢
          rcases served with ⟨reply, master⟩
          exact @ih { exchange with master } after _

theorem master_keeps_registerUntil {exchange : Exchange} (before : kept exchange.master)
    (asked : Bool) (attempts : Nat) : kept (registerUntil asked attempts exchange).2.master := by
  induction attempts generalizing exchange with
  | zero => exact before
  | succ attempts ih =>
      have registered : kept exchange.register.2.master := serves exchange.master _ before
      unfold registerUntil
      split
      · next number after joined =>
          rw [joined] at registered
          exact registered
      · next error after refused =>
          rw [refused] at registered
          split
          · exact registered
          · exact ih registered

theorem master_keeps_beatUntil {exchange : Exchange} (before : kept exchange.master)
    (beats : Nat) : kept (beatUntil beats exchange).master := by
  induction beats generalizing exchange with
  | zero => exact before
  | succ beats ih =>
      unfold beatUntil
      split
      · exact before
      · have settled : kept exchange.settle.master := before
        exact ih (master_keeps_follow serves settled _ _)

/-- What no request takes from a master, it still has when the agent leaves service. -/
theorem master_keeps_serve {exchange : Exchange} (before : kept exchange.master) :
    kept exchange.serve.master := by
  have registered := master_keeps_registerUntil serves before false
    (exchange.master.replies.length + 1)
  unfold serve registerUntilOk
  split
  · next after refused =>
      rw [refused] at registered
      exact registered
  · next number after joined =>
      rw [joined] at registered
      exact master_keeps_beatUntil serves registered _

end Exchange

/-- The master was asked under its own address, for the path of each request. -/
structure ScriptedMaster.AskedUnder (base : String) (master : ScriptedMaster) : Prop where
  base_eq : master.base = base
  logged : ∀ sent ∈ master.log, sent.1 = Url.target (base ++ sent.2.path)

theorem ScriptedMaster.base_serve (master : ScriptedMaster) (request : Request) :
    (master.serve request).2.base = master.base := by
  unfold serve
  dsimp only
  split
  · rfl
  · split
    · rfl
    · split <;> rfl

theorem ScriptedMaster.AskedUnder.serve {base : String} (master : ScriptedMaster)
    (request : Request) (asked : master.AskedUnder base) :
    (master.serve request).2.AskedUnder base := by
  refine ⟨(master.base_serve request).trans asked.base_eq, ?_⟩
  intro sent member
  rcases master.log_serve request with same | grown
  · exact asked.logged sent (same ▸ member)
  · rw [grown, List.mem_append, List.mem_singleton] at member
    rcases member with earlier | rfl
    · exact asked.logged sent earlier
    · rw [asked.base_eq]

/-! ### Configurations -/

namespace Config

/-- The options that say what a configuration holds. -/
def options (config : Config) : Options where
  masterUrl := config.masterUrl
  poolSize := config.poolSize
  host := some config.address.host
  rpcPort := config.address.rpcPort
  dataPort := config.address.dataPort
  heartbeatIntervalMs := config.heartbeatIntervalMs
  scratchDir := config.scratchDir

/-- The configuration that options make once all demands are met. -/
def ofMet (machine : String) (options : Options) : Config where
  masterUrl := withoutTrailingSlashes options.masterUrl
  poolSize := options.poolSize
  address := ⟨announcedHost options.host machine, options.rpcPort, options.dataPort⟩
  heartbeatIntervalMs := options.heartbeatIntervalMs
  scratchDir := options.scratchDir

variable {machine : String} {options : Options} {config : Config}

/-- The options make a configuration, or they are refused for the first demand not met. -/
theorem ofOptions_cases (machine : String) (options : Options) :
    ((∀ demand : Demand, demand.Met machine options) ∧
      ofOptions machine options = .ok (ofMet machine options)) ∨
    ∃ fault demand, ofOptions machine options = .error fault ∧
      Demand.FirstUnmet machine options demand ∧ fault.field = demand.field := by
  by_cases noSlots : options.poolSize = 0
  · right
    refine ⟨.noSlots, .slots, ?_, ⟨?_, [], [.interval, .hypertext, .host], rfl, ?_⟩, rfl⟩
    · simp [ofOptions, noSlots]
    · simp [Demand.Met, noSlots]
    · simp
  have slots : Demand.slots.Met machine options := noSlots
  by_cases noInterval : options.heartbeatIntervalMs = 0
  · right
    refine ⟨.noInterval, .interval, ?_, ⟨?_, [.slots], [.hypertext, .host], rfl, ?_⟩, rfl⟩
    · simp [ofOptions, noSlots, noInterval]
    · simp [Demand.Met, noInterval]
    · simp [slots]
  have interval : Demand.interval.Met machine options := noInterval
  by_cases other : startsAsHypertext (withoutTrailingSlashes options.masterUrl) = false
  · right
    refine ⟨.notHypertext (withoutTrailingSlashes options.masterUrl), .hypertext, ?_,
      ⟨?_, [.slots, .interval], [.host], rfl, ?_⟩, rfl⟩
    · simp [ofOptions, noSlots, noInterval, other]
    · simp [Demand.met_hypertext_iff, other]
    · simp [slots, interval]
  have starts := Bool.of_not_eq_false other
  have hypertext : Demand.hypertext.Met machine options := Demand.met_hypertext_iff.mpr starts
  by_cases noHost : (announcedHost options.host machine).isEmpty = true
  · right
    refine ⟨.noHost, .host, ?_, ⟨?_, [.slots, .interval, .hypertext], [], rfl, ?_⟩, rfl⟩
    · simp [ofOptions, noSlots, noInterval, starts, noHost]
    · simp [Demand.met_host_iff, noHost]
    · simp [slots, interval, hypertext]
  have host : Demand.host.Met machine options :=
    Demand.met_host_iff.mpr (Bool.of_not_eq_true noHost)
  left
  refine ⟨?_, ?_⟩
  · intro demand
    cases demand with
    | slots => exact slots
    | interval => exact interval
    | hypertext => exact hypertext
    | host => exact host
  · simp [ofOptions, ofMet, noSlots, noInterval, starts, noHost]

theorem announcedHost_of_shown {given machine : String}
    (shown : ∃ c ∈ given.toList, Text.isBlank c = false) :
    announcedHost (some given) machine = given := by
  simp [announcedHost, Demand.isBlankText_eq_false_iff.mpr shown]

theorem announcedHost_of_blank {given : Option String} {machine : String}
    (blank : ∀ text, given = some text → ∀ c ∈ text.toList, Text.isBlank c = true) :
    announcedHost given machine = machine := by
  cases given with
  | none => rfl
  | some text =>
      have unshown : isBlankText text = true := List.all_eq_true.mpr (blank text rfl)
      simp [announcedHost, unshown]

/-- A host that was chosen is chosen again. -/
theorem announcedHost_announcedHost (given : Option String) (machine : String) :
    announcedHost (some (announcedHost given machine)) machine = announcedHost given machine := by
  cases given with
  | none => exact ite_self machine
  | some text =>
      by_cases blank : isBlankText text <;> simp [announcedHost, blank]

/-- A configuration stands for options that make it. -/
theorem ofOptions_options (accepted : ofOptions machine options = .ok config) :
    ofOptions machine config.options = .ok config := by
  rcases ofOptions_cases machine options with ⟨met, made⟩ | ⟨fault, demand, refused, -⟩
  · cases made.symm.trans accepted
    have trimmed := isUnslashed_withoutTrailingSlashes options.masterUrl
    have url := withoutTrailingSlashes_of_unslashed trimmed.unslashed
    have host := announcedHost_announcedHost options.host machine
    simpa only [ofOptions, ofMet, Config.options, url, host] using accepted
  · cases refused.symm.trans accepted

theorem askedUnder_of_serve {figures : MachineFigures} {files : FileTree} {reachable : Bool}
    {replies : List Reply} {exchange : Exchange}
    (served : config.serve figures files reachable replies = .ok exchange) :
    exchange.master.AskedUnder config.masterUrl := by
  unfold serve at served
  cases made : Agent.ofConfig? config figures files with
  | error fault =>
      rw [made] at served
      cases served
  | ok agent =>
      rw [made] at served
      rw [← Except.ok.inj served]
      apply Exchange.master_keeps_serve ScriptedMaster.AskedUnder.serve
      refine ⟨rfl, ?_⟩
      intro sent member
      cases member

/-- Options make a configuration exactly if they meet every demand, and a refusal names the field
of the first demand that they do not meet. The configuration has the longest beginning of the
address of the master that does not end in a slash; everything else stands in it as it was given,
but for a host that is missing or blank, in whose place stands the name of the machine. Requests
are sent to addresses without a doubled slash after that beginning, and the configuration taken
for options makes itself. -/
theorem validation (machine : String) (options : Options) :
    ((∃ config, ofOptions machine options = .ok config) ↔
      ∀ demand : Demand, demand.Met machine options) ∧
    (∀ fault, ofOptions machine options = .error fault →
      ∃ demand, Demand.FirstUnmet machine options demand ∧ fault.field = demand.field) ∧
    (∀ config, ofOptions machine options = .ok config →
      (IsUnslashed config.masterUrl options.masterUrl ∧
        config.poolSize = options.poolSize ∧
        config.heartbeatIntervalMs = options.heartbeatIntervalMs ∧
        config.scratchDir = options.scratchDir ∧
        config.address.rpcPort = options.rpcPort ∧ config.address.dataPort = options.dataPort ∧
        (∀ given, options.host = some given → (∃ c ∈ given.toList, Text.isBlank c = false) →
          config.address.host = given) ∧
        ((∀ given, options.host = some given → ∀ c ∈ given.toList, Text.isBlank c = true) →
          config.address.host = machine)) ∧
      ((∀ figures files reachable replies exchange,
          config.serve figures files reachable replies = .ok exchange →
          ∀ sent ∈ exchange.master.log,
            sent.1 = Url.target (config.masterUrl ++ sent.2.path)) ∧
        ∀ (request : Request) before after,
          (config.masterUrl ++ request.path).toList = before ++ '/' :: '/' :: after →
          before.length + 2 ≤ config.masterUrl.length) ∧
      ofOptions machine config.options = .ok config) := by
  refine ⟨⟨?_, ?_⟩, ?_, ?_⟩
  · rintro ⟨config, accepted⟩
    rcases ofOptions_cases machine options with ⟨met, -⟩ | ⟨fault, demand, refused, -⟩
    · exact met
    · cases refused.symm.trans accepted
  · intro met
    rcases ofOptions_cases machine options with ⟨-, made⟩ | ⟨fault, demand, -, unmet, -⟩
    · exact ⟨_, made⟩
    · exact absurd (met demand) unmet.1
  · intro fault refused
    rcases ofOptions_cases machine options with ⟨-, made⟩ | ⟨first, demand, found, unmet, field⟩
    · cases made.symm.trans refused
    · cases found.symm.trans refused
      exact ⟨demand, unmet, field⟩
  · intro config accepted
    have again := ofOptions_options accepted
    rcases ofOptions_cases machine options with ⟨-, made⟩ | ⟨fault, demand, refused, -⟩
    · cases made.symm.trans accepted
      have trimmed := isUnslashed_withoutTrailingSlashes options.masterUrl
      refine ⟨⟨trimmed, rfl, rfl, rfl, rfl, rfl, ?_, ?_⟩, ⟨?_, ?_⟩, again⟩
      · intro given chosen shown
        have host : announcedHost (some given) machine = given := announcedHost_of_shown shown
        rw [← chosen] at host
        exact host
      · intro blank
        exact announcedHost_of_blank blank
      · intro figures files reachable replies exchange served
        exact (askedUnder_of_serve served).logged
      · intro request before after doubled
        exact request.doubled_slash_in_base trimmed.unslashed doubled
    · cases refused.symm.trans accepted

/-- An address with slashes at its end, to be announced under the name of the machine. -/
def slashedAddress : Options := { masterUrl := "https://master//", host := some " " }

/-- The slashes go and the name of the machine is taken; an address of nothing but a scheme loses
too much to be one. -/
theorem validation_slashedAddress :
    (∃ config, ofOptions "w1" slashedAddress = .ok config ∧
      config.masterUrl = "https://master" ∧ config.address.host = "w1" ∧
      ofOptions "w1" config.options = .ok config) ∧
    ∃ demand,
      Demand.FirstUnmet "w1" { slashedAddress with masterUrl := "http:///" } demand ∧
      demand.field = "master_url" := by
  refine ⟨?_, ?_⟩
  · rcases validation "w1" slashedAddress with ⟨-, -, made⟩
    have accepted : ∃ config, ofOptions "w1" slashedAddress = .ok config ∧
        config.masterUrl = "https://master" := ⟨_, rfl, by decide⟩
    rcases accepted with ⟨config, accepted, url⟩
    rcases made config accepted with ⟨⟨-, -, -, -, -, -, -, blank⟩, -, again⟩
    have unshown : ∀ text, slashedAddress.host = some text →
        ∀ c ∈ text.toList, Text.isBlank c = true := by
      rintro text ⟨⟩
      exact List.all_eq_true.mp rfl
    exact ⟨config, accepted, url, blank unshown, again⟩
  · rcases validation "w1" { slashedAddress with masterUrl := "http:///" } with ⟨-, refused, -⟩
    rcases refused _ rfl with ⟨demand, unmet, field⟩
    exact ⟨demand, unmet, field.symm⟩

end Config

end TaskAgent
