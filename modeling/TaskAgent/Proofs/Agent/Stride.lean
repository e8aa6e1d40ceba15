import TaskAgent.Proofs.Agent.Rest
import TaskAgent.Proofs.Agent.Trace
import TaskAgent.Proofs.Worker.Stride

/-!
# Agents make whole strides

An agent lets the first runner move that can. A runner that leaves the queue was the first, and as
it makes no other runner move (`Agent.Leads.step`) it stays the first until it gives way. So what a
worker does in a session is a run in strides (`Session.exists_strides`): in a session a slot is
taken and the job looked up in one go.
-/

namespace TaskAgent

/-- The runner has left the queue and not started yet. -/
def Runner.IsDue (runner : Runner) : Prop := runner.stage = .admitted ∨ runner.stage = .refused

theorem Runner.Lives.not_isDue {registry : Registry} {number : Nat} {event : Event}
    {runner moved : Runner} (lives : Lives registry number event runner moved)
    (stays : event ≠ .grant number ∧ event ≠ .refuse number) (calm : ¬runner.IsDue) :
    ¬moved.IsDue := by
  cases lives with
  | untouched alien => exact calm
  | interrupted => exact calm
  | granted waits => exact absurd rfl stays.1
  | refused waits => exact absurd rfl stays.2
  | started stepped =>
      rcases Works.start_cases stepped with ⟨stage, -⟩ | ⟨stage, -⟩ | ⟨due, -⟩
      · exact absurd (Or.inl stage) calm
      · exact absurd (Or.inr stage) calm
      · exact absurd due calm
  | entered stepped =>
      rcases Works.change_cases stepped with ⟨-, rfl⟩
      exact calm
  | left stepped =>
      rcases Works.change_cases stepped with ⟨-, rfl⟩
      exact calm
  | finished stepped =>
      rcases Works.finish_cases stepped with ⟨-, rfl⟩
      simp [IsDue]
  | committed stepped =>
      rcases Works.commit_cases stepped with ⟨outcome, -, ⟨-, rfl⟩ | ⟨-, -, rfl⟩⟩ <;> simp [IsDue]
  | reported stage => simp [IsDue]
  | gone stage => simp [IsDue]

namespace Worker

variable {worker changed : Worker} {event : Event} {events : List Event} {number place : Nat}
  {runner : Runner}

/-- Every runner that has left the queue has started. -/
def IsCalm (worker : Worker) : Prop :=
  ∀ {number : Nat} {runner : Runner}, worker.runners[number]? = some runner → ¬runner.IsDue

theorem IsCalm.step (calm : worker.IsCalm) (stepped : worker.step? event = some changed)
    (stays : ∀ number, event ≠ .grant number ∧ event ≠ .refuse number) : changed.IsCalm := by
  intro number runner found
  cases foundBefore : worker.runners[number]? with
  | none =>
      rcases ofSubmission_of_step? stepped foundBefore found with ⟨-, submission, rfl⟩
      simp [Runner.IsDue, Runner.ofSubmission]
  | some old =>
      rcases lives_of_step? stepped foundBefore with ⟨moved, foundAfter, lives⟩
      cases found.symm.trans foundAfter
      exact lives.not_isDue (stays number) (calm foundBefore)

/-- What is asked for is a stride of its own. -/
theorem IsCalm.exists_strides (calm : worker.IsCalm) (opens : event.opens = true)
    (stays : ∀ number, event ≠ .grant number ∧ event ≠ .refuse number)
    (stepped : worker.step? event = some changed) :
    ∃ strides, worker.events strides = [event] ∧ changed.IsCalm := by
  refine ⟨[⟨event, opens⟩], ?_, calm.step stepped stays⟩
  rw [events_singleton, events_of_step? stepped, onset_eq_nil stays]

/-- Nobody starts where every runner has started. -/
theorem IsCalm.ne_start (calm : worker.IsCalm) (stepped : worker.step? event = some changed) :
    event ≠ .start number := by
  rintro rfl
  rcases exists_of_changeRunner? stepped with ⟨runner, moved, found, starts, -⟩
  rcases Runner.Works.start_cases starts with ⟨stage, -⟩ | ⟨stage, -⟩ | ⟨due, -⟩
  · exact calm found (Or.inl stage)
  · exact calm found (Or.inr stage)
  · exact calm found due

theorem getElem?_of_movers (ran : worker.run? events = some changed)
    (own : ∀ event ∈ events, event.mover? = some number) (differs : number ≠ place) :
    changed.runners[place]? = worker.runners[place]? := by
  induction events generalizing worker with
  | nil =>
      cases ran
      rfl
  | cons event rest ih =>
      rcases exists_of_run?_cons ran with ⟨middle, stepped, ran⟩
      rcases exists_set_of_mover? stepped (own event List.mem_cons_self) with ⟨after, runners⟩
      rw [ih ran fun other inRest => own other (List.mem_cons_of_mem _ inRest), runners,
        List.getElem?_set_ne differs]

/-- One runner leaves the queue and starts. -/
theorem IsCalm.leave (calm : worker.IsCalm) (ran : worker.run? events = some changed)
    (own : ∀ event ∈ events, event.mover? = some number)
    (found : changed.runners[number]? = some runner) (undue : ¬runner.IsDue) :
    changed.IsCalm := by
  intro place other foundOther
  by_cases same : number = place
  · subst same
    cases found.symm.trans foundOther
    exact undue
  · rw [getElem?_of_movers ran own same] at foundOther
    exact calm foundOther

/-- Only a runner that leaves gives a slot back. -/
theorem available_le_of_mover? (stepped : worker.step? event = some changed)
    (mover : event.mover? = some number) (stays : event ≠ .exit number) :
    changed.pool.available ≤ worker.pool.available := by
  cases event <;> simp only [Event.mover?, Option.some.injEq, reduceCtorEq] at mover <;>
    subst mover
  case grant =>
    rcases exists_of_grant? stepped with ⟨runner, -, -, -, -, rfl⟩
    exact Nat.sub_le _ 1
  case refuse =>
    rcases exists_of_refuse? stepped with ⟨runner, -, -, -, rfl⟩
    exact Nat.le_refl _
  case report =>
    rcases exists_of_report? stepped with ⟨runner, outcome, -, -, rfl⟩
    exact Nat.le_refl _
  case exit => exact absurd rfl stays
  all_goals
    rcases exists_of_changeRunner? stepped with ⟨runner, moved, -, -, rfl⟩
    exact Nat.le_refl _

end Worker

namespace Agent

variable {agent moved changed final other : Agent} {number place : Nat} {runner : Runner}
  {event : Event} {events later : List Event} {stride : Stride} {patient : Bool}

/-! ### The moves until an agent settles -/

theorem eventsUpTo_congr {first second : Nat} (enough : agent.cost ≤ first)
    (enoughThere : agent.cost ≤ second) :
    eventsUpTo patient first agent = eventsUpTo patient second agent ∧
      moveUpTo patient first agent = moveUpTo patient second agent := by
  induction first generalizing agent second with
  | zero =>
      cases stepped : agent.step? patient with
      | none => cases second <;> simp [eventsUpTo, moveUpTo, stepped]
      | some moved =>
          have lower := cost_lt_of_step? stepped
          omega
  | succ first ih =>
      cases stepped : agent.step? patient with
      | none => cases second <;> simp [eventsUpTo, moveUpTo, stepped]
      | some moved =>
          have lower := cost_lt_of_step? stepped
          cases second with
          | zero => omega
          | succ second =>
              have rest : eventsUpTo patient first moved = eventsUpTo patient second moved ∧
                  moveUpTo patient first moved = moveUpTo patient second moved :=
                ih (by omega) (by omega)
              simp [eventsUpTo, moveUpTo, stepped, rest]

/-- On its way to rest an agent comes past another one, after these steps of its worker. -/
structure Reaches (agent : Agent) (events : List Event) (changed : Agent) : Prop where
  events_eq : agent.settleEvents = events ++ changed.settleEvents
  settle_eq : agent.settle = changed.settle
  run? : agent.worker.run? events = some changed.worker
  cost_le : changed.cost ≤ agent.cost

theorem Reaches.trans (earlier : agent.Reaches events changed)
    (reaches : changed.Reaches later final) : agent.Reaches (events ++ later) final where
  events_eq := by rw [earlier.events_eq, reaches.events_eq, List.append_assoc]
  settle_eq := earlier.settle_eq.trans reaches.settle_eq
  run? := by rw [Worker.run?_append, earlier.run?, Option.bind_some, reaches.run?]
  cost_le := Nat.le_trans reaches.cost_le earlier.cost_le

theorem reaches_of_step? (stepped : agent.step? false = some moved) :
    agent.Reaches (agent.stepEvents false) moved := by
  have lower := cost_lt_of_step? stepped
  rcases Nat.exists_eq_succ_of_ne_zero (Nat.ne_of_gt (Nat.zero_lt_of_lt lower)) with ⟨rest, cost⟩
  have same : eventsUpTo false rest moved = moved.settleEvents ∧
      moveUpTo false rest moved = moved.settle := eventsUpTo_congr (by omega) (Nat.le_refl _)
  refine ⟨?_, ?_, (course_step? stepped).run?, Nat.le_of_lt lower⟩
  · rw [settleEvents, cost, eventsUpTo, stepped, ← same.1]
  · rw [settle, cost, moveUpTo, stepped, ← same.2]

theorem reaches_of_first (first : agent.mover? = some number)
    (moves : agent.move? number = some moved) :
    agent.Reaches (agent.event? number).toList moved := by
  have ready : agent.ready false = agent := by simp [Agent.ready, first]
  have stepped : agent.step? false = some moved := by simp [step?_eq, ready, first, moves]
  have reaches := reaches_of_step? stepped
  rwa [stepEvents, ready, first, Option.bind_some] at reaches

/-! ### Who goes on as the first -/

/-- Nobody before this runner can move. -/
def Leads (agent : Agent) (number : Nat) : Prop := ∀ before < number, agent.move? before = none

theorem leads_of_mover? (first : agent.mover? = some number) : agent.Leads number := by
  intro before earlier
  have still := (List.find?_range_eq_some.mp first).2.2 before earlier
  simpa using still

theorem Leads.mover?_eq (leads : agent.Leads number) (moves : agent.move? number = some moved) :
    agent.mover? = some number := by
  refine List.find?_range_eq_some.mpr ⟨by simp [moves], ?_, ?_⟩
  · exact List.mem_range.mpr (inside_of_move? moves)
  · intro before earlier
    simp [leads before earlier]

/-- Whoever cannot move waits in an open pool without a free slot, does its job or has left. -/
theorem cases_of_move?_eq_none (found : agent.worker.runners[number]? = some runner)
    (still : agent.move? number = none) :
    (runner.stage = .waiting ∧ agent.worker.pool.closed = false ∧
        agent.worker.pool.available = 0) ∨
      (∃ definition, runner.stage = .working definition) ∨ runner.stage = .gone := by
  simp only [move?, found] at still
  cases stage : runner.stage with
  | waiting =>
      have waiting : runner.isWaiting = true := Runner.isWaiting_eq_true_iff.mpr stage
      cases closed : agent.worker.pool.closed with
      | true => simp [moveAt?, stage, withWorker?, Worker.refuse?, found, waiting, closed] at still
      | false =>
          refine Or.inl ⟨rfl, rfl, ?_⟩
          simpa [moveAt?, stage, withWorker?, Worker.grant?, found, waiting, closed] using still
  | working definition => exact Or.inr (Or.inl ⟨definition, rfl⟩)
  | gone => exact Or.inr (Or.inr rfl)
  | admitted =>
      rw [stage] at still
      exact absurd still (start?_ne_none found (Or.inl stage))
  | refused =>
      rw [stage] at still
      exact absurd still (start?_ne_none found (Or.inr stage))
  | ended outcome =>
      simp only [stage, moveAt?, withWorker?, Worker.commit?, Worker.changeRunner?, found,
        Option.map_eq_none_iff] at still
      exact absurd still (Runner.commit?_ne_none stage)
  | reporting outcome => simp [stage, moveAt?, withWorker?, Worker.report?, found] at still
  | leaving => simp [stage, moveAt?, withWorker?, Worker.exit?, found] at still

/-- A runner that cannot move is not set going by what happens elsewhere, unless a slot becomes
free or the pool is closed. -/
theorem move?_eq_none_of_elsewhere (still : agent.move? place = none)
    (runners : other.worker.runners[place]? = agent.worker.runners[place]?)
    (computing : other.computations.find? place = agent.computations.find? place)
    (world : other.world = agent.world)
    (closed : other.worker.pool.closed = agent.worker.pool.closed)
    (available : other.worker.pool.available ≤ agent.worker.pool.available) :
    other.move? place = none := by
  cases found : agent.worker.runners[place]? with
  | none => simp [move?, runners, found]
  | some runner =>
      rw [found] at runners
      rcases cases_of_move?_eq_none found still with
        ⟨stage, opened, occupied⟩ | ⟨definition, stage⟩ | stage
      · have full : other.worker.pool.available = 0 := by omega
        simp [move?, runners, stage, moveAt?, closed, opened, withWorker?, Worker.grant?, full]
      · simp only [move?, runners, stage, moveAt?, work?, computing]
        cases computes : agent.computations.find? place with
        | none => rfl
        | some computation =>
            rcases held_of_move?_eq_none found stage computes still with ⟨unended, stuck⟩
            simp [unended, advance?, world, stuck]
      · simp [move?, runners, stage, moveAt?]

theorem Moved.world_eq {event : Option Event} (moves : agent.Moved number runner event moved)
    (idle : runner.isWorking = false) : moved.world = agent.world := by
  cases moves with
  | served => rfl
  | begun => rfl
  | ended => rfl
  | advanced works => simp [Runner.isWorking, works] at idle

/-- A runner whose job does not run makes no other runner move, before it gives its slot back. -/
theorem Leads.step (leads : agent.Leads number) (moves : agent.move? number = some moved)
    (found : agent.worker.runners[number]? = some runner) (idle : runner.isWorking = false)
    (tells : agent.event? number = some event) (stays : event ≠ .exit number) :
    moved.Leads number := by
  intro before earlier
  rcases exists_of_move? moves with ⟨again, foundAgain, moves⟩
  cases found.symm.trans foundAgain
  have world := moves.world_eq idle
  rw [tells] at moves
  have ran := moves.run?
  rcases Worker.exists_of_run?_cons ran with ⟨worker, stepped, same⟩
  cases same
  have mover := moves.mover?_eq
  have elsewhere : moved.worker.runners[before]? = agent.worker.runners[before]? := by
    rcases (moves.exists_set found).2 with ⟨after, runners⟩
    rw [runners, List.getElem?_set_ne (Nat.ne_of_gt earlier)]
  exact move?_eq_none_of_elsewhere (leads before earlier) elsewhere
    (moves.find?_computations (Nat.ne_of_gt earlier)) world
    (Worker.closed_of_mover? stepped mover) (Worker.available_le_of_mover? stepped mover stays)

/-- Who is first makes its next move, and is still first after it unless it has left. -/
theorem Leads.serve (leads : agent.Leads number)
    (found : agent.worker.runners[number]? = some runner) (idle : runner.isWorking = false)
    (tells : agent.event? number = some event) (mobile : agent.move? number ≠ none) :
    ∃ moved after, agent.Reaches [event] moved ∧ moved.worker.runners[number]? = some after ∧
      Runner.Lives agent.worker.registry number event runner after ∧
        (event ≠ .exit number → moved.Leads number) := by
  rcases Option.ne_none_iff_exists'.mp mobile with ⟨moved, moves⟩
  have reaches := reaches_of_first (leads.mover?_eq moves) moves
  rw [tells, Option.toList_some] at reaches
  rcases Worker.exists_of_run?_cons reaches.run? with ⟨worker, stepped, same⟩
  cases same
  rcases Worker.lives_of_step? stepped found with ⟨after, foundAfter, lives⟩
  exact ⟨moved, after, reaches, foundAfter, lives, leads.step moves found idle tells⟩

theorem Leads.reaches_exit (leads : agent.Leads number)
    (found : agent.worker.runners[number]? = some runner) (stage : runner.stage = .leaving) :
    ∃ changed after, agent.Reaches [.exit number] changed ∧
      changed.worker.runners[number]? = some after ∧ after.stage = .gone := by
  have tells : agent.event? number = some (.exit number) := by simp [event?, found, eventAt?, stage]
  have mobile : agent.move? number ≠ none := fun still => by
    simpa [stage] using cases_of_move?_eq_none found still
  rcases leads.serve found (by simp [Runner.isWorking, stage]) tells mobile with
    ⟨changed, after, reaches, foundAfter, lives, -⟩
  refine ⟨changed, after, reaches, foundAfter, ?_⟩
  cases lives with
  | untouched alien => exact absurd rfl alien
  | gone stage => rfl

theorem Leads.reaches_report {outcome : Outcome} (leads : agent.Leads number)
    (found : agent.worker.runners[number]? = some runner) (stage : runner.stage = .ended outcome)
    (signal : runner.signal = .running) :
    ∃ changed after, agent.Reaches [.commit number, .report number, .exit number] changed ∧
      changed.worker.runners[number]? = some after ∧ after.stage = .gone := by
  have commits : agent.event? number = some (.commit number) := by
    simp [event?, found, eventAt?, stage]
  have mobile : agent.move? number ≠ none := fun still => by
    simpa [stage] using cases_of_move?_eq_none found still
  rcases leads.serve found (by simp [Runner.isWorking, stage]) commits mobile with
    ⟨bound, binding, committed, foundBound, lives, leadsBound⟩
  have bindingStage : binding.stage = .reporting outcome := by
    cases lives with
    | untouched alien => exact absurd rfl alien
    | committed stepped =>
        rcases Runner.Works.commit_cases stepped with
          ⟨ended, stageAgain, ⟨-, rfl⟩ | ⟨unset, -⟩⟩
        · cases stage.symm.trans stageAgain
          rfl
        · exact absurd signal unset
  have reports : bound.event? number = some (.report number) := by
    simp [event?, foundBound, eventAt?, bindingStage]
  have mobileBound : bound.move? number ≠ none := fun still => by
    simpa [bindingStage] using cases_of_move?_eq_none foundBound still
  rcases (leadsBound (by simp)).serve foundBound (by simp [Runner.isWorking, bindingStage]) reports
    mobileBound with ⟨reported, leaving, reporting, foundReported, lives, leadsReported⟩
  have leavingStage : leaving.stage = .leaving := by
    cases lives with
    | untouched alien => exact absurd rfl alien
    | reported stage => rfl
  rcases (leadsReported (by simp)).reaches_exit foundReported leavingStage with
    ⟨changed, after, exiting, foundAfter, gone⟩
  exact ⟨changed, after, (committed.trans reporting).trans exiting, foundAfter, gone⟩

/-- A runner that has left the queue goes on until its job runs or it has left. -/
theorem Leads.reaches_onset (leads : agent.Leads number)
    (found : agent.worker.runners[number]? = some runner)
    (due : runner.IsDue) :
    ∃ changed after, agent.Reaches (runner.onset agent.worker.registry number) changed ∧
      changed.worker.runners[number]? = some after ∧ ¬after.IsDue := by
  have tells : agent.event? number = some (.start number) := by
    rcases due with stage | stage <;> simp [event?, found, eventAt?, stage]
  have idle : runner.isWorking = false := by
    rcases due with stage | stage <;> simp [Runner.isWorking, stage]
  have mobile : agent.move? number ≠ none := fun still => by
    have cases := cases_of_move?_eq_none found still
    rcases due with stage | stage <;> simp [stage] at cases
  rcases leads.serve found idle tells mobile with
    ⟨begun, moved, started, foundBegun, lives, leadsBegun⟩
  have leadsBegun := leadsBegun (by simp)
  cases lives with
  | untouched alien => exact absurd rfl alien
  | started stepped =>
      rcases Runner.onset_cases stepped number with
        ⟨⟨definition, stage⟩, onset⟩ | ⟨outcome, stage, signal, onset⟩ | ⟨stage, onset⟩
      · rw [onset]
        exact ⟨begun, moved, started, foundBegun, by simp [Runner.IsDue, stage]⟩
      · rcases leadsBegun.reaches_report foundBegun stage signal with
          ⟨changed, after, reaches, foundAfter, gone⟩
        rw [onset]
        exact ⟨changed, after, started.trans reaches, foundAfter, by simp [Runner.IsDue, gone]⟩
      · rcases leadsBegun.reaches_exit foundBegun stage with
          ⟨changed, after, reaches, foundAfter, gone⟩
        rw [onset]
        exact ⟨changed, after, started.trans reaches, foundAfter, by simp [Runner.IsDue, gone]⟩

/-! ### An agent settles in strides -/

theorem ready_worker (patient : Bool) (agent : Agent) :
    (agent.ready patient).worker = agent.worker := by
  rcases agent.ready_cases patient with same | ⟨time, same⟩ <;> rw [same]
  rfl

/-- A way to rest that begins with a stride. -/
theorem Reaches.exists_strides (reaches : agent.Reaches (stride.events agent.worker) changed)
    (rest : ∃ strides, changed.worker.events strides = changed.settleEvents ∧
      changed.settle.worker.IsCalm) :
    ∃ strides, agent.worker.events strides = agent.settleEvents ∧ agent.settle.worker.IsCalm := by
  rcases rest with ⟨strides, events, calm⟩
  refine ⟨stride :: strides, ?_, reaches.settle_eq ▸ calm⟩
  rw [Worker.events, reaches.run?, reaches.events_eq, ← events]

/-- A runner leaves the queue and does the rest of its stride. -/
theorem Reaches.leave (calm : agent.worker.IsCalm) (reaches : agent.Reaches [event] moved)
    (leads : moved.Leads number) (leaves : event = .grant number ∨ event = .refuse number) :
    ∃ stride : Stride, ∃ changed, agent.Reaches (stride.events agent.worker) changed ∧
      changed.cost ≤ moved.cost ∧ changed.worker.IsCalm := by
  rcases Worker.exists_of_run?_cons reaches.run? with ⟨worker, stepped, same⟩
  cases same
  have mover : event.mover? = some number := by rcases leaves with rfl | rfl <;> rfl
  have opens : event.opens = true := by rcases leaves with rfl | rfl <;> rfl
  rcases Worker.exists_of_mover? stepped mover with ⟨runner, found⟩
  rcases Worker.lives_of_step? stepped found with ⟨after, foundAfter, lives⟩
  have due : after.IsDue := by
    cases lives with
    | untouched alien => exact absurd mover alien
    | granted waits => exact Or.inl rfl
    | refused waits => exact Or.inr rfl
    | _ => simp at leaves
  rcases leads.reaches_onset foundAfter due with ⟨changed, last, goesOn, foundLast, undue⟩
  have events : (⟨event, opens⟩ : Stride).events agent.worker =
      [event] ++ after.onset moved.worker.registry number := by
    rw [Worker.events_of_step? stepped, Worker.onset_of_found leaves foundAfter]
    rfl
  have whole := reaches.trans goesOn
  refine ⟨⟨event, opens⟩, changed, events ▸ whole, goesOn.cost_le, ?_⟩
  refine calm.leave whole.run? ?_ foundLast undue
  intro other member
  rcases List.mem_append.mp member with here | later
  · rw [List.mem_singleton.mp here, mover]
  · exact Runner.mover?_of_mem_onset later

/-- The next thing an agent does is nothing to its worker or a whole stride. -/
theorem exists_stride_of_step? (calm : agent.worker.IsCalm)
    (stepped : agent.step? false = some moved) :
    (agent.Reaches [] moved ∧ moved.worker = agent.worker) ∨
      ∃ stride : Stride, ∃ changed, agent.Reaches (stride.events agent.worker) changed ∧
        changed.cost ≤ moved.cost ∧ changed.worker.IsCalm := by
  have reaches := reaches_of_step? stepped
  rcases exists_of_step? stepped with ⟨number, first, moves⟩
  rcases exists_of_move? moves with ⟨runner, found, moving⟩
  rw [stepEvents, first, Option.bind_some] at reaches
  cases tells : (agent.ready false).event? number with
  | none =>
      rw [tells] at reaches
      exact Or.inl ⟨reaches, (Option.some.inj reaches.run?).symm⟩
  | some event =>
      rw [tells] at reaches moving
      rcases Worker.exists_of_run?_cons reaches.run? with ⟨worker, strode, same⟩
      cases same
      have mover := moving.mover?_eq
      refine Or.inr ?_
      by_cases leaves : event = .grant number ∨ event = .refuse number
      · rw [ready_worker] at found
        have idle : runner.isWorking = false := by
          have waits := Worker.waits_of_leaves strode leaves found
          simp [Runner.isWorking, waits]
        have stays : event ≠ .exit number := by rcases leaves with rfl | rfl <;> simp
        have leads := (leads_of_mover? first).step moves (ready_worker false agent ▸ found) idle
          tells stays
        exact reaches.leave calm leads leaves
      · have stays : ∀ place, event ≠ .grant place ∧ event ≠ .refuse place := by
          refine fun place => ⟨?_, ?_⟩
          · rintro rfl
            exact leaves (Or.inl (congrArg Event.grant (Option.some.inj mover)))
          · rintro rfl
            exact leaves (Or.inr (congrArg Event.refuse (Option.some.inj mover)))
        have opens : event.opens = true := by
          cases event with
          | start place => exact absurd rfl (calm.ne_start strode)
          | complete key result => cases mover
          | fail key message => cases mover
          | _ => rfl
        have events : (⟨event, opens⟩ : Stride).events agent.worker = [event] := by
          rw [Worker.events_of_step? strode, Worker.onset_eq_nil stays]
        exact ⟨⟨event, opens⟩, moved, events ▸ reaches, Nat.le_refl _, calm.step strode stays⟩

theorem exists_strides_settle (calm : agent.worker.IsCalm) :
    ∃ strides, agent.worker.events strides = agent.settleEvents ∧ agent.settle.worker.IsCalm := by
  induction cost : agent.cost using Nat.strongRecOn generalizing agent with
  | ind cost ih =>
      subst cost
      cases stepped : agent.step? false with
      | none =>
          have rests : agent.settleEvents = [] ∧ agent.settle = agent := by
            unfold settleEvents settle
            cases agent.cost <;> simp [eventsUpTo, moveUpTo, stepped]
          exact ⟨[], rests.1.symm, rests.2.symm ▸ calm⟩
      | some moved =>
          have lower := cost_lt_of_step? stepped
          rcases exists_stride_of_step? calm stepped with
            ⟨reaches, same⟩ | ⟨stride, changed, reaches, cost, calmAfter⟩
          · rcases ih moved.cost lower (same ▸ calm) rfl with ⟨strides, events, calmAfter⟩
            refine ⟨strides, ?_, reaches.settle_eq ▸ calmAfter⟩
            rw [reaches.events_eq, ← same, events]
            rfl
          · exact reaches.exists_strides (ih changed.cost (by omega) calmAfter rfl)

end Agent

namespace Session

variable {session : Session} {action : Action} {actions : List Action}

theorem exists_strides_perform (alone : action.isLocal = true)
    (own : action.isDeclaration = false) (calm : session.agent.worker.IsCalm) :
    ∃ strides, session.agent.worker.events strides = session.events action ∧
      (session.perform action).2.agent.worker.IsCalm := by
  cases action with
  | submit submission => exact calm.exists_strides rfl (by simp) rfl
  | settle => exact Agent.exists_strides_settle calm
  | release gate =>
      rcases Agent.exists_strides_settle calm with ⟨before, events, settled⟩
      have opened : (session.agent.settle.openGate gate).worker.IsCalm := settled
      rcases Agent.exists_strides_settle opened with ⟨after, later, calmAfter⟩
      refine ⟨before ++ after, ?_, calmAfter⟩
      have ran := session.agent.course_settle.run?
      rw [← events] at ran
      rw [Worker.events_append ran, events]
      exact congrArg _ later
  | cancel key => exact calm.exists_strides rfl (by simp) rfl
  | drain name => cases name <;> exact calm.exists_strides rfl (by simp) rfl
  | restore records => exact calm.exists_strides rfl (by simp) rfl
  | restoreKept name => exact calm.exists_strides rfl (by simp) rfl
  | unfinished => exact ⟨[], rfl, calm⟩
  | address => exact ⟨[], rfl, calm⟩
  | close => exact calm.exists_strides rfl (by simp) rfl
  | registerJob name definition => exact calm.exists_strides rfl (by simp) rfl
  | jobNames => exact ⟨[], rfl, calm⟩
  | complete key result => cases own
  | fail key message => cases own
  | _ => cases alone

/-- What a worker does in a session is a run in strides. -/
theorem exists_strides (alone : ∀ action ∈ actions, action.isLocal = true)
    (own : ∀ action ∈ actions, action.isDeclaration = false)
    (calm : session.agent.worker.IsCalm) :
    ∃ strides, session.agent.worker.events strides = session.trace actions := by
  induction actions generalizing session with
  | nil => exact ⟨[], rfl⟩
  | cons action rest ih =>
      have aloneFirst := alone action List.mem_cons_self
      rcases exists_strides_perform aloneFirst (own action List.mem_cons_self) calm with
        ⟨before, events, calmAfter⟩
      rcases ih (fun other inRest => alone other (List.mem_cons_of_mem _ inRest))
        (fun other inRest => own other (List.mem_cons_of_mem _ inRest)) calmAfter with
        ⟨after, later⟩
      have course : session.agent.Course (session.events action)
          (session.perform action).2.agent := course_perform aloneFirst
      have ran := course.run?
      rw [← events] at ran
      refine ⟨before ++ after, ?_⟩
      rw [Worker.events_append ran, events, later]
      rfl

end Session

end TaskAgent
