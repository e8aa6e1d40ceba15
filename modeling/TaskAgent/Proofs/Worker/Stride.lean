import TaskAgent.Proofs.Worker.Conservation
import TaskAgent.Proofs.Worker.InFlight

/-!
# Strides

In a run anything may come between two events. A runner gives way only where it waits, for a slot
or for its job: once it has left the queue it starts at once and, unless it has a job to do,
reports that and leaves, before anybody else gets a turn. What is done in one turn is a stride
(`Stride.events`): an event, and what a runner does on its own if it leaves the queue with it. In
particular a slot is taken in one stride (`Stride.take`), in which the job is looked up and, if
there is none, the task is done with.

A run in strides is a run of the events in them (`Worker.events`), so every law of runs holds of it,
and whoever can be given a slot can take it (`Worker.exists_run?_take`).
-/

namespace TaskAgent

/-- Whether a turn may begin with an event. Runners start when they leave the queue and not in a
turn of their own, and how tasks end is not declared from outside. -/
def Event.opens : Event → Bool
  | start _ | complete _ _ | fail _ _ => false
  | _ => true

/-- What is done in one turn, told by the event that it begins with. -/
structure Stride where
  event : Event
  opens : event.opens = true := by rfl

/-- A runner takes a slot. -/
abbrev Stride.take (number : Nat) : Stride := ⟨.grant number, rfl⟩

/-- What a runner that has left the queue does before it gives way: it starts, and unless its job
begins it reports, if there is something to report, and leaves. -/
def Runner.onset (registry : Registry) (number : Nat) (runner : Runner) : List Event :=
  match (runner.start? registry).map Runner.stage with
  | some (.working _) => [.start number]
  | some (.ended _) => [.start number, .commit number, .report number, .exit number]
  | _ => [.start number, .exit number]

/-- What is done after an event in the same turn. -/
def Worker.onset (worker : Worker) : Event → List Event
  | .grant number | .refuse number =>
    match worker.runners[number]? with
    | some runner => runner.onset worker.registry number
    | none => []
  | _ => []

/-- The events in a stride. -/
def Stride.events (worker : Worker) (stride : Stride) : List Event :=
  match worker.step? stride.event with
  | some changed => stride.event :: changed.onset stride.event
  | none => [stride.event]

/-- The events in strides that are made one after the other, up to one that cannot be made. -/
def Worker.events (worker : Worker) : List Stride → List Event
  | [] => []
  | stride :: rest =>
    match worker.run? (stride.events worker) with
    | some changed => stride.events worker ++ changed.events rest
    | none => stride.events worker

/-- A runner that has left the queue may do this before it gives way. -/
def Event.GoesOn (number : Nat) (event : Event) : Prop :=
  event = .start number ∨ event = .commit number ∨ event = .report number ∨ event = .exit number

namespace Runner

variable {registry : Registry} {number : Nat} {runner moved : Runner} {event : Event}

theorem onset_of_known {definition : Definition} (admitted : runner.stage = .admitted)
    (queued : runner.signal = .queued)
    (known : registry.find? runner.submission.config.name = some definition) :
    runner.onset registry number = [.start number] := by
  simp [onset, start?, Signal.start?, beginning, admitted, queued, known]

theorem onset_of_unknown (admitted : runner.stage = .admitted) (queued : runner.signal = .queued)
    (absent : registry.find? runner.submission.config.name = none) :
    runner.onset registry number =
      [.start number, .commit number, .report number, .exit number] := by
  simp [onset, start?, Signal.start?, beginning, admitted, queued, absent]

theorem onset_of_interrupted (ready : runner.stage = .admitted ∨ runner.stage = .refused)
    (interrupted : runner.signal = .interrupted) :
    runner.onset registry number = [.start number, .exit number] := by
  rcases ready with stage | stage <;> simp [onset, start?, Signal.start?, stage, interrupted]

/-- After its start a runner does its job, has something to report or leaves. -/
theorem onset_cases (starts : runner.start? registry = some moved) (number : Nat) :
    ((∃ definition, moved.stage = .working definition) ∧
        runner.onset registry number = [.start number]) ∨
      (∃ outcome, moved.stage = .ended outcome ∧ moved.signal = .running ∧
        runner.onset registry number =
          [.start number, .commit number, .report number, .exit number]) ∨
      (moved.stage = .leaving ∧ runner.onset registry number = [.start number, .exit number]) := by
  unfold onset
  rw [starts, Option.map_some]
  rcases Works.start_cases starts with ⟨-, -, rfl⟩ | ⟨-, -, rfl⟩ | ⟨-, -, rfl⟩
  · rcases beginning_cases registry runner.submission.config with
      ⟨definition, begins⟩ | ⟨outcome, begins⟩
    · exact Or.inl ⟨⟨definition, begins⟩, by simp [begins]⟩
    · exact Or.inr (Or.inl ⟨outcome, begins, rfl, by simp [begins]⟩)
  · exact Or.inr (Or.inl ⟨_, rfl, rfl, rfl⟩)
  · exact Or.inr (Or.inr ⟨rfl, rfl⟩)

/-- A runner that has left the queue starts, and what it does then concerns nobody else. -/
theorem exists_onset_eq_cons (runner : Runner) (registry : Registry) (number : Nat) :
    ∃ rest, runner.onset registry number = .start number :: rest ∧
      ∀ event ∈ rest, event = .commit number ∨ event = .report number ∨ event = .exit number := by
  unfold onset
  split
  · exact ⟨[], rfl, by simp⟩
  · exact ⟨_, rfl, by simp⟩
  · exact ⟨_, rfl, by simp⟩

theorem goesOn_of_mem_onset (member : event ∈ runner.onset registry number) :
    event.GoesOn number := by
  rcases runner.exists_onset_eq_cons registry number with ⟨rest, onset, quiet⟩
  rw [onset] at member
  exact (List.mem_cons.mp member).imp_right (quiet event)

theorem mover?_of_mem_onset (member : event ∈ runner.onset registry number) :
    event.mover? = some number := by
  rcases goesOn_of_mem_onset member with rfl | rfl | rfl | rfl <;> rfl

end Runner

namespace Worker

variable {start worker changed final : Worker} {stride : Stride}
  {strides before later : List Stride} {event opening : Event} {number : Nat} {runner : Runner}

/-- Only a runner that leaves the queue goes on in the same turn. -/
theorem exists_of_mem_onset (member : event ∈ worker.onset opening) :
    ∃ number, (opening = .grant number ∨ opening = .refuse number) ∧ event.GoesOn number := by
  cases opening with
  | grant number =>
      simp only [onset] at member
      cases found : worker.runners[number]? <;> simp only [found, List.not_mem_nil] at member
      exact ⟨number, Or.inl rfl, Runner.goesOn_of_mem_onset member⟩
  | refuse number =>
      simp only [onset] at member
      cases found : worker.runners[number]? <;> simp only [found, List.not_mem_nil] at member
      exact ⟨number, Or.inr rfl, Runner.goesOn_of_mem_onset member⟩
  | _ => cases member

theorem onset_eq_nil (stays : ∀ number, opening ≠ .grant number ∧ opening ≠ .refuse number) :
    worker.onset opening = [] := by
  cases opening with
  | grant number => exact absurd rfl (stays number).1
  | refuse number => exact absurd rfl (stays number).2
  | _ => rfl

theorem events_of_step? (stepped : worker.step? stride.event = some changed) :
    stride.events worker = stride.event :: changed.onset stride.event := by
  simp [Stride.events, stepped]

theorem exists_of_run?_stride (ran : worker.run? (stride.events worker) = some final) :
    ∃ changed, worker.step? stride.event = some changed ∧
      changed.run? (changed.onset stride.event) = some final := by
  unfold Stride.events at ran
  split at ran
  · next changed stepped =>
      rw [run?_cons_of_step? stepped] at ran
      exact ⟨changed, stepped, ran⟩
  · next stuck => simp [run?, stuck] at ran

theorem onset_of_found (leaves : opening = .grant number ∨ opening = .refuse number)
    (found : worker.runners[number]? = some runner) :
    worker.onset opening = runner.onset worker.registry number := by
  rcases leaves with rfl | rfl <;> simp [onset, found]

theorem waits_of_leaves (stepped : worker.step? event = some changed)
    (leaves : event = .grant number ∨ event = .refuse number)
    (found : worker.runners[number]? = some runner) : runner.stage = .waiting := by
  rcases leaves with rfl | rfl
  · rcases exists_of_grant? stepped with ⟨waiting, foundWaiting, waits, -⟩
    cases found.symm.trans foundWaiting
    exact waits
  · rcases exists_of_refuse? stepped with ⟨waiting, foundWaiting, waits, -⟩
    cases found.symm.trans foundWaiting
    exact waits

/-- An event is one that a stride begins with or belongs to a runner that has left the queue. -/
theorem cases_of_mem_stride_events (member : event ∈ stride.events worker) :
    event = stride.event ∨ ∃ number, event.GoesOn number := by
  unfold Stride.events at member
  split at member
  · refine (List.mem_cons.mp member).imp_right fun later => ?_
    rcases exists_of_mem_onset later with ⟨number, -, goesOn⟩
    exact ⟨number, goesOn⟩
  · exact Or.inl (List.mem_singleton.mp member)

theorem cases_of_mem_events (member : event ∈ worker.events strides) :
    (∃ stride ∈ strides, event = stride.event) ∨ ∃ number, event.GoesOn number := by
  induction strides generalizing worker with
  | nil => cases member
  | cons stride rest ih =>
      have parted : event ∈ stride.events worker ∨
          ∃ changed : Worker, event ∈ changed.events rest := by
        rw [events] at member
        split at member
        · next changed ran => exact (List.mem_append.mp member).imp_right fun later => ⟨_, later⟩
        · exact Or.inl member
      rcases parted with here | ⟨changed, later⟩
      · refine (cases_of_mem_stride_events here).imp_left fun same => ?_
        exact ⟨stride, List.mem_cons_self, same⟩
      · refine (ih later).imp_left ?_
        rintro ⟨other, inRest, same⟩
        exact ⟨other, List.mem_cons_of_mem _ inRest, same⟩

/-- Slots are given in strides of their own. -/
theorem take_mem_of_grant (member : .grant number ∈ worker.events strides) :
    .take number ∈ strides := by
  rcases cases_of_mem_events member with ⟨⟨opening, opens⟩, inStrides, same⟩ | ⟨place, other⟩
  · cases same
    exact inStrides
  · simp [Event.GoesOn] at other

/-- In strides only runners tell how tasks end. -/
theorem isDeclaration_of_mem_events :
    ∀ event ∈ worker.events strides, event.isDeclaration = false := by
  intro event member
  rcases cases_of_mem_events member with
    ⟨⟨opening, opens⟩, -, rfl⟩ | ⟨number, rfl | rfl | rfl | rfl⟩
  · cases event with
    | complete key result => cases opens
    | fail key message => cases opens
    | _ => rfl
  all_goals rfl

/-! ### Strides one after the other -/

theorem run?_events_cons (stride : Stride) (rest : List Stride) :
    worker.run? (worker.events (stride :: rest)) =
      (worker.run? (stride.events worker)).bind fun changed =>
        changed.run? (changed.events rest) := by
  rw [events]
  cases ran : worker.run? (stride.events worker) with
  | none => exact ran
  | some changed =>
      rw [run?_append, ran]
      rfl

theorem events_append (ran : start.run? (start.events before) = some worker)
    (later : List Stride) :
    start.events (before ++ later) = start.events before ++ worker.events later := by
  induction before generalizing start with
  | nil =>
      cases ran
      rfl
  | cons stride rest ih =>
      rw [run?_events_cons] at ran
      rcases Option.bind_eq_some_iff.mp ran with ⟨changed, strode, ran⟩
      simp only [List.cons_append, events, strode, ih ran, List.append_assoc]

theorem exists_of_run?_events (ran : start.run? (start.events (before ++ later)) = some final) :
    ∃ worker, start.run? (start.events before) = some worker ∧
      worker.run? (worker.events later) = some final := by
  induction before generalizing start with
  | nil => exact ⟨start, rfl, ran⟩
  | cons stride rest ih =>
      rw [List.cons_append, run?_events_cons] at ran
      rcases Option.bind_eq_some_iff.mp ran with ⟨changed, strode, ran⟩
      rcases ih ran with ⟨worker, reached, ran⟩
      refine ⟨worker, ?_, ran⟩
      rw [run?_events_cons, strode]
      exact reached

theorem events_singleton (worker : Worker) (stride : Stride) :
    worker.events [stride] = stride.events worker := by
  rw [events]
  split
  · exact List.append_nil _
  · rfl

/-! ### Who leaves the queue makes the whole stride -/

theorem exists_run?_exit (found : worker.runners[number]? = some runner)
    (stage : runner.stage = .leaving) : ∃ changed, worker.run? [.exit number] = some changed := by
  simp [run?, step?, exit?, found, stage]

theorem exists_run?_report {outcome : Outcome} (found : worker.runners[number]? = some runner)
    (stage : runner.stage = .ended outcome) (signal : runner.signal = .running) :
    ∃ changed, worker.run? [.commit number, .report number, .exit number] = some changed := by
  have commits : runner.commit? =
      some { runner with signal := .reported, stage := .reporting outcome } := by
    simp [Runner.commit?, Signal.commit?, stage, signal]
  have committed := getElem?_setRunner_self found
    { runner with signal := .reported, stage := .reporting outcome }
  have stepped : worker.step? (.commit number) = some (worker.setRunner number
      { runner with signal := .reported, stage := .reporting outcome }) := by
    simp [step?, commit?, changeRunner?, found, commits]
  rw [run?_cons_of_step? stepped]
  cases reports : (worker.setRunner number
      { runner with signal := .reported, stage := .reporting outcome }).step? (.report number) with
  | none => simp [step?, report?, committed] at reports
  | some changed =>
      rw [run?_cons_of_step? reports]
      rcases exists_of_report? reports with ⟨again, ended, foundAgain, -, rfl⟩
      exact exists_run?_exit (getElem?_setRunner_self foundAgain _) rfl

theorem exists_run?_onset (found : worker.runners[number]? = some runner)
    (ready : runner.stage = .admitted ∨ runner.stage = .refused) :
    ∃ changed, worker.run? (runner.onset worker.registry number) = some changed := by
  rcases Option.ne_none_iff_exists'.mp (Runner.start?_ne_none worker.registry ready) with
    ⟨moved, starts⟩
  have stepped : worker.step? (.start number) = some (worker.setRunner number moved) := by
    simp [step?, start?, changeRunner?, found, starts]
  have foundAfter := getElem?_setRunner_self found moved
  rcases Runner.onset_cases starts number with
    ⟨-, onset⟩ | ⟨outcome, stage, signal, onset⟩ | ⟨stage, onset⟩
  · rw [onset]
    exact ⟨_, run?_cons_of_step? stepped []⟩
  · rw [onset, run?_cons_of_step? stepped]
    exact exists_run?_report foundAfter stage signal
  · rw [onset, run?_cons_of_step? stepped]
    exact exists_run?_exit foundAfter stage

theorem events_take (granted : worker.grant? number = some changed)
    (found : worker.runners[number]? = some runner) :
    (Stride.take number).events worker = .grant number ::
      Runner.onset worker.registry number { runner with stage := .admitted, slot := true } := by
  have stepped : worker.step? (Stride.take number).event = some changed := granted
  rcases exists_of_grant? granted with ⟨waiting, foundBefore, -, -, -, rfl⟩
  cases found.symm.trans foundBefore
  have admitted := getElem?_setRunner_self found { runner with stage := .admitted, slot := true }
  rw [events_of_step? stepped, onset, admitted]
  rfl

/-- Whoever can be given a slot can take it. -/
theorem exists_run?_take (granted : worker.grant? number = some changed) :
    ∃ final, worker.run? ((Stride.take number).events worker) = some final := by
  have stepped : worker.step? (.grant number) = some changed := granted
  rcases exists_of_grant? granted with ⟨runner, found, -, -, -, rfl⟩
  have admitted := getElem?_setRunner_self found { runner with stage := .admitted, slot := true }
  rw [events_take granted found, run?_cons_of_step? stepped]
  exact exists_run?_onset admitted (Or.inl rfl)

end Worker

end TaskAgent
