import TaskAgent.Proofs.Worker.Cancellation
import TaskAgent.Proofs.Worker.Knowing

/-!
# What a look-up decides

A runner takes its slot and looks its job up in one stride (`Worker.Takes`). It then does the job
that is known under the name at that moment, or the task fails in the same stride because there is
none, and what is made known afterwards makes no difference to it (`Worker.Resolved`).
-/

namespace TaskAgent

namespace Runner

variable {registry : Registry} {number : Nat} {event : Event} {runner moved : Runner}

theorem isSettled_of_gone (agreed : runner.IsOpen ∨ runner.IsSettled)
    (gone : runner.stage = .gone) : runner.IsSettled := by
  rcases agreed with isOpen | settled
  · simp [IsOpen, gone] at isOpen
  · exact settled

theorem IsSettled.eq_of_lives (settled : runner.IsSettled) (gone : runner.stage = .gone)
    (lives : Lives registry number event runner moved) : moved = runner := by
  cases lives with
  | untouched alien => rfl
  | interrupted => rw [settled.interrupt]
  | granted waits => cases gone.symm.trans waits
  | refused waits => cases gone.symm.trans waits
  | started stepped => simp [start?, gone] at stepped
  | entered stepped => simp [change?, gone] at stepped
  | left stepped => simp [change?, gone] at stepped
  | finished stepped => simp [finish?, gone] at stepped
  | committed stepped => simp [commit?, gone] at stepped
  | reported stage => cases gone.symm.trans stage
  | gone stage => cases gone.symm.trans stage

theorem IsSettled.ending?_eq_none {address : Address} (settled : runner.IsSettled)
    (gone : runner.stage = .gone) : runner.ending? address number event = none := by
  cases event with
  | cancel key => simp [ending?, settled.interrupt, TaskRecord.calledOff?]
  | report place => simp [ending?, gone]
  | _ => rfl

/-- The end of a task is open as long as its runner is live and nobody called it off. -/
theorem Judged.eq_nil {address : Address} {finals : List TaskRecord}
    (judged : runner.Judged address finals) (calm : runner.signal.isInterrupted = false)
    (live : runner.isLive = true) : finals = [] := by
  cases judged with
  | undecided isOpen => rfl
  | canceled signal => simp [signal, Signal.isInterrupted] at calm
  | refused signal => simp [signal, Signal.isInterrupted] at calm
  | reported outcome ceased => cases live.symm.trans ceased

end Runner

/-- A runner that finds no job commits itself to report that. -/
theorem Fate.foldl_unknown {registry : Registry} {runner : Runner}
    (queued : runner.signal = .queued)
    (absent : registry.find? runner.submission.config.name = none) (address : Address)
    (number : Nat) :
    [Event.grant number, .start number, .commit number].foldl (next address number)
        ⟨registry, runner, []⟩ =
      ⟨registry, { runner with
        signal := .reported
        stage := .reporting (.error (.unknownJob runner.submission.config.name))
        slot := true }, []⟩ := by
  simp [next, Runner.next, Runner.move?, Runner.start?, Runner.beginning, Signal.start?,
    Runner.commit?, Signal.commit?, Runner.ending?, Event.mover?, Registry.after, queued, absent]

namespace Worker

variable {start worker changed final before begun : Worker} {past events later : List Event}
  {event : Event} {strides : List Stride} {number : Nat} {runner moved : Runner}

/-- A runner that has left stays as it is, and its task gets no more final records. -/
theorem finals_of_gone (coherent : worker.Coherent) (ran : worker.run? events = some final)
    (own : ∀ event ∈ events, event.isDeclaration = false)
    (found : worker.runners[number]? = some runner) (gone : runner.stage = .gone) :
    final.runners[number]? = some runner ∧ (worker.chronicle events).finals number = [] := by
  induction events generalizing worker with
  | nil =>
      cases ran
      exact ⟨found, rfl⟩
  | cons event rest ih =>
      rcases exists_of_run?_cons ran with ⟨changed, stepped, ran⟩
      have ownEvent := own event List.mem_cons_self
      have settled := Runner.isSettled_of_gone (coherent.agreed found) gone
      have foundAfter : changed.runners[number]? = some runner := by
        rcases lives_of_step? stepped found with ⟨moved, foundAfter, lives⟩
        rw [foundAfter, settled.eq_of_lives gone lives]
      have coherentAfter := coherent.change (change_of_step? stepped) ownEvent
      rcases ih coherentAfter ran (fun other inRest => own other (List.mem_cons_of_mem _ inRest))
        foundAfter with ⟨foundFinal, unended⟩
      refine ⟨foundFinal, ?_⟩
      rw [chronicle_cons_of_step? stepped, Chronicle.finals_append,
        coherent.finals_made? ownEvent found, unended, settled.ending?_eq_none gone]
      rfl

/-- Jobs are made known in strides of their own. -/
theorem registrations_events (ran : worker.run? (worker.events strides) = some final) :
    registrations (worker.events strides) = registrations (strides.map Stride.event) := by
  induction strides generalizing worker with
  | nil => rfl
  | cons stride rest ih =>
      rw [run?_events_cons] at ran
      rcases Option.bind_eq_some_iff.mp ran with ⟨changed, strode, ran⟩
      rcases exists_of_run?_stride strode with ⟨middle, stepped, -⟩
      have others : registrations (middle.onset stride.event) = [] := by
        rw [registrations, List.filterMap_eq_nil_iff]
        intro event member
        rcases exists_of_mem_onset member with ⟨place, -, rfl | rfl | rfl | rfl⟩ <;> rfl
      have later := ih ran
      unfold registrations at later others ⊢
      rw [events, strode]
      simp only [List.filterMap_append, later]
      rw [events_of_step? stepped, ← List.singleton_append, List.filterMap_append, others,
        List.append_nil, ← List.filterMap_append]
      rfl

/-- What is known under a name is what was last made known under it. -/
theorem find?_registry_of_strides (ran : start.run? (start.events strides) = some worker)
    (name : String) :
    worker.registry.find? name = start.registry.latest? (strides.map Stride.event) name := by
  rw [find?_registry_of_run? ran, Registry.latest?, registrations_events ran]
  rfl

/-- A runner that has not begun before an event and follows nothing after it never does a job. -/
theorem not_invokes_of_follows (reached : start.run? past = some worker)
    (found : worker.runners[number]? = some runner)
    (unbegun : ∀ definition, ¬runner.Follows (some definition))
    (stepped : worker.step? event = some begun) (foundBegun : begun.runners[number]? = some moved)
    (follows : moved.Follows none) (later : List Event) :
    ¬start.Invokes (past ++ event :: later) number := by
  rintro ⟨earlier, rest, other, worked, parts, reachedOther, foundOther, works⟩
  have working : ∃ definition, worked.stage = .working definition := by
    cases stage : worked.stage <;> simp_all [Runner.isWorking]
  rcases working with ⟨definition, stage⟩
  rcases exists_of_append_eq_cons parts.symm with ⟨between, rfl, rfl⟩ | ⟨between, rfl, rfl⟩
  · -- from the event on the runner follows nothing
    rw [run?_append, reached, Option.bind_some, run?_cons_of_step? stepped] at reachedOther
    rcases runner_keeps_of_run? reachedOther foundBegun follows (motive := Runner.Follows none)
      (fun lives => lives.follows) with ⟨again, foundAgain, follows⟩
    cases foundOther.symm.trans foundAgain
    cases follows.eq_some stage
  · -- whoever was at work before would have begun
    rw [run?_append, reachedOther] at reached
    have followed : worked.Follows (some definition) := by simp [Runner.Follows, stage]
    rcases runner_keeps_of_run? reached foundOther followed
      (motive := Runner.Follows (some definition)) (fun lives => lives.follows) with
      ⟨again, foundAgain, followed⟩
    cases found.symm.trans foundAgain
    exact unbegun definition followed

/-- With the report of its runner a task has ended. -/
theorem hasEnded_report {outcome : Outcome} (coherent : worker.Coherent)
    (found : worker.runners[number]? = some runner) (stage : runner.stage = .reporting outcome)
    (stepped : worker.step? (.report number) = some changed) :
    changed.HasEnded runner.submission.key
      ((TaskRecord.running runner.submission.key worker.tracker.address).ended outcome) := by
  have isOpen := coherent.isOpen_of_reporting found stage
  have finishes : worker.effect (.report number) = .finish runner.submission.key
      ((TaskRecord.running runner.submission.key worker.tracker.address).ended outcome) := by
    simp [effect, reporting?, found, stage, coherent.unfinished_of_isOpen found isOpen,
      Effect.ending]
  have finished := tracker_of_step? stepped
  rw [finishes, Tracker.apply_finish] at finished
  constructor <;> rw [finished]
  · simp [Tracker.isInFlight_eq_false_iff]
  · simp
  · simp

/-- The final record of a task whose job is not known. -/
def unknown (task : Submission) (address : Address) : TaskRecord :=
  ⟨task.key, .failed, none,
    some ("no hay definición registrada para el job '" ++ task.config.name ++ "'"), address⟩

theorem unknown_eq (task : Submission) (address : Address) :
    unknown task address =
      (TaskRecord.running task.key address).ended (.error (.unknownJob task.config.name)) := rfl

/-- What becomes of a task that takes its slot after the strides `before`, when this is the job that
is known under its name then. -/
structure Resolved (start : Worker) (before : List Stride) (number : Nat) (later : List Stride)
    (final : Worker) (task : Submission) (known : Option Definition) : Prop where
  /-- Its job is begun in the same stride, unless it was called off before. -/
  begun : ∀ {definition : Definition}, known = some definition →
    ¬start.CalledOff (start.events before) number →
      ∃ taken runner, start.run? (start.events (before ++ [.take number])) = some taken ∧
        taken.runners[number]? = some runner ∧ runner.stage = .working definition
  /-- It never does another job. -/
  followed : ∀ {runner : Runner} {definition : Definition},
    final.runners[number]? = some runner → runner.stage = .working definition →
      known = some definition
  /-- If no job is known it fails in the same stride, and that stays its end. -/
  failed : known = none → ¬start.CalledOff (start.events before) number →
    (∃ taken, start.run? (start.events (before ++ [.take number])) = some taken ∧
      taken.HasEnded task.key (unknown task start.tracker.address)) ∧
    (start.chronicle (start.events (before ++ .take number :: later))).finals number =
      [unknown task start.tracker.address]
  canceled : start.CalledOff (start.events before) number →
    (start.chronicle (start.events (before ++ .take number :: later))).finals number =
      [⟨task.key, .canceled, none, none, start.tracker.address⟩]
  /-- Either way nothing is run for it. -/
  unbegun : known = none ∨ start.CalledOff (start.events before) number →
    ¬start.Invokes (start.events (before ++ .take number :: later)) number
  /-- What is made known afterwards makes no difference to it. -/
  settled : ∀ {others : List Stride} {other : Worker},
    start.run? (start.events (before ++ .take number :: others)) = some other →
    (others.filter fun stride => stride.event.befalls number task.key) =
      (later.filter fun stride => stride.event.befalls number task.key) →
      other.runners[number]? = final.runners[number]? ∧
        (start.chronicle (start.events (before ++ .take number :: others))).finals number =
          (start.chronicle (start.events (before ++ .take number :: later))).finals number

/-- A run in strides in which a runner takes a slot after the strides `before`. -/
structure Takes (pool : Pool) (registry : Registry) (address : Address) (before : List Stride)
    (number : Nat) (later : List Stride) (worker taken final : Worker) (runner : Runner) :
    Prop where
  reached : (make pool registry address).run? ((make pool registry address).events before) =
    some worker
  found : worker.runners[number]? = some runner
  took : worker.run? ((Stride.take number).events worker) = some taken
  ran : taken.run? (taken.events later) = some final

theorem exists_takes {pool : Pool} {registry : Registry} {address : Address}
    {before later : List Stride}
    (ran : (make pool registry address).run?
      ((make pool registry address).events (before ++ .take number :: later)) = some final) :
    ∃ worker taken runner,
      Takes pool registry address before number later worker taken final runner := by
  rcases exists_of_run?_events ran with ⟨worker, reached, ran⟩
  rw [run?_events_cons] at ran
  rcases Option.bind_eq_some_iff.mp ran with ⟨taken, took, ran⟩
  rcases exists_of_run?_stride took with ⟨granted, stepped, -⟩
  rcases exists_of_grant? stepped with ⟨runner, found, -⟩
  exact ⟨worker, taken, runner, reached, found, took, ran⟩

namespace Takes

variable {pool : Pool} {registry : Registry} {address : Address} {before later : List Stride}
  {taken : Worker}
  (takes : Takes pool registry address before number later worker taken final runner)

include takes

theorem coherent : worker.Coherent :=
  coherent_of_run? takes.reached isDeclaration_of_mem_events (coherent_make pool registry address)

theorem verdict :
    (make pool registry address).Verdict ((make pool registry address).events before) number
      runner :=
  verdict_of_run? takes.reached isDeclaration_of_mem_events takes.found

theorem find?_eq (name : String) :
    worker.registry.find? name = registry.latest? (before.map Stride.event) name :=
  find?_registry_of_strides takes.reached name

theorem exists_granted : ∃ granted, worker.step? (.grant number) = some granted := by
  rcases exists_of_run?_stride takes.took with ⟨granted, stepped, -⟩
  exact ⟨granted, stepped⟩

theorem waits : runner.stage = .waiting := by
  rcases takes.exists_granted with ⟨granted, stepped⟩
  exact waits_of_leaves stepped (Or.inl rfl) takes.found

theorem signal_cases :
    (¬(make pool registry address).CalledOff ((make pool registry address).events before) number ∧
        runner.signal = .queued) ∨
      ((make pool registry address).CalledOff ((make pool registry address).events before) number ∧
        runner.signal = .interrupted) := by
  rw [takes.verdict.calledOff]
  rcases takes.coherent.agreed takes.found with isOpen | settled
  · have signal : runner.signal = .queued := by simpa [Runner.IsOpen, takes.waits] using isOpen
    exact Or.inl ⟨by simp [signal, Signal.isInterrupted], signal⟩
  · have signal : runner.signal = .interrupted := by
      simpa [Runner.IsSettled, takes.waits] using settled
    exact Or.inr ⟨by simp [signal, Signal.isInterrupted], signal⟩

/-- What the stride makes of the runner, and the final records that are made in it. -/
theorem fate :
    let fate := ((Stride.take number).events worker).foldl (Fate.next worker.tracker.address number)
      ⟨worker.registry, runner, []⟩
    taken.runners[number]? = some fate.runner ∧
      (worker.chronicle ((Stride.take number).events worker)).finals number = fate.finals := by
  have own : ∀ event ∈ (Stride.take number).events worker, event.isDeclaration = false := by
    rw [← events_singleton]
    exact isDeclaration_of_mem_events
  simpa using fate_of_run? takes.coherent takes.took own takes.found []

theorem events_eq {rest : List Event}
    (onset : Runner.onset worker.registry number { runner with stage := .admitted, slot := true } =
      rest) : (Stride.take number).events worker = .grant number :: rest := by
  rcases takes.exists_granted with ⟨granted, stepped⟩
  rw [events_take stepped takes.found, onset]

/-- A job that is known is begun. -/
theorem of_known {definition : Definition} (queued : runner.signal = .queued)
    (known : worker.registry.find? runner.submission.config.name = some definition) :
    taken.runners[number]? =
      some { runner with signal := .running, stage := .working definition, slot := true } := by
  have events := takes.events_eq (Runner.onset_of_known rfl queued known)
  have fate := takes.fate.1
  rw [events] at fate
  simpa [Fate.next, Runner.next, Runner.move?, Runner.start?, Runner.beginning, Signal.start?,
    Event.mover?, Registry.after, queued, known] using fate

/-- One that is not known is reported at once. -/
theorem of_unknown (queued : runner.signal = .queued)
    (absent : worker.registry.find? runner.submission.config.name = none) :
    taken.runners[number]? =
        some { runner with signal := .reported, stage := .gone, slot := false } ∧
      (worker.chronicle ((Stride.take number).events worker)).finals number =
        [unknown runner.submission worker.tracker.address] := by
  have events : (Stride.take number).events worker =
      [.grant number, .start number, .commit number] ++ [.report number, .exit number] :=
    takes.events_eq (Runner.onset_of_unknown rfl queued absent)
  have fate := takes.fate
  rw [events, List.foldl_append, Fate.foldl_unknown queued absent] at fate
  rw [events, unknown_eq]
  simpa [Fate.next, Runner.next, Runner.move?, Runner.ending?, Event.mover?, Registry.after] using
    fate

/-- Whoever was called off leaves. -/
theorem of_interrupted (interrupted : runner.signal = .interrupted) :
    taken.runners[number]? = some { runner with stage := .gone, slot := false } ∧
      (worker.chronicle ((Stride.take number).events worker)).finals number = [] := by
  have events := takes.events_eq (Runner.onset_of_interrupted (.inl rfl) interrupted)
  have fate := takes.fate
  rw [events] at fate ⊢
  simpa [Fate.next, Runner.next, Runner.move?, Runner.start?, Signal.start?, Event.mover?,
    Registry.after, interrupted, Runner.ending?] using fate

/-- The runner has started, and what it follows is what was known when it took its slot. -/
theorem exists_follows :
    ∃ moved, taken.runners[number]? = some moved ∧ moved.submission = runner.submission ∧
      moved.Follows (worker.registry.find? runner.submission.config.name) := by
  rcases takes.signal_cases with ⟨-, queued⟩ | ⟨-, interrupted⟩
  · cases known : worker.registry.find? runner.submission.config.name with
    | some definition => exact ⟨_, takes.of_known queued known, rfl, rfl⟩
    | none => exact ⟨_, (takes.of_unknown queued known).1, rfl, trivial⟩
  · exact ⟨_, (takes.of_interrupted interrupted).1, rfl, trivial⟩

theorem events_append_take (others : List Stride) :
    (make pool registry address).events (before ++ .take number :: others) =
      (make pool registry address).events before ++
        ((Stride.take number).events worker ++ taken.events others) := by
  rw [events_append takes.reached, events, takes.took]

theorem run?_taken :
    (make pool registry address).run?
      ((make pool registry address).events before ++ (Stride.take number).events worker) =
        some taken := by
  rw [run?_append, takes.reached]
  exact takes.took

theorem ownTaken : ∀ event ∈ (make pool registry address).events before ++
    (Stride.take number).events worker, event.isDeclaration = false := by
  rw [← events_singleton, ← events_append takes.reached]
  exact isDeclaration_of_mem_events

theorem coherentTaken : taken.Coherent :=
  coherent_of_run? takes.run?_taken takes.ownTaken (coherent_make pool registry address)

theorem finals_eq :
    ((make pool registry address).chronicle
      ((make pool registry address).events (before ++ .take number :: later))).finals number =
        ((make pool registry address).chronicle
          ((make pool registry address).events before)).finals number ++
        ((worker.chronicle ((Stride.take number).events worker)).finals number ++
          (taken.chronicle (taken.events later)).finals number) := by
  rw [takes.events_append_take, chronicle_append takes.reached, chronicle_append takes.took,
    Chronicle.finals_append, Chronicle.finals_append]

theorem finals_of_unknown (queued : runner.signal = .queued)
    (absent : worker.registry.find? runner.submission.config.name = none) :
    ((make pool registry address).chronicle
      ((make pool registry address).events (before ++ .take number :: later))).finals number =
        [unknown runner.submission address] := by
  rcases takes.of_unknown queued absent with ⟨found, ended⟩
  have later := finals_of_gone takes.coherentTaken takes.ran isDeclaration_of_mem_events found rfl
  have calm : runner.signal.isInterrupted = false := by simp [queued, Signal.isInterrupted]
  have live : runner.isLive = true := by simp [Runner.isLive, takes.waits]
  rw [takes.finals_eq, takes.verdict.judged.eq_nil calm live, ended, later.2,
    address_of_run? takes.reached]
  rfl

theorem finals_of_interrupted (interrupted : runner.signal = .interrupted) :
    ((make pool registry address).chronicle
      ((make pool registry address).events (before ++ .take number :: later))).finals number =
        [⟨runner.submission.key, .canceled, none, none, address⟩] := by
  rcases takes.of_interrupted interrupted with ⟨found, unended⟩
  have later := finals_of_gone takes.coherentTaken takes.ran isDeclaration_of_mem_events found rfl
  have calledOff : runner.signal.isInterrupted = true := by
    simp [interrupted, Signal.isInterrupted]
  rw [takes.finals_eq, takes.verdict.judged.eq_of_isInterrupted calledOff, unended, later.2,
    interrupted]
  rfl

/-- A task whose job is not known has ended when its runner gives way. -/
theorem hasEnded_of_unknown (queued : runner.signal = .queued)
    (absent : worker.registry.find? runner.submission.config.name = none) :
    taken.HasEnded runner.submission.key (unknown runner.submission address) := by
  have took := takes.took
  rw [show (Stride.take number).events worker =
      [.grant number, .start number, .commit number] ++ [.report number, .exit number] from
    takes.events_eq (Runner.onset_of_unknown rfl queued absent), run?_append] at took
  rcases Option.bind_eq_some_iff.mp took with ⟨bound, committed, took⟩
  rcases exists_of_run?_cons took with ⟨reported, reports, took⟩
  rcases exists_of_run?_cons took with ⟨left, exits, same⟩
  cases same
  have own : ∀ event ∈ [Event.grant number, .start number, .commit number],
      event.isDeclaration = false := by simp [Event.isDeclaration]
  have coherent := coherent_of_run? committed own takes.coherent
  have found := (fate_of_run? takes.coherent committed own takes.found []).1
  rw [Fate.foldl_unknown queued absent] at found
  have ended := hasEnded_report coherent found rfl reports
  have unchanged : taken.tracker = reported.tracker := tracker_of_step? exits
  rw [address_of_run? committed, address_of_run? takes.reached] at ended
  exact ⟨unchanged ▸ ended.idle, unchanged ▸ ended.unhandled, unchanged ▸ ended.changed⟩

/-- The runner is given the slot and starts. -/
theorem exists_begun :
    ∃ granted begun moved rest,
      (make pool registry address).run?
        ((make pool registry address).events before ++ [.grant number]) = some granted ∧
      granted.runners[number]? = some { runner with stage := .admitted, slot := true } ∧
      granted.step? (.start number) = some begun ∧ begun.runners[number]? = some moved ∧
      Runner.start? worker.registry { runner with stage := .admitted, slot := true } =
        some moved ∧
      (Stride.take number).events worker = .grant number :: .start number :: rest := by
  rcases takes.exists_granted with ⟨granted, stepped⟩
  have admitted : granted.runners[number]? =
      some { runner with stage := .admitted, slot := true } := by
    rcases exists_of_grant? stepped with ⟨waiting, found, -, -, -, rfl⟩
    cases takes.found.symm.trans found
    exact getElem?_setRunner_self takes.found _
  rcases Runner.exists_onset_eq_cons { runner with stage := .admitted, slot := true }
    worker.registry number with ⟨rest, onset, -⟩
  have events := takes.events_eq onset
  have took := takes.took
  rw [events, run?_cons_of_step? stepped] at took
  rcases exists_of_run?_cons took with ⟨begun, started, -⟩
  rcases exists_of_changeRunner? started with ⟨starter, moved, foundStarter, starts, same⟩
  cases admitted.symm.trans foundStarter
  rw [registry_of_step? stepped] at starts
  refine ⟨granted, begun, moved, rest, ?_, admitted, started, ?_, starts, events⟩
  · rw [run?_append, takes.reached, Option.bind_some, run?_cons_of_step? stepped]
    rfl
  · rw [same]
    exact getElem?_setRunner_self admitted moved

theorem not_invokes (missing : worker.registry.find? runner.submission.config.name = none ∨
      runner.signal = .interrupted) :
    ¬(make pool registry address).Invokes
      ((make pool registry address).events (before ++ .take number :: later)) number := by
  rcases takes.exists_begun with
    ⟨granted, begun, moved, rest, reached, admitted, started, foundBegun, starts, events⟩
  have follows : moved.Follows none := by
    rcases Runner.Works.start_cases starts with ⟨-, queued, rfl⟩ | ⟨refused, -⟩ | ⟨-, -, rfl⟩
    · rcases missing with absent | interrupted
      · simp [Runner.Follows, Runner.beginning, absent]
      · cases queued.symm.trans interrupted
    · cases refused
    · trivial
  rw [takes.events_append_take, events]
  have never := not_invokes_of_follows reached admitted (fun definition => id) started foundBegun
    follows (rest ++ taken.events later)
  simpa using never

theorem settled {others : List Stride} {other : Worker}
    (ranOther : (make pool registry address).run?
      ((make pool registry address).events (before ++ .take number :: others)) = some other)
    (same : (others.filter fun stride => stride.event.befalls number runner.submission.key) =
      (later.filter fun stride => stride.event.befalls number runner.submission.key)) :
    other.runners[number]? = final.runners[number]? ∧
      ((make pool registry address).chronicle
        ((make pool registry address).events (before ++ .take number :: others))).finals number =
      ((make pool registry address).chronicle
        ((make pool registry address).events (before ++ .take number :: later))).finals number := by
  rw [takes.events_append_take, ← List.append_assoc, run?_append, takes.run?_taken] at ranOther
  rcases takes.exists_follows with ⟨moved, found, submission, follows⟩
  rw [← submission] at same
  have agree : (taken.events others).filter (Event.befalls number moved.submission.key) =
      (taken.events later).filter (Event.befalls number moved.submission.key) := by
    rw [filter_befalls_events found follows ranOther, filter_befalls_events found follows takes.ran,
      same]
  rcases fate_of_follows takes.coherentTaken found follows takes.ran ranOther
    isDeclaration_of_mem_events isDeclaration_of_mem_events agree with ⟨runners, finals⟩
  refine ⟨runners, ?_⟩
  rw [takes.events_append_take, takes.events_append_take, ← List.append_assoc, ← List.append_assoc,
    chronicle_append takes.run?_taken, chronicle_append takes.run?_taken, Chronicle.finals_append,
    Chronicle.finals_append, finals]

theorem run?_events_take :
    (make pool registry address).run?
      ((make pool registry address).events (before ++ [.take number])) = some taken := by
  rw [events_append takes.reached, events_singleton]
  exact takes.run?_taken

/-- The runner still follows at the end what it found in its slot. -/
theorem exists_last :
    ∃ last, final.runners[number]? = some last ∧ last.submission = runner.submission ∧
      last.Follows (worker.registry.find? runner.submission.config.name) := by
  rcases takes.exists_follows with ⟨moved, found, submission, follows⟩
  exact runner_keeps_of_run? takes.ran found ⟨submission, follows⟩
    (motive := fun moved => moved.submission = runner.submission ∧
      moved.Follows (worker.registry.find? runner.submission.config.name))
    fun lives kept => ⟨lives.submission_eq.trans kept.1, lives.follows kept.2⟩

theorem queued_of_uncalled
    (uncalled : ¬(make pool registry address).CalledOff
      ((make pool registry address).events before) number) : runner.signal = .queued := by
  rcases takes.signal_cases with ⟨-, queued⟩ | ⟨calledOff, -⟩
  · exact queued
  · exact absurd calledOff uncalled

theorem interrupted_of_calledOff
    (calledOff : (make pool registry address).CalledOff
      ((make pool registry address).events before) number) : runner.signal = .interrupted := by
  rcases takes.signal_cases with ⟨uncalled, -⟩ | ⟨-, interrupted⟩
  · exact absurd calledOff uncalled
  · exact interrupted

/-- A task that takes its slot is given the job that is known then, if there is one. -/
theorem resolved :
    (make pool registry address).Resolved before number later final runner.submission
      (worker.registry.find? runner.submission.config.name) := by
  constructor
  · intro definition known uncalled
    exact ⟨taken, _, takes.run?_events_take,
      takes.of_known (takes.queued_of_uncalled uncalled) known, rfl⟩
  · intro last definition found works
    rcases takes.exists_last with ⟨again, foundAgain, -, follows⟩
    cases found.symm.trans foundAgain
    exact follows.eq_some works
  · intro absent uncalled
    have queued := takes.queued_of_uncalled uncalled
    exact ⟨⟨taken, takes.run?_events_take, takes.hasEnded_of_unknown queued absent⟩,
      takes.finals_of_unknown queued absent⟩
  · intro calledOff
    exact takes.finals_of_interrupted (takes.interrupted_of_calledOff calledOff)
  · intro missing
    exact takes.not_invokes (missing.imp_right takes.interrupted_of_calledOff)
  · exact takes.settled

end Takes

end Worker

end TaskAgent
