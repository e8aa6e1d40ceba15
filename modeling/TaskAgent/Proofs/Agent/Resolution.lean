import TaskAgent.Proofs.Agent.Stride
import TaskAgent.Proofs.Worker.Resolution

/-!
# Jobs are looked up at the slot

Which job a task does is decided when its runner takes a slot, which it does in one stride. The law
is stated for runs in strides, with whatever comes between the strides; what happens in a session is
such a run.
-/

namespace TaskAgent.Worker

variable {pool : Pool} {registry : Registry} {address : Address} {worker : Worker}
  {strides : List Stride}

/-- The job of a task is looked up when the task takes its slot, whatever was known when it was
submitted. The job that it does is the last one made known under its name until then; without one
it fails, with a message that names the job, and nothing is run. What is made known afterwards makes
no difference to the task, nor to anything at all until the next slot is taken.

Whoever can be given a slot can take it, and only who took one does a job. -/
theorem jobs_are_looked_up_late
    (ran : (make pool registry address).run? ((make pool registry address).events strides) =
      some worker) :
    let start := make pool registry address
    (worker.registry.keys.Pairwise (· < ·) ∧
      (∀ name, name ∈ worker.registry.keys ↔
        name ∈ registry.keys ∨
          ∃ definition, .register name definition ∈ strides.map Stride.event) ∧
      ∀ name, worker.registry.find? name = registry.latest? (strides.map Stride.event) name) ∧
    (∀ later final, worker.run? (worker.events later) = some final →
      (∀ number, .take number ∉ later) →
      worker.run? (worker.events
        (later.filter fun stride => stride.event.registration?.isNone)) =
          some { final with registry := worker.registry }) ∧
    (∀ number granted, worker.grant? number = some granted →
      ∃ taken, start.run? (start.events (strides ++ [.take number])) = some taken) ∧
    (∀ number runner definition, worker.runners[number]? = some runner →
      runner.stage = .working definition → .take number ∈ strides) ∧
    (∀ before number later, strides = before ++ .take number :: later →
      ∃ runner, worker.runners[number]? = some runner ∧
        start.Resolved before number later worker runner.submission
          (registry.latest? (before.map Stride.event) runner.submission.config.name)) ∧
    ∀ session : Session, ∀ actions figures files,
      session.agent = .make pool registry address figures files →
      (∀ action ∈ actions, action.isLocal = true) →
      (∀ action ∈ actions, action.isDeclaration = false) →
        ∃ others, start.events others = session.trace actions := by
  intro start
  refine ⟨⟨?_, ?_, find?_registry_of_strides ran⟩, ?_, ?_, ?_, ?_, ?_⟩
  · refine worker.registry.ordered_keys.imp ?_
    intro first second smaller
    exact compareOfLessAndEq_eq_lt.mp smaller
  · intro name
    rw [Ledger.mem_keys, find?_registry_of_strides ran]
    exact Registry.exists_latest?_iff
  · intro later final ranLater untaken
    exact run?_unregistered worker.registry ranLater untaken
  · intro number granted grants
    rcases exists_run?_take grants with ⟨taken, took⟩
    refine ⟨taken, ?_⟩
    rw [events_append ran, events_singleton, run?_append, ran]
    exact took
  · intro number runner definition found stage
    by_contra untaken
    refine not_invokes isDeclaration_of_mem_events (fun member => untaken ?_)
      ⟨start.events strides, [], worker, runner, (List.append_nil _).symm, ran, found, ?_⟩
    · exact take_mem_of_grant member
    · simp [Runner.isWorking, stage]
  · rintro before number later rfl
    rcases exists_takes ran with ⟨waiting, taken, runner, takes⟩
    rcases takes.exists_last with ⟨last, found, submission, -⟩
    refine ⟨last, found, ?_⟩
    rw [submission, ← takes.find?_eq]
    exact takes.resolved
  · intro session actions figures files new alone own
    have calm : session.agent.worker.IsCalm := by
      intro number runner found
      simp [new, Agent.make, make] at found
    rcases Session.exists_strides alone own calm with ⟨others, events⟩
    rw [new] at events
    exact ⟨others, events⟩

/-- A task sleeps in the only slot while a job that waits behind it is replaced. -/
def replacedInTheQueue : List Stride :=
  let task (number : Int64) (name : String) (arguments : Json) : Stride :=
    ⟨.submit ⟨⟨1, number⟩, ⟨name⟩, arguments, "scratch"⟩, rfl⟩
  [⟨.register "job" (.constant (.integer 1)), rfl⟩,
    task 1 "sleep" (.object [("ms", .integer 5000)]), task 2 "job" .null, task 3 "never" .null,
    .take 0, ⟨.register "job" (.constant (.integer 2)), rfl⟩, ⟨.cancel ⟨1, 1⟩, rfl⟩,
    ⟨.finish 0 (.error (.job .interrupted)), rfl⟩, ⟨.commit 0, rfl⟩, ⟨.exit 0, rfl⟩]

/-- The job that was replaced is run, and a third task takes the slot before its job is made
known. -/
def knownTooLate : List Stride :=
  [⟨.finish 1 (.ok (.integer 2)), rfl⟩, ⟨.commit 1, rfl⟩, ⟨.report 1, rfl⟩, ⟨.exit 1, rfl⟩,
    .take 2, ⟨.register "never" .script, rfl⟩, ⟨.register "job" .script, rfl⟩]

/-- Where the signal of a task is calm after some strides, it was not called off in them. -/
theorem not_calledOff_of_signal {number : Nat} {signal : Signal}
    (calm : signal.isInterrupted = false)
    (heard : ((make pool registry address).run? ((make pool registry address).events strides)).bind
      (fun worker => worker.runners[number]?.map (·.signal)) = some signal) :
    ¬(make pool registry address).CalledOff ((make pool registry address).events strides)
      number := by
  rcases Option.bind_eq_some_iff.mp heard with ⟨worker, reached, same⟩
  rcases Option.map_eq_some_iff.mp same with ⟨runner, found, rfl⟩
  rw [(verdict_of_run? reached isDeclaration_of_mem_events found).calledOff, calm]
  decide

theorem jobs_are_looked_up_late_replacedInTheQueue :
    let start := make (.ofSize 1) .builtin ⟨"host", 1, 2⟩
    let strides := replacedInTheQueue ++ .take 1 :: knownTooLate
    ∃ worker taken runner, start.run? (start.events strides) = some worker ∧
      start.run? (start.events (replacedInTheQueue ++ [.take 1])) = some taken ∧
      taken.runners[1]? = some runner ∧ runner.stage = .working (.constant (.integer 2)) ∧
      worker.registry.find? "never" = some .script ∧
      (start.chronicle (start.events strides)).finals 2 = [⟨⟨1, 3⟩, .failed, none,
        some "no hay definición registrada para el job 'never'", ⟨"host", 1, 2⟩⟩] := by
  intro start strides
  have accepted : (start.run? (start.events strides)).map (fun worker =>
      worker.submissions.map fun task => (task.key, task.config.name)) =
        some [(⟨1, 1⟩, "sleep"), (⟨1, 2⟩, "job"), (⟨1, 3⟩, "never")] := by decide +kernel
  rcases Option.map_eq_some_iff.mp accepted with ⟨worker, ran, accepted⟩
  have task {number : Nat} {runner : Runner} (found : worker.runners[number]? = some runner) :
      [(⟨1, 1⟩, "sleep"), (⟨1, 2⟩, "job"), (⟨1, 3⟩, "never")][number]? =
        some (runner.submission.key, runner.submission.config.name) := by
    rw [← accepted, List.getElem?_map, getElem?_submissions found]
    rfl
  rcases jobs_are_looked_up_late ran with ⟨⟨-, -, known⟩, -, -, -, looked, -⟩
  rcases looked replacedInTheQueue 1 knownTooLate rfl with ⟨second, found, resolved⟩
  have parts : strides = strides.take 15 ++ .take 2 :: strides.drop 16 := rfl
  rcases looked (strides.take 15) 2 (strides.drop 16) parts with ⟨third, foundThird, missed⟩
  rcases Prod.mk.inj (Option.some.inj (task found)) with ⟨-, name⟩
  rcases Prod.mk.inj (Option.some.inj (task foundThird)) with ⟨keyThird, nameThird⟩
  rw [← name] at resolved
  have calm : Signal.queued.isInterrupted = false := rfl
  have job : Registry.builtin.latest? (replacedInTheQueue.map Stride.event) "job" =
      some (.constant (.integer 2)) := rfl
  rcases resolved.begun job (not_calledOff_of_signal calm (by decide +kernel)) with
    ⟨taken, runner, took, foundTaken, works⟩
  refine ⟨worker, taken, runner, ran, took, foundTaken, works, (known "never").trans rfl, ?_⟩
  have absent : Registry.builtin.latest? ((strides.take 15).map Stride.event)
      third.submission.config.name = none := by
    rw [← nameThird]
    rfl
  have failed := (missed.failed absent (not_calledOff_of_signal calm (by decide +kernel))).2
  rw [unknown, ← keyThird, ← nameThird, ← parts] at failed
  exact failed

end TaskAgent.Worker
