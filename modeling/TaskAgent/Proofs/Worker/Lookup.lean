import TaskAgent.Proofs.Worker.Closing
import TaskAgent.Proofs.Worker.Verdict

/-!
# When a job is looked up

Which job a task does is not settled when it is submitted. Its runner looks the job up once, when
it starts in its slot, and finds what was last made known under the name until then
(`Registry.latest?`). From then on the runner follows what it found (`Runner.Follows`): it does
that job and no other, and looks nothing up any more.
-/

namespace TaskAgent

/-- The job that is made known. -/
def Event.registration? : Event → Option (String × Definition)
  | register name definition => some (name, definition)
  | _ => none

/-- The jobs that are made known, in turn. -/
def registrations (events : List Event) : List (String × Definition) :=
  events.filterMap Event.registration?

/-- An event is parted from what comes before and after it, wherever a list is cut. -/
theorem exists_of_append_eq_cons {α : Type} {earlier later before after : List α} {middle : α}
    (parts : earlier ++ later = before ++ middle :: after) :
    (∃ between, earlier = before ++ middle :: between ∧ after = between ++ later) ∨
      ∃ between, before = earlier ++ between ∧ later = between ++ middle :: after := by
  rcases List.append_eq_append_iff.mp parts with ⟨between, rfl, rest⟩ | ⟨between, rfl, rest⟩
  · exact Or.inr ⟨between, rfl, rest⟩
  · cases between with
    | nil => exact Or.inr ⟨[], by simp, by simpa using rest.symm⟩
    | cons head between =>
        rcases List.cons.inj rest with ⟨rfl, rfl⟩
        exact Or.inl ⟨between, rfl, rfl⟩

namespace Registry

variable {registry : Registry} {past : List Event} {event : Event} {name : String}
  {definition : Definition}

/-- The job that was last made known under a name, or else the one that was known at first. -/
def latest? (registry : Registry) (past : List Event) (name : String) : Option Definition :=
  ((registrations past).reverse.lookup name).or (registry.find? name)

@[simp] theorem latest?_nil (registry : Registry) (name : String) :
    registry.latest? [] name = registry.find? name := rfl

theorem latest?_concat_register (registry : Registry) (past : List Event) (name other : String)
    (definition : Definition) :
    registry.latest? (past ++ [.register other definition]) name =
      if other = name then some definition else registry.latest? past name := by
  by_cases same : name = other
  · simp [latest?, registrations, Event.registration?, same]
  · have differs : (name == other) = false := by simp [same]
    simp [latest?, registrations, Event.registration?, List.lookup_cons, differs, Ne.symm same]

theorem latest?_concat (quiet : ∀ definition, event ≠ .register name definition) :
    registry.latest? (past ++ [event]) name = registry.latest? past name := by
  cases event with
  | register other definition =>
      rw [latest?_concat_register, if_neg]
      rintro rfl
      exact quiet definition rfl
  | _ => simp [latest?, registrations, List.filterMap_cons, Event.registration?]

theorem find?_after (registry : Registry) (past : List Event) (event : Event) (name : String)
    {known : Registry} (found : known.find? name = registry.latest? past name) :
    (known.after event).find? name = registry.latest? (past ++ [event]) name := by
  cases event with
  | register other definition =>
      rw [latest?_concat_register, ← found]
      exact Ledger.find?_insert ..
  | _ =>
      rw [latest?_concat (by simp)]
      exact found

theorem exists_latest?_iff :
    (∃ definition, registry.latest? past name = some definition) ↔
      name ∈ registry.keys ∨ ∃ definition, .register name definition ∈ past := by
  induction past using List.reverseRecOn with
  | nil => simp [Ledger.mem_keys]
  | append_singleton past event ih =>
      cases event with
      | register other definition =>
          rw [latest?_concat_register]
          by_cases same : other = name
          · subst same
            simp
          · simp [same, Ne.symm same, ih]
      | _ =>
          rw [latest?_concat (by simp), ih]
          simp

end Registry

namespace Runner

variable {registry : Registry} {number : Nat} {event : Event} {runner moved : Runner}
  {known : Option Definition}

/-- The runner has started, and if it does its job then this one. -/
def Follows (known : Option Definition) (runner : Runner) : Prop :=
  match runner.stage with
  | .waiting | .admitted | .refused => False
  | .working definition => known = some definition
  | _ => True

theorem Follows.start?_eq_none (follows : runner.Follows known) :
    runner.start? registry = none := by
  rcases runner with ⟨submission, signal, stage, slot⟩
  cases stage with
  | waiting => exact follows.elim
  | admitted => exact follows.elim
  | refused => exact follows.elim
  | _ => rfl

theorem Follows.eq_some (follows : runner.Follows known) {definition : Definition}
    (stage : runner.stage = .working definition) : known = some definition := by
  simpa [Follows, stage] using follows

theorem Works.follows (works : runner.Works registry moved) (follows : runner.Follows known) :
    moved.Follows known := by
  cases works with
  | start stepped => simp [follows.start?_eq_none] at stepped
  | enter stepped =>
      rcases change_cases stepped with ⟨-, rfl⟩
      exact follows
  | leave stepped =>
      rcases change_cases stepped with ⟨-, rfl⟩
      exact follows
  | finish outcome stepped =>
      rcases finish_cases stepped with ⟨-, rfl⟩
      trivial
  | commit stepped =>
      rcases commit_cases stepped with ⟨ended, -, ⟨-, rfl⟩ | ⟨-, -, rfl⟩⟩ <;> trivial

/-- Whoever has started goes on with what it found. -/
theorem Lives.follows (lives : Lives registry number event runner moved)
    (follows : runner.Follows known) : moved.Follows known := by
  cases lives with
  | untouched alien => exact follows
  | interrupted => exact follows
  | granted waits => simp [Follows, waits] at follows
  | refused waits => simp [Follows, waits] at follows
  | started stepped => exact Works.follows (.start stepped) follows
  | entered stepped =>
      have works : runner.Works registry moved := .enter stepped
      exact works.follows follows
  | left stepped =>
      have works : runner.Works registry moved := .leave stepped
      exact works.follows follows
  | @finished outcome _ _ stepped =>
      have works : runner.Works registry moved := .finish outcome stepped
      exact works.follows follows
  | committed stepped =>
      have works : runner.Works registry moved := .commit stepped
      exact works.follows follows
  | reported stage => trivial
  | gone stage => trivial

/-- The beginnings of a runner lie behind it once it has started. -/
theorem Lives.ne_of_follows (lives : Lives registry number event runner moved)
    (follows : runner.Follows known) :
    event ≠ .grant number ∧ event ≠ .refuse number ∧ event ≠ .start number := by
  cases lives with
  | untouched alien =>
      refine ⟨?_, ?_, ?_⟩
      all_goals
        rintro rfl
        exact alien rfl
  | granted waits => simp [Follows, waits] at follows
  | refused waits => simp [Follows, waits] at follows
  | started stepped => simp [follows.start?_eq_none] at stepped
  | _ => simp

end Runner

namespace Worker

variable {start worker final : Worker} {events : List Event} {number : Nat} {runner : Runner}
  {known : Option Definition}

/-- What is known under a name is what was last made known under it. -/
theorem find?_registry_of_run? (ran : start.run? events = some worker) (name : String) :
    worker.registry.find? name = start.registry.latest? events name := by
  apply run?_induction ran (motive := fun past worker =>
    worker.registry.find? name = start.registry.latest? past name)
  · rfl
  · intro past before event after _ stepped found
    rw [registry_of_step? stepped]
    exact Registry.find?_after _ past event name found

/-- Nobody begins twice. -/
theorem ne_of_follows (found : worker.runners[number]? = some runner)
    (follows : runner.Follows known) (ran : worker.run? events = some final) :
    ∀ event ∈ events, event ≠ .grant number ∧ event ≠ .refuse number ∧ event ≠ .start number := by
  intro event member
  rcases List.append_of_mem member with ⟨past, later, rfl⟩
  rw [run?_append] at ran
  rcases Option.bind_eq_some_iff.mp ran with ⟨before, reached, rest⟩
  rcases runner_keeps_of_run? reached found follows (motive := Runner.Follows known)
    (fun lives => lives.follows) with ⟨again, foundAgain, follows⟩
  rcases exists_of_run?_cons rest with ⟨after, stepped, -⟩
  rcases lives_of_step? stepped foundAgain with ⟨moved, -, lives⟩
  exact lives.ne_of_follows follows

end Worker

end TaskAgent
