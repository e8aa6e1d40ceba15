import TaskAgent.Proofs.Worker.InFlight
import TaskAgent.Proofs.Worker.Life

/-!
# What the changed records tell

Of a worker of which nothing was called off and nothing was handed over for good, the changed
records are known from its runners alone (`Worker.Tells`): a running record for every task whose
runner is live, the final record for every other one, and nothing else. Every step of a runner keeps
this, if the outcome that it is bound to report is the one that its final record is known to have
(`Worker.Tells.change`).
-/

namespace TaskAgent

namespace Runner

variable {registry : Registry} {runner moved : Runner}

/-- What is told of the task of a runner, given its final record. -/
def told (final : Submission → Option TaskRecord) (address : Address) (runner : Runner) :
    Option TaskRecord :=
  if runner.isLive then some (.running runner.submission.key address)
  else final runner.submission

theorem told_of_isLive {final : Submission → Option TaskRecord} {address : Address}
    (live : runner.isLive = true) :
    runner.told final address = some (.running runner.submission.key address) :=
  if_pos live

theorem isOpen_of_isLive (agreed : runner.IsOpen ∨ runner.IsSettled)
    (calm : runner.signal.isInterrupted = false) (live : runner.isLive = true) :
    runner.IsOpen := by
  rcases agreed with isOpen | settled
  · exact isOpen
  · rw [settled.isInterrupted live] at calm
    cases calm

theorem Works.isLive (works : runner.Works registry moved) : runner.isLive = true := by
  cases works with
  | start stepped =>
      rcases start_cases stepped with ⟨stage, -, -⟩ | ⟨stage, -, -⟩ | ⟨stage | stage, -, -⟩ <;>
        simp [Runner.isLive, stage]
  | enter stepped =>
      rcases (change_cases stepped).1 with ⟨definition, stage⟩
      simp [Runner.isLive, stage]
  | leave stepped =>
      rcases (change_cases stepped).1 with ⟨definition, stage⟩
      simp [Runner.isLive, stage]
  | finish outcome stepped =>
      rcases (finish_cases stepped).1 with ⟨definition, stage⟩
      simp [Runner.isLive, stage]
  | commit stepped =>
      rcases commit_cases stepped with ⟨outcome, stage, -⟩
      simp [Runner.isLive, stage]

end Runner

namespace Worker

variable {worker changed : Worker} {event : Event} {number other : Nat} {runner moved : Runner}
  {final : Submission → Option TaskRecord}

/-- The changed records are those that the runners make known. -/
structure Tells (final : Submission → Option TaskRecord) (worker : Worker) : Prop where
  distinct : (worker.submissions.map Submission.key).Nodup
  told_iff : ∀ {key : TaskKey} {record : TaskRecord},
    worker.tracker.updates.find? key = some record ↔ ∃ (number : Nat) (runner : Runner),
      worker.runners[number]? = some runner ∧ runner.submission.key = key ∧
        runner.told final worker.tracker.address = some record

theorem tells_make (pool : Pool) (registry : Registry) (address : Address) :
    (make pool registry address).Tells final := by
  constructor
  · exact List.nodup_nil
  · simp [make]

namespace Tells

theorem eq_of_key_eq (tells : worker.Tells final) {rival : Runner}
    (found : worker.runners[number]? = some runner)
    (foundOther : worker.runners[other]? = some rival)
    (same : rival.submission.key = runner.submission.key) : other = number := by
  have keyed (place : Nat) (holder : Runner) (stands : worker.runners[place]? = some holder) :
      (worker.submissions.map Submission.key)[place]? = some holder.submission.key := by
    simp [getElem?_submissions stands]
  have inside : other < (worker.submissions.map Submission.key).length := by
    simpa [submissions] using (List.getElem?_eq_some_iff.mp foundOther).1
  refine (List.getElem?_inj inside tells.distinct).mp ?_
  rw [keyed other rival foundOther, keyed number runner found, same]

theorem accept (tells : worker.Tells final) {submission : Submission}
    (new : submission.key ∉ worker.submissions.map Submission.key) :
    ({ worker with
      pool := worker.pool.enqueue
      tracker := worker.tracker.accept submission.key worker.runners.length
      runners := worker.runners ++ [.ofSubmission submission] } : Worker).Tells final := by
  have live : (Runner.ofSubmission submission).isLive = true := rfl
  constructor
  · have distinct := tells.distinct
    simp only [submissions, List.map_append, List.map_cons, List.map_nil] at distinct new ⊢
    rw [List.nodup_append]
    refine ⟨distinct, by simp, ?_⟩
    rintro key old last recent rfl
    cases List.mem_singleton.mp recent
    exact new old
  · intro key record
    simp only [Tracker.find?_updates_accept, getElem?_concat_eq_some_iff, Tracker.address_accept]
    split
    · next own =>
        subst own
        constructor
        · rintro ⟨⟩
          exact ⟨_, _, Or.inr ⟨rfl, rfl⟩, rfl, Runner.told_of_isLive live⟩
        · rintro ⟨number, runner, old | ⟨-, rfl⟩, same, told⟩
          · refine absurd (List.mem_map.mpr ⟨runner.submission, ?_, same⟩) new
            exact List.mem_of_getElem? (getElem?_submissions old)
          · exact (Runner.told_of_isLive live).symm.trans told
    · next differs =>
        rw [tells.told_iff]
        constructor
        · rintro ⟨number, runner, found, own, told⟩
          exact ⟨number, runner, Or.inl found, own, told⟩
        · rintro ⟨number, runner, old | ⟨-, rfl⟩, own, told⟩
          · exact ⟨number, runner, old, own, told⟩
          · exact absurd own differs

/-- A step of which nothing new is told. -/
theorem move (tells : worker.Tells final) (found : worker.runners[number]? = some runner)
    (same : moved.submission = runner.submission)
    (live : moved.isLive = runner.isLive) (pool : Pool) :
    ({ worker.setRunner number moved with pool } : Worker).Tells final := by
  have told : moved.told final worker.tracker.address =
      runner.told final worker.tracker.address := by
    simp [Runner.told, same, live]
  constructor
  · have kept : ({ worker.setRunner number moved with pool } : Worker).submissions =
        worker.submissions := submissions_setRunner found same
    rw [kept]
    exact tells.distinct
  · intro key record
    simp only [getElem?_setRunner found, tracker_setRunner]
    rw [tells.told_iff]
    constructor
    · rintro ⟨other, rival, foundOther, own, speaks⟩
      by_cases here : number = other
      · subst here
        cases found.symm.trans foundOther
        exact ⟨number, moved, if_pos rfl, same ▸ own, told.trans speaks⟩
      · exact ⟨other, rival, (if_neg here).trans foundOther, own, speaks⟩
    · rintro ⟨other, rival, foundOther, own, speaks⟩
      split at foundOther
      · cases foundOther
        exact ⟨number, runner, found, same ▸ own, told.symm.trans speaks⟩
      · exact ⟨other, rival, foundOther, own, speaks⟩

/-- A report. -/
theorem finish (tells : worker.Tells final) {last : TaskRecord}
    (found : worker.runners[number]? = some runner) (same : moved.submission = runner.submission)
    (ceased : moved.isLive = false) (known : final runner.submission = some last) :
    ({ worker.setRunner number moved with
      tracker := worker.tracker.finish runner.submission.key last } : Worker).Tells final := by
  have told : moved.told final worker.tracker.address = some last := by
    simp [Runner.told, same, ceased, known]
  constructor
  · have kept : ({ worker.setRunner number moved with
        tracker := worker.tracker.finish runner.submission.key last } : Worker).submissions =
        worker.submissions := submissions_setRunner found same
    rw [kept]
    exact tells.distinct
  · intro key record
    simp only [getElem?_setRunner found, Tracker.find?_updates_finish, Tracker.address_finish]
    split
    · next here =>
        subst here
        constructor
        · rintro ⟨⟩
          exact ⟨number, moved, if_pos rfl, congrArg Submission.key same, told⟩
        · rintro ⟨other, rival, foundOther, own, speaks⟩
          split at foundOther
          · cases foundOther
            exact told.symm.trans speaks
          · next differs => exact absurd (tells.eq_of_key_eq found foundOther own).symm differs
    · next differs =>
        rw [tells.told_iff]
        constructor
        · rintro ⟨other, rival, foundOther, own, speaks⟩
          have elsewhere : number ≠ other := by
            rintro rfl
            cases found.symm.trans foundOther
            exact differs own
          exact ⟨other, rival, (if_neg elsewhere).trans foundOther, own, speaks⟩
        · rintro ⟨other, rival, foundOther, own, speaks⟩
          split at foundOther
          · cases foundOther
            exact absurd ((congrArg Submission.key same).symm.trans own) differs
          · exact ⟨other, rival, foundOther, own, speaks⟩

/-- Every step of a runner, if nothing was called off. -/
theorem change (tells : worker.Tells final) (change : worker.Change event changed)
    (mover : event.mover? = some number) (coherent : worker.Coherent)
    (calm : ∀ {number : Nat} {runner : Runner}, worker.runners[number]? = some runner →
      runner.signal.isInterrupted = false)
    (known : ∀ {number : Nat} {runner : Runner} {outcome : Outcome},
      worker.runners[number]? = some runner → runner.stage = .reporting outcome →
        final runner.submission =
          some ((TaskRecord.running runner.submission.key worker.tracker.address).ended outcome)) :
    changed.Tells final := by
  cases change with
  | ignored quiet => exact tells
  | granted found waits unclosed free =>
      refine tells.move found ?_ ?_ _
      · rfl
      · simp [Runner.isLive, waits]
  | refused found waits closed =>
      refine tells.move found ?_ ?_ _
      · rfl
      · simp [Runner.isLive, waits]
  | worked quiet found works =>
      have isOpen := Runner.isOpen_of_isLive (coherent.agreed found) (calm found) works.isLive
      refine tells.move found works.submission_eq ?_ _
      rw [works.isLive, (works.isOpen isOpen).isLive]
  | reported found stage unfinished =>
      rw [(coherent.handle_of_unfinished unfinished).1]
      exact tells.finish found rfl rfl (known found stage)
  | missed found stage absent =>
      have isOpen := coherent.isOpen_of_reporting found stage
      rw [coherent.unfinished_of_isOpen found isOpen] at absent
      cases absent
  | left found stage =>
      refine tells.move found ?_ ?_ _
      · rfl
      · simp [Runner.isLive, stage]
  | declared declares finishes =>
      rw [Event.isDeclaration_of_mover? mover] at declares
      cases declares
  | _ => cases mover

end Tells

end Worker

end TaskAgent
