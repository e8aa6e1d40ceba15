import TaskAgent.Proofs.Worker.Custody
import TaskAgent.Proofs.Worker.FinalRecord

/-!
# Relapses

A record that comes back gives way to a newer one of its task, but only to one that is still
there. If the newer record was handed over in the meantime, the older one takes its place again,
and the next list says of a task that it runs although an earlier list said how it ended
(`Custody.relapse_overtaken`).

Nothing else leads to a relapse: it takes a list that was handed over before the final record and
comes back after it (`Custody.no_relapse`). Each acceptance has a number of its own, every entry
bears the number of its acceptance (`Custody.Numbered`), and the one entry of an acceptance that
is not final is made before its final one. So it is in an older list, or it was lost to the final
entry where both stood under one key.
-/

namespace TaskAgent

/-- The entry is about the task that was accepted under its number. -/
def Entry.IsNumbered (submissions : List Submission) (entry : Entry) : Prop :=
  ∃ number submission, entry.number = some number ∧ submissions[number]? = some submission ∧
    submission.key = entry.record.key

theorem Entry.IsNumbered.mono {entry : Entry} {before after : List Submission}
    (numbered : entry.IsNumbered before) (more : before <+: after) :
    entry.IsNumbered after := by
  rcases numbered with ⟨number, submission, bears, accepted, own⟩
  exact ⟨number, submission, bears, Worker.getElem?_of_prefix more accepted, own⟩

/-- The entries are about different acceptances, or about the same task. -/
theorem Entry.IsNumbered.key_eq {first second : Entry} {submissions : List Submission}
    (firstNumbered : first.IsNumbered submissions) (secondNumbered : second.IsNumbered submissions)
    (same : first.number = second.number) : first.record.key = second.record.key := by
  rcases firstNumbered with ⟨number, submission, bears, accepted, own⟩
  rcases secondNumbered with ⟨other, submissionOther, bearsOther, acceptedOther, ownOther⟩
  cases bears.symm.trans (same.trans bearsOther)
  cases accepted.symm.trans acceptedOther
  exact own.symm.trans ownOther

namespace Worker

variable {worker changed : Worker} {event : Event} {key : TaskKey} {number : Nat} {entry : Entry}

/-- The handle of every task is the number of an acceptance of that task. -/
def HandlesNumbered (worker : Worker) : Prop :=
  ∀ {key : TaskKey} {number : Nat}, worker.tracker.handles.find? key = some number →
    ∃ submission, worker.submissions[number]? = some submission ∧ submission.key = key

theorem submissions_of_accept (accepts : worker.effect event = .accept key number)
    (stepped : worker.step? event = some changed) :
    ∃ submission, changed.submissions[number]? = some submission ∧ submission.key = key := by
  rcases submit_of_effect accepts with ⟨rfl, fresh, submission, rfl, rfl⟩
  cases stepped
  refine ⟨submission, ?_, rfl⟩
  simp [submit, Tracker.isInFlight_eq_false_iff.mpr fresh, submissions, Runner.ofSubmission]

theorem handlesNumbered_of_step? (stepped : worker.step? event = some changed)
    (numbered : worker.HandlesNumbered) : changed.HandlesNumbered := by
  intro key number handle
  rcases handle_of_step? stepped handle with before | accepts
  · rcases numbered before with ⟨submission, accepted, own⟩
    have more := submissions_prefix_of_change (change_of_step? stepped)
    exact ⟨submission, getElem?_of_prefix more accepted, own⟩
  · exact submissions_of_accept accepts stepped

theorem isNumbered_of_made? (wellKept : worker.tracker.WellKept)
    (numbered : worker.HandlesNumbered) (stepped : worker.step? event = some changed)
    (made : worker.made? event = some entry) : entry.IsNumbered changed.submissions := by
  unfold made? at made
  split at made
  · next key number accepts =>
      cases made
      rcases submissions_of_accept accepts stepped with ⟨submission, accepted, own⟩
      exact ⟨number, submission, rfl, accepted, own⟩
  · next key record finishes =>
      cases made
      rcases exists_endsAs_of_effect finishes with ⟨old, inFlight, ends⟩
      have contained := wellKept.contains_handles key
      simp only [Ledger.contains, inFlight, Option.isSome_some] at contained
      rcases Option.isSome_iff_exists.mp contained with ⟨number, handle⟩
      rcases numbered handle with ⟨submission, accepted, own⟩
      have more := submissions_prefix_of_change (change_of_step? stepped)
      refine ⟨number, submission, handle, getElem?_of_prefix more accepted, ?_⟩
      rw [own, ends.key_eq, wellKept.keyed.unfinished inFlight]
  · cases made

/-- After an acceptance its number is borne by final entries only. -/
theorem isFinal_of_made? (known : number < worker.runners.length)
    (made : worker.made? event = some entry) (bears : entry.number = some number) :
    entry.isFinal = true := by
  unfold made? at made
  split at made
  · next key place accepts =>
      cases made
      cases bears
      have here := (submit_of_effect accepts).1
      omega
  · next key record finishes =>
      cases made
      rcases exists_endsAs_of_effect finishes with ⟨old, inFlight, ends⟩
      exact ends.isFinal
  · cases made

end Worker

namespace Custody

variable {custody changed : Custody} {move : Move} {moves : List Move} {place number : Nat}

/-- What is held after a move was held before, was made at the move, or came back with it. -/
theorem held_of_step? {key : TaskKey} {entry : Entry}
    (stepped : custody.step? move = some changed) (found : changed.held.find? key = some entry) :
    custody.held.find? key = some entry ∨
      (entry.record.key = key ∧
        ((∃ event, move = .work event ∧ custody.worker.made? event = some entry) ∨
          ∃ place entries, move = .restore place ∧ custody.handed[place]? = some entries ∧
            entry ∈ entries)) := by
  cases move with
  | work event =>
      rcases exists_of_work? stepped with ⟨worker, single, moved, rfl⟩
      cases made : custody.worker.made? event with
      | none =>
          simp only [made, keep] at found
          exact Or.inl found
      | some new =>
          simp only [made, find?_keep_some] at found
          split at found
          · next own =>
              cases found
              exact Or.inr ⟨own, Or.inl ⟨event, rfl, made⟩⟩
          · exact Or.inl found
  | drain =>
      cases stepped
      cases found
  | restore place =>
      rcases exists_of_restore? stepped with ⟨entries, returned, rfl⟩
      rw [find?_keepNew, Option.or_eq_some_iff] at found
      rcases found with kept | ⟨-, back⟩
      · exact Or.inl kept
      · have own : entry.record.key = key := by simpa using List.find?_some back
        have member := List.mem_of_find?_eq_some back
        exact Or.inr ⟨own, Or.inr ⟨place, entries, rfl, returned, member⟩⟩

/-- What was handed over after a move was handed over before, or it was held. -/
theorem handed_of_step? {entries : List Entry} (stepped : custody.step? move = some changed)
    (returned : changed.handed[place]? = some entries) :
    custody.handed[place]? = some entries ∨ entries = custody.held.values := by
  cases move with
  | work event =>
      rcases exists_of_work? stepped with ⟨worker, single, moved, rfl⟩
      exact Or.inl returned
  | drain =>
      cases stepped
      rw [List.getElem?_append] at returned
      split at returned
      · exact Or.inl returned
      · rw [List.getElem?_singleton] at returned
        split at returned
        · exact Or.inr (Option.some.inj returned).symm
        · cases returned
  | restore place =>
      rcases exists_of_restore? stepped with ⟨back, listed, rfl⟩
      exact Or.inl returned

theorem submissions_prefix_of_step? (stepped : custody.step? move = some changed) :
    custody.worker.submissions <+: changed.worker.submissions := by
  cases move with
  | work event =>
      rcases exists_of_work? stepped with ⟨worker, single, moved, rfl⟩
      exact Worker.submissions_prefix_of_change (Worker.change_of_step? moved)
  | drain =>
      cases stepped
      exact List.prefix_refl _
  | restore place =>
      rcases exists_of_restore? stepped with ⟨entries, returned, rfl⟩
      exact List.prefix_refl _

/-- Every entry in custody is about the task that was accepted under its number. -/
structure Numbered (custody : Custody) : Prop where
  handles : custody.worker.HandlesNumbered
  held : ∀ {key : TaskKey} {entry : Entry}, custody.held.find? key = some entry →
    entry.record.key = key ∧ entry.IsNumbered custody.worker.submissions
  handed : ∀ {place : Nat} {entries : List Entry}, custody.handed[place]? = some entries →
    ∀ entry ∈ entries, entry.IsNumbered custody.worker.submissions

theorem numbered_make (pool : Pool) (registry : Registry) (address : Address) :
    (make pool registry address).Numbered := by
  constructor
  · intro key number handle
    cases handle
  · intro key entry found
    cases found
  · intro place entries returned
    cases returned

theorem Numbered.of_values {entry : Entry} (numbered : custody.Numbered)
    (member : entry ∈ custody.held.values) :
    custody.held.find? entry.record.key = some entry ∧
      entry.IsNumbered custody.worker.submissions := by
  rcases Ledger.mem_values.mp member with ⟨key, found⟩
  rcases numbered.held found with ⟨rfl, own⟩
  exact ⟨found, own⟩

theorem Numbered.step (numbered : custody.Numbered) (wellKept : custody.WellKept)
    (stepped : custody.step? move = some changed) : changed.Numbered := by
  have more := submissions_prefix_of_step? stepped
  constructor
  · cases move with
    | work event =>
        rcases exists_of_work? stepped with ⟨worker, single, moved, rfl⟩
        exact Worker.handlesNumbered_of_step? moved numbered.handles
    | drain =>
        cases stepped
        exact numbered.handles
    | restore place =>
        rcases exists_of_restore? stepped with ⟨entries, returned, rfl⟩
        exact numbered.handles
  · intro key entry found
    rcases held_of_step? stepped found with
      before | ⟨own, ⟨event, rfl, made⟩ | ⟨place, entries, rfl, returned, member⟩⟩
    · rcases numbered.held before with ⟨own, known⟩
      exact ⟨own, known.mono more⟩
    · rcases exists_of_work? stepped with ⟨worker, single, moved, rfl⟩
      exact ⟨own, Worker.isNumbered_of_made? wellKept.tracker numbered.handles moved made⟩
    · exact ⟨own, (numbered.handed returned entry member).mono more⟩
  · intro place entries returned entry member
    rcases handed_of_step? stepped returned with before | rfl
    · exact (numbered.handed before entry member).mono more
    · exact (numbered.of_values member).2.mono more

/-- All that is held or was handed over from a place on says that the acceptance with this number
has ended. -/
structure Settled (custody : Custody) (place number : Nat) : Prop where
  known : number < custody.worker.runners.length
  held : ∀ {key : TaskKey} {entry : Entry}, custody.held.find? key = some entry →
    entry.number = some number → entry.isFinal = true
  handed : ∀ {later : Nat} {entries : List Entry}, place ≤ later →
    custody.handed[later]? = some entries →
      ∀ entry ∈ entries, entry.number = some number → entry.isFinal = true

theorem Settled.step (settled : custody.Settled place number)
    (stepped : custody.step? move = some changed)
    (recent : ∀ earlier, move = .restore earlier → place ≤ earlier) :
    changed.Settled place number := by
  have known := settled.known
  constructor
  · have more := (submissions_prefix_of_step? stepped).length_le
    rw [Worker.length_submissions, Worker.length_submissions] at more
    omega
  · intro key entry found bears
    rcases held_of_step? stepped found with
      before | ⟨own, ⟨event, rfl, made⟩ | ⟨earlier, entries, rfl, returned, member⟩⟩
    · exact settled.held before bears
    -- the number is taken, so an acceptance now has another one
    · exact Worker.isFinal_of_made? known made bears
    · exact settled.handed (recent earlier rfl) returned entry member bears
  · intro later entries after returned entry member bears
    rcases handed_of_step? stepped returned with before | rfl
    · exact settled.handed after before entry member bears
    · rcases Ledger.mem_values.mp member with ⟨key, found⟩
      exact settled.held found bears

/-- When a final record is handed over, its acceptance is settled from that list on. -/
theorem Numbered.settled {final : Entry} (numbered : custody.Numbered)
    (stepped : custody.step? .drain = some changed) (member : final ∈ custody.held.values)
    (ended : final.isFinal = true) (bears : final.number = some number) :
    changed.Settled custody.handed.length number := by
  rcases numbered.of_values member with ⟨found, finalNumbered⟩
  cases stepped
  constructor
  · rcases finalNumbered with ⟨place, submission, bearsToo, accepted, own⟩
    cases bears.symm.trans bearsToo
    rw [← Worker.length_submissions]
    exact (List.getElem?_eq_some_iff.mp accepted).1
  · intro key entry stands
    cases stands
  · intro later entries after returned entry listed bearsToo
    rw [List.getElem?_append_right after, List.getElem?_singleton] at returned
    split at returned
    · cases returned
      rcases numbered.of_values listed with ⟨stands, entryNumbered⟩
      -- two entries of one acceptance cannot stand beside each other
      have same := finalNumbered.key_eq entryNumbered (bears.trans bearsToo.symm)
      rw [← same, found] at stands
      exact Option.some.inj stands ▸ ended
    · cases returned

theorem settled_of_run? (ran : custody.run? moves = some changed)
    (settled : custody.Settled place number)
    (recent : ∀ earlier, .restore earlier ∈ moves → place ≤ earlier) :
    changed.Settled place number := by
  refine keeps_of_run? ran settled (motive := fun custody => custody.Settled place number) ?_
  intro move member before after stepped settled
  apply settled.step stepped
  rintro earlier rfl
  exact recent earlier member

theorem numbered_of_run? (ran : custody.run? moves = some changed) (wellKept : custody.WellKept)
    (numbered : custody.Numbered) : changed.WellKept ∧ changed.Numbered := by
  refine keeps_of_run? ran ⟨wellKept, numbered⟩ (motive := fun custody =>
    custody.WellKept ∧ custody.Numbered) ?_
  rintro move - before after stepped ⟨wellKept, numbered⟩
  exact ⟨wellKept.step stepped, numbered.step wellKept stepped⟩

/-- An acceptance has ended by the earlier list and goes on by the later one. -/
def Relapses (earlier later : List Entry) : Prop :=
  ∃ final ∈ earlier, final.isFinal = true ∧
    ∃ entry ∈ later, entry.number = final.number ∧ entry.isFinal = false

/-- A task is accepted and handed over as running, it ends and is handed over as completed, and
then the first list comes back. -/
def overtaken : List Move :=
  [.work (.register "job" .script), .work (.submit ⟨⟨1, 1⟩, ⟨"job"⟩, .null, "scratch"⟩), .drain,
    .work (.grant 0), .work (.start 0), .work (.finish 0 (.ok .null)), .work (.commit 0),
    .work (.report 0), .work (.exit 0), .drain, .restore 0, .drain]

/-- It is not so that what was handed over as ended is never handed over as running again. -/
theorem relapse_overtaken :
    ∃ custody, (make (.ofSize 1) .empty ⟨"host", 1, 2⟩).run? overtaken = some custody ∧
      ¬custody.handed.Pairwise fun earlier later => ¬Relapses earlier later := by
  refine ⟨_, rfl, ?_⟩
  intro ordered
  have listed := (List.pairwise_cons.mp (List.pairwise_cons.mp ordered).2).1
  exact listed _ List.mem_cons_self ⟨_, List.mem_cons_self, rfl, _, List.mem_cons_self, rfl, rfl⟩

/-- Once a final record was handed over, the next lists do not say that its task still runs, as
long as none of the lists before it comes back. -/
theorem no_relapse {pool : Pool} {registry : Registry} {address : Address} {before : List Move}
    {final : Custody} (ran : (make pool registry address).run? before = some custody)
    (went : custody.run? (.drain :: moves) = some final)
    (recent : ∀ place, .restore place ∈ moves → custody.handed.length ≤ place) :
    custody.worker.drain.1 = custody.held.values.map Entry.record ∧
    final.worker.drain.1 = final.held.values.map Entry.record ∧
    ¬Relapses custody.held.values final.held.values := by
  rcases numbered_of_run? ran (wellKept_make pool registry address)
    (numbered_make pool registry address) with ⟨wellKept, numbered⟩
  have later := (numbered_of_run? went wellKept numbered).1
  refine ⟨wellKept.faithful.drain_eq, later.faithful.drain_eq, ?_⟩
  rintro ⟨ended, member, isFinal, entry, listed, same, runs⟩
  rcases (numbered.of_values member).2 with ⟨number, submission, bears, -⟩
  rcases exists_of_run?_cons went with ⟨changed, stepped, went⟩
  have settled := settled_of_run? went (numbered.settled stepped member isFinal bears) recent
  rcases Ledger.mem_values.mp listed with ⟨key, found⟩
  rw [settled.held found (same.trans bears)] at runs
  cases runs

/-- The final record itself comes back, and the task is submitted again. -/
def broughtBack : List Move :=
  [.restore 1, .drain, .work (.submit ⟨⟨1, 1⟩, ⟨"job"⟩, .null, "scratch"⟩), .restore 2, .restore 1]

theorem no_relapse_returned :
    ∃ custody final,
      (make (.ofSize 1) .empty ⟨"host", 1, 2⟩).run? (overtaken.take 9) = some custody ∧
      custody.run? (.drain :: broughtBack) = some final ∧
      custody.handed.length = 1 ∧ custody.worker.drain.1.map TaskRecord.status = [.completed] ∧
      final.worker.drain.1.map TaskRecord.status = [.running] ∧
      ¬Relapses custody.held.values final.held.values := by
  have remains : ∀ custody final,
      (make (.ofSize 1) .empty ⟨"host", 1, 2⟩).run? (overtaken.take 9) = some custody →
        custody.run? (.drain :: broughtBack) = some final → custody.handed.length = 1 →
          ¬Relapses custody.held.values final.held.values := by
    intro custody final ran went single
    refine (no_relapse ran went ?_).2.2
    intro place member
    simp [broughtBack] at member
    omega
  refine ⟨_, _, rfl, rfl, rfl, rfl, rfl, ?_⟩
  exact remains _ _ rfl rfl rfl

end Custody

end TaskAgent
