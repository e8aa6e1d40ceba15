import TaskAgent.Proofs.Worker.Change

/-!
# The chronicle of a worker

A record is made when a task is accepted and when it ends. The chronicle of a run lists the
records in the order in which they are made, each with the handle of its task and with whoever
made it. It is not part of the state of a worker: records that were handed over, taken back or
overwritten leave no trace in the tracker, but all of them stand in the chronicle.

The history of a task is what the chronicle says of its key. The newest record of a task in flight
is the one in flight, and the newest record of every other task is final (`Chronicle.Covers`),
also when tasks are said from outside to have ended.
-/

namespace TaskAgent

/-- Who makes a record. -/
inductive Author where
  | submitter
  | canceler
  | runner (number : Nat)
  | outsider
deriving DecidableEq

/-- A record that was made, with the handle that its task had then. -/
structure Entry where
  author : Author
  number : Option Nat
  record : TaskRecord

/-- Whether the entry is about the end of a task. -/
def Entry.isFinal (entry : Entry) : Bool := entry.record.status.isFinal

/-- Who makes a record at an event. -/
def Event.author : Event → Author
  | submit _ => .submitter
  | cancel _ => .canceler
  | report number => .runner number
  | _ => .outsider

/-- Records in the order in which they were made. -/
abbrev Chronicle := List Entry

namespace Chronicle

variable {chronicle : Chronicle} {entry : Entry} {key : TaskKey}

/-- The records of a task in the order in which they were made. -/
def history (chronicle : Chronicle) (key : TaskKey) : List TaskRecord :=
  (chronicle.map Entry.record).filter fun record => decide (record.key = key)

/-- The record of a task that was made last. -/
def newest? (chronicle : Chronicle) (key : TaskKey) : Option TaskRecord :=
  (chronicle.history key).getLast?

@[simp]
theorem history_nil (key : TaskKey) : history [] key = [] := rfl

@[simp]
theorem newest?_nil (key : TaskKey) : newest? [] key = none := rfl

theorem history_append (chronicle later : Chronicle) (key : TaskKey) :
    history (chronicle ++ later) key = chronicle.history key ++ later.history key := by
  simp [history]

theorem history_concat_of_eq (own : entry.record.key = key) :
    history (chronicle ++ [entry]) key = chronicle.history key ++ [entry.record] := by
  simp [history, own]

theorem history_concat_of_ne (other : entry.record.key ≠ key) :
    history (chronicle ++ [entry]) key = chronicle.history key := by
  simp [history, other]

@[simp]
theorem newest?_concat (chronicle : Chronicle) (entry : Entry) (key : TaskKey) :
    newest? (chronicle ++ [entry]) key =
      if entry.record.key = key then some entry.record else chronicle.newest? key := by
  unfold newest?
  split
  · next own => simp [history_concat_of_eq own]
  · next other => rw [history_concat_of_ne other]

theorem newest?_append (chronicle later : Chronicle) (key : TaskKey) :
    newest? (chronicle ++ later) key = (later.newest? key).or (chronicle.newest? key) := by
  rw [newest?, history_append, List.getLast?_append]
  rfl

theorem exists_newest?_append (known : ∃ record, chronicle.newest? key = some record)
    (later : Chronicle) : ∃ record, newest? (chronicle ++ later) key = some record := by
  rcases known with ⟨record, newest⟩
  rw [newest?_append, newest]
  cases later.newest? key with
  | none => exact ⟨record, rfl⟩
  | some newer => exact ⟨newer, rfl⟩

theorem newest?_congr {later : Chronicle} (same : later.history key = chronicle.history key) :
    later.newest? key = chronicle.newest? key := by
  rw [newest?, newest?, same]

theorem newest?_eq_none_iff : chronicle.newest? key = none ↔ chronicle.history key = [] :=
  List.getLast?_eq_none_iff

theorem prefix_history {past : Chronicle} (earlier : past <+: chronicle) (key : TaskKey) :
    past.history key <+: chronicle.history key :=
  (earlier.map Entry.record).filter _

/-- The history of a task is another one once a record of it is made. -/
theorem history_ne_of_newest? {past later : Chronicle} {record : TaskRecord}
    (earlier : past <+: chronicle) (newer : later.newest? key = some record) :
    past.history key ≠ history (chronicle ++ later) key := by
  intro same
  have grown := (prefix_history earlier key).length_le
  rw [same, history_append, List.length_append] at grown
  have none : later.history key = [] := List.eq_nil_of_length_eq_zero (by omega)
  rw [newest?_eq_none_iff.mpr none] at newer
  cases newer

theorem key_of_newest? {record : TaskRecord} (newest : chronicle.newest? key = some record) :
    record.key = key := by
  have member := List.mem_of_getLast? newest
  simpa using (List.mem_filter.mp member).2

end Chronicle

namespace Worker

variable {worker changed : Worker} {event : Event} {key : TaskKey}

/-- The record that is made at an event, if one is. -/
def made? (worker : Worker) (event : Event) : Option Entry :=
  match worker.effect event with
  | .accept key number =>
    some ⟨event.author, some number, .running key worker.tracker.address⟩
  | .finish key record => some ⟨event.author, worker.tracker.handles.find? key, record⟩
  | _ => none

/-- The records that are made in a run. -/
def chronicle (worker : Worker) : List Event → Chronicle
  | [] => []
  | event :: rest =>
    match worker.step? event with
    | some changed => (worker.made? event).toList ++ changed.chronicle rest
    | none => []

theorem chronicle_cons_of_step? (stepped : worker.step? event = some changed)
    (rest : List Event) :
    worker.chronicle (event :: rest) = (worker.made? event).toList ++ changed.chronicle rest := by
  simp [chronicle, stepped]

theorem chronicle_append {earlier : List Event} (ran : worker.run? earlier = some changed)
    (later : List Event) :
    worker.chronicle (earlier ++ later) = worker.chronicle earlier ++ changed.chronicle later := by
  induction earlier generalizing worker with
  | nil =>
      cases ran
      rfl
  | cons event rest ih =>
      rcases exists_of_run?_cons ran with ⟨middle, stepped, ran⟩
      rw [List.cons_append, chronicle_cons_of_step? stepped, chronicle_cons_of_step? stepped,
        ih ran, List.append_assoc]

/-- What holds of nothing made and is kept by every event holds of a run and its chronicle. -/
theorem chronicle_keeps {motive : Chronicle → Worker → Prop} {events : List Event}
    {past : Chronicle} {final : Worker} (ran : worker.run? events = some final)
    (initially : motive past worker)
    (kept : ∀ event ∈ events, ∀ (past : Chronicle) (before after : Worker),
      before.step? event = some after → motive past before →
        motive (past ++ (before.made? event).toList) after) :
    motive (past ++ worker.chronicle events) final := by
  induction events generalizing worker past with
  | nil =>
      cases ran
      simpa [chronicle] using initially
  | cons event rest ih =>
      rcases exists_of_run?_cons ran with ⟨changed, stepped, ran⟩
      rw [chronicle_cons_of_step? stepped, ← List.append_assoc]
      apply ih ran
      · exact kept event List.mem_cons_self past worker changed stepped initially
      · intro later member
        exact kept later (List.mem_cons_of_mem _ member)

end Worker

namespace Chronicle

variable {chronicle : Chronicle} {worker changed : Worker} {event : Event}

/-- The chronicle knows every task that was accepted, and whether it is still in flight. -/
structure Covers (chronicle : Chronicle) (worker : Worker) : Prop where
  inFlight : ∀ {key : TaskKey} {record : TaskRecord},
    worker.tracker.unfinished.find? key = some record → chronicle.newest? key = some record
  ended : ∀ {key : TaskKey} {record : TaskRecord},
    worker.tracker.unfinished.find? key = none → chronicle.newest? key = some record →
      record.status.isFinal = true
  accepted : ∀ submission ∈ worker.submissions,
    ∃ record, chronicle.newest? submission.key = some record

theorem covers_make (pool : Pool) (registry : Registry) (address : Address) :
    Covers [] (.make pool registry address) := by
  constructor
  · intro key record unfinished
    simp [Worker.make] at unfinished
  · intro key record absent newest
    simp at newest
  · intro submission member
    simp [Worker.make, Worker.submissions] at member

namespace Covers

theorem accept (covers : chronicle.Covers worker) {author : Author} {key : TaskKey}
    {number : Nat} (effect : changed.tracker = worker.tracker.accept key number)
    (submissions : ∀ submission ∈ changed.submissions,
      submission ∈ worker.submissions ∨ submission.key = key) :
    Covers (chronicle ++ [⟨author, some number, .running key worker.tracker.address⟩])
      changed := by
  constructor
  · intro other record unfinished
    rw [effect, Tracker.find?_unfinished_accept] at unfinished
    rw [newest?_concat, TaskRecord.key_running]
    split
    · next own => simpa [own] using unfinished
    · next differs => exact covers.inFlight (by simpa [differs] using unfinished)
  · intro other record absent newest
    rw [effect, Tracker.find?_unfinished_accept] at absent
    rw [newest?_concat, TaskRecord.key_running] at newest
    split at absent
    · cases absent
    · next differs => exact covers.ended absent (by simpa [differs] using newest)
  · intro submission member
    rw [newest?_concat, TaskRecord.key_running]
    split
    · exact ⟨_, rfl⟩
    · next differs =>
        rcases submissions submission member with old | own
        · exact covers.accepted submission old
        · exact absurd own.symm differs

theorem finish (covers : chronicle.Covers worker) {author : Author} {number : Option Nat}
    {key : TaskKey} {record : TaskRecord}
    (effect : changed.tracker = worker.tracker.finish key record) (own : record.key = key)
    (final : record.status.isFinal = true)
    (submissions : changed.submissions = worker.submissions) :
    Covers (chronicle ++ [⟨author, number, record⟩]) changed := by
  constructor
  · intro other found unfinished
    rw [effect, Tracker.find?_unfinished_finish] at unfinished
    rw [newest?_concat]
    split at unfinished
    · cases unfinished
    · next differs =>
        rw [if_neg (own ▸ differs)]
        exact covers.inFlight unfinished
  · intro other found absent newest
    rw [effect, Tracker.find?_unfinished_finish] at absent
    rw [newest?_concat] at newest
    split at newest
    · cases newest
      exact final
    · next differs =>
        rw [own] at differs
        exact covers.ended (by simpa [differs] using absent) newest
  · intro submission member
    rw [submissions] at member
    rw [newest?_concat]
    split
    · exact ⟨_, rfl⟩
    · exact covers.accepted submission member

theorem congr (covers : chronicle.Covers worker)
    (unfinished : changed.tracker.unfinished = worker.tracker.unfinished)
    (submissions : changed.submissions = worker.submissions) : chronicle.Covers changed := by
  constructor
  · rw [unfinished]
    exact covers.inFlight
  · rw [unfinished]
    exact covers.ended
  · rw [submissions]
    exact covers.accepted

/-- Every event adds to the chronicle what it does to the records in flight. -/
theorem step (covers : chronicle.Covers worker) (keyed : worker.tracker.Keyed)
    (stepped : worker.step? event = some changed) :
    Covers (chronicle ++ (worker.made? event).toList) changed := by
  have tracker := Worker.tracker_of_step? stepped
  have submissions := Worker.submissions_of_change (Worker.change_of_step? stepped)
  unfold Worker.made?
  cases effect : worker.effect event with
  | nothing =>
      rw [effect] at tracker submissions
      simpa using covers.congr (by rw [tracker]; rfl) (by simpa using submissions)
  | accept key number =>
      rw [effect] at tracker submissions
      apply covers.accept tracker
      intro submission member
      rcases submissions with same | ⟨accepted, accepts, more⟩
      · exact Or.inl (same ▸ member)
      · rw [more] at member
        rcases List.mem_append.mp member with old | new
        · exact Or.inl old
        · cases accepts
          exact Or.inr (by rw [List.mem_singleton.mp new])
  | finish key record =>
      rw [effect] at tracker submissions
      rcases Worker.exists_unfinished_of_effect effect with ⟨old, unfinished, same, final⟩
      exact covers.finish tracker (same.trans (keyed.unfinished unfinished)) final
        (by simpa using submissions)
  | handOver =>
      rw [effect] at tracker submissions
      simpa using covers.congr (by rw [tracker]; rfl) (by simpa using submissions)
  | takeBack records =>
      rw [effect] at tracker submissions
      simpa using covers.congr (by rw [tracker]; rfl) (by simpa using submissions)

end Covers

end Chronicle

namespace Worker

variable {worker changed : Worker} {events : List Event} {past : Chronicle}

theorem covers_of_run? (ran : worker.run? events = some changed) (keyed : worker.tracker.Keyed)
    (covers : past.Covers worker) : (past ++ worker.chronicle events).Covers changed := by
  refine (chronicle_keeps ran (motive := fun past worker =>
    worker.tracker.Keyed ∧ past.Covers worker) ⟨keyed, covers⟩ ?_).2
  intro event member past before after stepped ⟨keyed, covers⟩
  exact ⟨keyed_of_step? stepped keyed, covers.step keyed stepped⟩

/-- A task that is submitted has a record, even if it was in flight already. -/
theorem newest?_submit (covers : past.Covers worker) (submission : Submission) :
    ∃ record, (past ++ (worker.made? (.submit submission)).toList).newest? submission.key =
      some record := by
  by_cases inFlight : worker.tracker.isInFlight submission.key
  · rcases Tracker.isInFlight_eq_true_iff.mp inFlight with ⟨record, unfinished⟩
    apply Chronicle.exists_newest?_append
    exact ⟨record, covers.inFlight unfinished⟩
  · have made : worker.made? (.submit submission) = some ⟨.submitter, some worker.runners.length,
        .running submission.key worker.tracker.address⟩ := by
      simp [made?, effect, inFlight, Event.author]
    rw [made, Option.toList_some, Chronicle.newest?_concat, TaskRecord.key_running, if_pos rfl]
    exact ⟨_, rfl⟩

theorem newest?_of_submit {submission : Submission} (ran : worker.run? events = some changed)
    (keyed : worker.tracker.Keyed) (covers : past.Covers worker)
    (submitted : Event.submit submission ∈ events) :
    ∃ record, (past ++ worker.chronicle events).newest? submission.key = some record := by
  rcases List.append_of_mem submitted with ⟨earlier, later, rfl⟩
  rw [run?_append] at ran
  rcases Option.bind_eq_some_iff.mp ran with ⟨middle, ran, rest⟩
  rcases exists_of_run?_cons rest with ⟨next, stepped, -⟩
  rw [chronicle_append ran, chronicle_cons_of_step? stepped, ← List.append_assoc,
    ← List.append_assoc]
  apply Chronicle.exists_newest?_append
  exact newest?_submit (covers_of_run? ran keyed covers) submission

end Worker

end TaskAgent
