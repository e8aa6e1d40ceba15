import TaskAgent.Proofs.Worker.Chronicle
import TaskAgent.Proofs.Worker.Restore

/-!
# Mail

A heartbeat is a shipment of records. One is under way at most; it arrives, or it fails and its
records are taken back. A shipment remembers the chronicle of the moment when it was sent, so that
two records of a task are told apart by their places in its history even if they are equal.

The mail is sound (`Mail.Sound`) when the changed records are the newest of their tasks, every
shipment carries what was newest when it was sent, and the newest record of every task is among
the changed ones, under way or arrived. The law behind it is that a task has a changed record
while a shipment is under way only if a record of it was made since.
-/

namespace TaskAgent

/-- A heartbeat that was sent. -/
structure Shipment where
  records : List TaskRecord
  /-- The records that had been made when it was sent. -/
  past : Chronicle
  /-- Whether it was answered with orders. -/
  arrived : Bool

namespace Shipment

/-- The record is on board, and none of its task has been made since. -/
def Carries (shipment : Shipment) (chronicle : Chronicle) (record : TaskRecord) : Prop :=
  record ∈ shipment.records ∧ shipment.past.history record.key = chronicle.history record.key

/-- The histories only grow from one shipment to a later one. If the first has arrived, the other
has nothing on board but newer records. -/
structure Precedes (earlier later : Shipment) : Prop where
  past : earlier.past <+: later.past
  renewed : earlier.arrived = true → ∀ record ∈ earlier.records, ∀ other ∈ later.records,
    other.key = record.key →
      earlier.past.history record.key ≠ later.past.history record.key

end Shipment

def Event.submitted? : Event → Option TaskKey
  | submit submission => some submission.key
  | _ => none

/-- A worker, what has become of its records, and the heartbeats that were sent. -/
structure Mail where
  worker : Worker
  /-- The records that were made. -/
  chronicle : Chronicle
  /-- The tasks that were ever submitted. -/
  submitted : List TaskKey
  /-- The heartbeat that waits for its reply. -/
  underway : Option Shipment
  /-- The heartbeats before it, in the order in which they were sent. -/
  answered : List Shipment

namespace Mail

variable {mail changed : Mail} {event : Event} {shipment : Shipment}

def make (pool : Pool) (registry : Registry) (address : Address) : Mail :=
  ⟨.make pool registry address, [], [], none, []⟩

/-- All heartbeats, in the order in which they were sent. -/
def shipments (mail : Mail) : List Shipment := mail.answered ++ mail.underway.toList

def undergo? (mail : Mail) (event : Event) : Option Mail :=
  (mail.worker.step? event).map fun worker =>
    { mail with
      worker
      chronicle := mail.chronicle ++ (mail.worker.made? event).toList
      submitted := mail.submitted ++ event.submitted?.toList }

/-- The mail after the changed records were sent. -/
def send (mail : Mail) : Mail :=
  { mail with
    worker := mail.worker.drain.2
    underway := some ⟨mail.worker.drain.1, mail.chronicle, false⟩ }

/-- The mail after the reply to the heartbeat under way came. -/
def answer (mail : Mail) (arrived : Bool) : Mail :=
  { mail with
    underway := none
    answered := mail.answered ++ (mail.underway.map ({ · with arrived })).toList }

def restore (mail : Mail) (records : List TaskRecord) : Mail :=
  { mail with worker := mail.worker.restore records }

/-- What is true of the mail at all times. -/
structure Sound (mail : Mail) : Prop where
  keyed : mail.worker.tracker.Keyed
  covers : mail.chronicle.Covers mail.worker
  known : ∀ key ∈ mail.submitted, ∃ record, mail.chronicle.newest? key = some record
  buffered : ∀ {key : TaskKey} {record : TaskRecord},
    mail.worker.tracker.updates.find? key = some record →
      mail.chronicle.newest? key = some record
  newest : ∀ shipment ∈ mail.shipments, ∀ record ∈ shipment.records,
    shipment.past.newest? record.key = some record
  past : ∀ shipment ∈ mail.shipments, shipment.past <+: mail.chronicle
  ordered : mail.shipments.Pairwise Shipment.Precedes
  since : ∀ {shipment : Shipment}, mail.underway = some shipment → ∀ key,
    mail.worker.tracker.updates.find? key = none ↔
      shipment.past.history key = mail.chronicle.history key
  renewed : ∀ shipment ∈ mail.answered, shipment.arrived = true → ∀ record ∈ shipment.records,
    mail.worker.tracker.updates.find? record.key ≠ none →
      shipment.past.history record.key ≠ mail.chronicle.history record.key
  kept : ∀ {key : TaskKey} {record : TaskRecord}, mail.chronicle.newest? key = some record →
    mail.worker.tracker.updates.find? key = some record ∨
    (∃ shipment, mail.underway = some shipment ∧ shipment.Carries mail.chronicle record) ∨
    ∃ shipment ∈ mail.answered, shipment.arrived = true ∧
      shipment.Carries mail.chronicle record

theorem sound_make (pool : Pool) (registry : Registry) (address : Address) :
    (make pool registry address).Sound where
  keyed := Tracker.keyed_ofAddress address
  covers := Chronicle.covers_make pool registry address
  known := by
    intro key member
    cases member
  buffered := by
    intro key record found
    simp [make, Worker.make] at found
  newest := by
    intro shipment member
    cases member
  past := by
    intro shipment member
    cases member
  ordered := List.Pairwise.nil
  since := by
    intro shipment underway
    cases underway
  renewed := by
    intro shipment member
    cases member
  kept := by
    intro key record newest
    cases newest

end Mail

namespace Worker

variable {worker changed : Worker} {event : Event}

/-- The changed records receive what an event adds to the chronicle. -/
theorem find?_updates_of_step? (keyed : worker.tracker.Keyed)
    (single : event.isTransfer = false) (stepped : worker.step? event = some changed)
    (key : TaskKey) :
    changed.tracker.updates.find? key =
      (Chronicle.newest? (worker.made? event).toList key).or
        (worker.tracker.updates.find? key) := by
  rw [← isTransfer_effect worker] at single
  rw [tracker_of_step? stepped]
  unfold made?
  cases effect : worker.effect event with
  | nothing => rfl
  | accept task number =>
      have made := Chronicle.newest?_concat [] ⟨event.author, some number,
        .running task worker.tracker.address⟩ key
      rw [Tracker.apply_accept, Tracker.find?_updates_accept, Option.toList_some]
      rw [List.nil_append, TaskRecord.key_running] at made
      rw [made]
      split
      · rfl
      · rfl
  | finish task record =>
      rcases exists_unfinished_of_effect effect with ⟨old, unfinished, same, -⟩
      have made := Chronicle.newest?_concat [] ⟨event.author, worker.tracker.handles.find? task,
        record⟩ key
      have own : record.key = task := same.trans (keyed.unfinished unfinished)
      rw [Tracker.apply_finish, Tracker.find?_updates_finish, Option.toList_some]
      rw [List.nil_append, own] at made
      rw [made]
      split
      · rfl
      · rfl
  | handOver =>
      rw [effect] at single
      cases single
  | takeBack records =>
      rw [effect] at single
      cases single

end Worker

namespace Mail.Sound

variable {mail changed : Mail} {event : Event} {shipment : Shipment}

/-- A record is made of a task, which makes it a changed record and the history another one, or
everything stays as it is for the task. -/
theorem undergo_cases (sound : mail.Sound) (single : event.isTransfer = false) {worker : Worker}
    (stepped : mail.worker.step? event = some worker) (key : TaskKey) :
    let chronicle := mail.chronicle ++ (mail.worker.made? event).toList
    (∃ record, worker.tracker.updates.find? key = some record ∧
        chronicle.newest? key = some record ∧
          ∀ shipment ∈ mail.shipments, shipment.past.history key ≠ chronicle.history key) ∨
      (worker.tracker.updates.find? key = mail.worker.tracker.updates.find? key ∧
        chronicle.history key = mail.chronicle.history key) := by
  intro chronicle
  have written := Worker.find?_updates_of_step? sound.keyed single stepped key
  cases made : Chronicle.newest? (mail.worker.made? event).toList key with
  | some record =>
      refine Or.inl ⟨record, ?_, ?_, ?_⟩
      · rw [written, made, Option.some_or]
      · rw [Chronicle.newest?_append, made, Option.some_or]
      · intro shipment member
        exact Chronicle.history_ne_of_newest? (sound.past shipment member) made
  | none =>
      refine Or.inr ⟨?_, ?_⟩
      · rw [written, made, Option.none_or]
      · rw [Chronicle.history_append, Chronicle.newest?_eq_none_iff.mp made, List.append_nil]

theorem mem_shipments_of_underway (underway : mail.underway = some shipment) :
    shipment ∈ mail.shipments := by
  simp [shipments, underway]

theorem mem_shipments_of_answered (member : shipment ∈ mail.answered) :
    shipment ∈ mail.shipments :=
  List.mem_append_left _ member

theorem undergo (sound : mail.Sound) (single : event.isTransfer = false)
    (happened : mail.undergo? event = some changed) : changed.Sound := by
  rcases Option.map_eq_some_iff.mp happened with ⟨worker, stepped, rfl⟩
  have cases := sound.undergo_cases single stepped
  have grown : mail.chronicle <+: mail.chronicle ++ (mail.worker.made? event).toList :=
    List.prefix_append ..
  constructor
  · exact Worker.keyed_of_step? stepped sound.keyed
  · exact sound.covers.step sound.keyed stepped
  · intro key member
    rcases List.mem_append.mp member with old | new
    · exact Chronicle.exists_newest?_append (sound.known key old) _
    · cases event with
      | submit submission =>
          cases List.mem_singleton.mp new
          exact Worker.newest?_submit sound.covers submission
      | _ => cases new
  · intro key record found
    rcases cases key with ⟨made, changed, newest, -⟩ | ⟨updates, history⟩
    · exact newest.trans (changed.symm.trans found)
    · rw [Chronicle.newest?_congr history]
      exact sound.buffered (updates.symm.trans found)
  · exact sound.newest
  · intro shipment member
    exact (sound.past shipment member).trans grown
  · exact sound.ordered
  · intro shipment underway key
    rcases cases key with ⟨made, changed, -, differs⟩ | ⟨updates, history⟩
    · simp [changed, differs shipment (mem_shipments_of_underway underway)]
    · simp only [updates, history]
      exact sound.since underway key
  · intro shipment member arrived record aboard isChanged
    rcases cases record.key with ⟨made, -, -, differs⟩ | ⟨updates, history⟩
    · exact differs shipment (mem_shipments_of_answered member)
    · rw [updates] at isChanged
      simp only [history]
      exact sound.renewed shipment member arrived record aboard isChanged
  · intro key record newest
    rcases cases key with ⟨made, changed, newer, -⟩ | ⟨updates, history⟩
    · exact Or.inl (changed.trans (newer.symm.trans newest))
    · rw [Chronicle.newest?_congr history] at newest
      have own := Chronicle.key_of_newest? newest
      simp only [updates, Shipment.Carries, own, history]
      simpa only [Shipment.Carries, own] using sound.kept newest

theorem send (sound : mail.Sound) (free : mail.underway = none) : mail.send.Sound := by
  have shipments : mail.send.shipments =
      mail.answered ++ [⟨mail.worker.drain.1, mail.chronicle, false⟩] := rfl
  have before : mail.shipments = mail.answered := by simp [Mail.shipments, free]
  have aboard : ∀ record ∈ mail.worker.drain.1,
      mail.worker.tracker.updates.find? record.key = some record := by
    intro record member
    rcases Ledger.mem_values.mp member with ⟨key, found⟩
    rw [sound.keyed.updates found]
    exact found
  constructor
  · exact sound.keyed.drain
  · exact sound.covers.congr rfl rfl
  · exact sound.known
  · intro key record found
    cases found
  · intro shipment member record inside
    rw [shipments] at member
    rcases List.mem_append.mp member with old | new
    · exact sound.newest shipment (mem_shipments_of_answered old) record inside
    · cases List.mem_singleton.mp new
      exact sound.buffered (aboard record inside)
  · intro shipment member
    rw [shipments] at member
    rcases List.mem_append.mp member with old | new
    · exact sound.past shipment (mem_shipments_of_answered old)
    · cases List.mem_singleton.mp new
      exact List.prefix_refl _
  · rw [shipments, List.pairwise_append]
    refine ⟨before ▸ sound.ordered, List.pairwise_singleton .., ?_⟩
    intro earlier member later new
    cases List.mem_singleton.mp new
    refine ⟨sound.past earlier (mem_shipments_of_answered member), ?_⟩
    intro arrived record inside other insideLater same
    have isChanged := aboard other insideLater
    rw [same] at isChanged
    exact sound.renewed earlier member arrived record inside (by simp [isChanged])
  · intro shipment underway key
    cases underway
    simp [Mail.send, Worker.drain]
  · intro shipment member arrived record inside isChanged
    exact absurd rfl isChanged
  · intro key record newest
    rcases sound.kept newest with changed | ⟨shipment, underway, -⟩ | arrived
    · have own := Chronicle.key_of_newest? newest
      refine Or.inr (Or.inl ⟨_, rfl, Ledger.mem_values.mpr ⟨key, changed⟩, rfl⟩)
    · rw [free] at underway
      cases underway
    · exact Or.inr (Or.inr arrived)

theorem answered_answer (underway : mail.underway = some shipment) (arrived : Bool) :
    (mail.answer arrived).answered = mail.answered ++ [{ shipment with arrived }] := by
  simp [answer, underway]

theorem shipments_answer (underway : mail.underway = some shipment) (arrived : Bool) :
    (mail.answer arrived).shipments = mail.answered ++ [{ shipment with arrived }] := by
  rw [Mail.shipments, answered_answer underway]
  exact List.append_nil _

/-- The reply does not change what was sent. -/
theorem exists_of_mem_answer (underway : mail.underway = some shipment) (arrived : Bool)
    {other : Shipment} (member : other ∈ (mail.answer arrived).shipments) :
    ∃ original ∈ mail.shipments,
      other.records = original.records ∧ other.past = original.past := by
  rw [shipments_answer underway] at member
  rcases List.mem_append.mp member with old | new
  · exact ⟨other, mem_shipments_of_answered old, rfl, rfl⟩
  · cases List.mem_singleton.mp new
    exact ⟨shipment, mem_shipments_of_underway underway, rfl, rfl⟩

theorem newest_answer (sound : mail.Sound) (underway : mail.underway = some shipment)
    (arrived : Bool) : ∀ other ∈ (mail.answer arrived).shipments, ∀ record ∈ other.records,
      other.past.newest? record.key = some record := by
  intro other member record inside
  rcases exists_of_mem_answer underway arrived member with ⟨original, sent, records, past⟩
  rw [past]
  exact sound.newest original sent record (records ▸ inside)

theorem past_answer (sound : mail.Sound) (underway : mail.underway = some shipment)
    (arrived : Bool) : ∀ other ∈ (mail.answer arrived).shipments,
      other.past <+: mail.chronicle := by
  intro other member
  rcases exists_of_mem_answer underway arrived member with ⟨original, sent, -, past⟩
  rw [past]
  exact sound.past original sent

theorem ordered_answer (sound : mail.Sound) (underway : mail.underway = some shipment)
    (arrived : Bool) : (mail.answer arrived).shipments.Pairwise Shipment.Precedes := by
  have ordered := sound.ordered
  rw [Mail.shipments, underway, Option.toList_some, List.pairwise_append] at ordered
  rw [shipments_answer underway, List.pairwise_append]
  refine ⟨ordered.1, List.pairwise_singleton .., ?_⟩
  intro earlier member later new
  cases List.mem_singleton.mp new
  have precedes := ordered.2.2 earlier member shipment List.mem_cons_self
  exact ⟨precedes.past, precedes.renewed⟩

theorem arrive (sound : mail.Sound) (underway : mail.underway = some shipment) :
    (mail.answer true).Sound := by
  have answered := answered_answer underway true
  constructor
  · exact sound.keyed
  · exact sound.covers.congr rfl rfl
  · exact sound.known
  · exact sound.buffered
  · exact sound.newest_answer underway true
  · exact sound.past_answer underway true
  · exact sound.ordered_answer underway true
  · intro other waits
    cases waits
  · intro other member arrived record inside isChanged
    rw [answered] at member
    rcases List.mem_append.mp member with old | new
    · exact sound.renewed other old arrived record inside isChanged
    · cases List.mem_singleton.mp new
      intro same
      exact isChanged ((sound.since underway record.key).mpr same)
  · intro key record newest
    rw [answered]
    rcases sound.kept newest with changed | ⟨other, waits, carries⟩ | ⟨other, member, facts⟩
    · exact Or.inl changed
    · cases underway.symm.trans waits
      refine Or.inr (Or.inr ⟨{ shipment with arrived := true }, ?_, rfl, carries⟩)
      exact List.mem_append_right _ List.mem_cons_self
    · exact Or.inr (Or.inr ⟨other, List.mem_append_left _ member, facts⟩)

/-- What is on board is the record that the task lacks among the changed ones. -/
theorem newest_of_find? (sound : mail.Sound) (underway : mail.underway = some shipment)
    {key : TaskKey} {record : TaskRecord}
    (absent : mail.worker.tracker.updates.find? key = none)
    (found : shipment.records.find? (fun record => decide (record.key = key)) = some record) :
    mail.chronicle.newest? key = some record := by
  have own : record.key = key := by simpa using List.find?_some found
  have newest := sound.newest shipment (mem_shipments_of_underway underway) record
    (List.mem_of_find?_eq_some found)
  rw [own] at newest
  rw [← newest]
  exact Chronicle.newest?_congr ((sound.since underway key).mp absent).symm

/-- What has arrived is older than every changed record, also than one that comes back. -/
theorem renewed_of_restored (sound : mail.Sound) (underway : mail.underway = some shipment)
    {other : Shipment} {record : TaskRecord} (member : other ∈ mail.answered)
    (arrived : other.arrived = true) (inside : record ∈ other.records)
    (isChanged : (mail.worker.tracker.updates.find? record.key).or
      (shipment.records.find? fun aboard => decide (aboard.key = record.key)) ≠ none) :
    other.past.history record.key ≠ mail.chronicle.history record.key := by
  have ordered := sound.ordered
  rw [Mail.shipments, underway, Option.toList_some, List.pairwise_append] at ordered
  have precedes := ordered.2.2 other member shipment List.mem_cons_self
  cases found : mail.worker.tracker.updates.find? record.key with
  | some newer => exact sound.renewed other member arrived record inside (by simp [found])
  | none =>
      rw [found, Option.none_or] at isChanged
      rcases Option.ne_none_iff_exists'.mp isChanged with ⟨restored, aboard⟩
      have own : restored.key = record.key := by simpa using List.find?_some aboard
      have differs := precedes.renewed arrived record inside restored
        (List.mem_of_find?_eq_some aboard) own
      rw [(sound.since underway record.key).mp found] at differs
      exact differs

/-- The newest record of a task comes back if it was on board. -/
theorem find?_of_carries (sound : mail.Sound) (underway : mail.underway = some shipment)
    {key : TaskKey} {record : TaskRecord} (newest : mail.chronicle.newest? key = some record)
    (carries : shipment.Carries mail.chronicle record) :
    (mail.worker.tracker.updates.find? key).or
      (shipment.records.find? fun aboard => decide (aboard.key = key)) = some record := by
  rcases carries with ⟨inside, same⟩
  have own := Chronicle.key_of_newest? newest
  rw [own] at same
  have absent := (sound.since underway key).mpr same
  rw [absent, Option.none_or]
  cases aboard : shipment.records.find? fun aboard => decide (aboard.key = key) with
  | none => exact absurd own (by simpa using List.find?_eq_none.mp aboard record inside)
  | some restored =>
      rw [← newest]
      exact (sound.newest_of_find? underway absent aboard).symm

theorem fail (sound : mail.Sound) (underway : mail.underway = some shipment) :
    ((mail.answer false).restore shipment.records).Sound := by
  have answered := answered_answer underway false
  have updates : ∀ key, (mail.worker.restore shipment.records).tracker.updates.find? key =
      (mail.worker.tracker.updates.find? key).or
        (shipment.records.find? fun record => decide (record.key = key)) := by
    intro key
    exact Tracker.find?_updates_restore ..
  constructor
  · exact sound.keyed.restore shipment.records
  · exact sound.covers.congr rfl rfl
  · exact sound.known
  · intro key record found
    rcases Option.or_eq_some_iff.mp ((updates key).symm.trans found) with kept | ⟨absent, aboard⟩
    · exact sound.buffered kept
    · exact sound.newest_of_find? underway absent aboard
  · exact sound.newest_answer underway false
  · exact sound.past_answer underway false
  · exact sound.ordered_answer underway false
  · intro other waits
    cases waits
  · intro other member arrived record inside isChanged
    rw [Mail.restore, answered] at member
    rcases List.mem_append.mp member with old | new
    · have comesBack := (updates record.key).symm.trans_ne isChanged
      exact sound.renewed_of_restored underway old arrived inside comesBack
    · cases List.mem_singleton.mp new
      cases arrived
  · intro key record newest
    rcases sound.kept newest with changed | ⟨other, waits, carries⟩ | ⟨other, member, facts⟩
    · exact Or.inl ((updates key).trans (by rw [changed, Option.some_or]))
    · cases underway.symm.trans waits
      exact Or.inl ((updates key).trans (sound.find?_of_carries underway newest carries))
    · refine Or.inr (Or.inr ⟨other, ?_, facts⟩)
      rw [Mail.restore, answered]
      exact List.mem_append_left _ member

end Mail.Sound

namespace Mail

variable {mail changed : Mail}

/-- What may become of the mail in one step. -/
inductive Course (mail : Mail) : Mail → Prop where
  | still : Course mail mail
  | undergone {event : Event} {changed : Mail} (single : event.isTransfer = false)
      (happened : mail.undergo? event = some changed) : Course mail changed
  | sent (free : mail.underway = none) : Course mail mail.send
  | arrived {shipment : Shipment} (underway : mail.underway = some shipment) :
      Course mail (mail.answer true)
  | failed {shipment : Shipment} (underway : mail.underway = some shipment) :
      Course mail ((mail.answer false).restore shipment.records)

theorem Sound.course (sound : mail.Sound) (course : mail.Course changed) : changed.Sound := by
  cases course with
  | still => exact sound
  | undergone single happened => exact sound.undergo single happened
  | sent free => exact sound.send free
  | arrived underway => exact sound.arrive underway
  | failed underway => exact sound.fail underway

end Mail

end TaskAgent
