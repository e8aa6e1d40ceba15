import TaskAgent.Proofs.Master.Mail

/-!
# The heartbeat that brings a record

From the moment in which a record stands among the changed ones, every heartbeat takes it along
until one has arrived (`Mail.Delivers`), as long as no other record of its task is made. A
heartbeat that fails gives it back, so it does not matter how many of them do. The first heartbeat
to arrive therefore brings just this record of the task (`Shipment.Brings.of_find?`).
-/

namespace TaskAgent

/-- Of records with different keys only one has the key of a given one. -/
theorem TaskRecord.filter_key_eq {records : List TaskRecord} {record : TaskRecord}
    (distinct : (records.map key).Nodup) (member : record ∈ records) :
    (records.filter fun other => decide (other.key = record.key)) = [record] := by
  induction records with
  | nil => cases member
  | cons head rest ih =>
      rw [List.map_cons, List.nodup_cons] at distinct
      rw [List.filter_cons]
      rcases List.mem_cons.mp member with rfl | inRest
      · rw [if_pos (decide_eq_true rfl), List.filter_eq_nil_iff.mpr]
        intro other inRest same
        exact distinct.1 (of_decide_eq_true same ▸ List.mem_map_of_mem inRest)
      · have differs : head.key ≠ record.key :=
          fun same => distinct.1 (same ▸ List.mem_map_of_mem inRest)
        rw [if_neg (by simpa using differs), ih distinct.2 inRest]

namespace Shipment

/-- What the shipment has on board of a task. -/
def about (shipment : Shipment) (key : TaskKey) : List TaskRecord :=
  shipment.records.filter fun record => decide (record.key = key)

/-- Of the task of the record each shipment has just this record on board, up to the first that has
arrived. -/
def Brings (record : TaskRecord) : List Shipment → Prop
  | [] => True
  | shipment :: rest =>
    shipment.about record.key = [record] ∧ (shipment.arrived = true ∨ Brings record rest)

variable {record : TaskRecord} {shipments : List Shipment} {shipment : Shipment}

theorem brings_concat :
    Brings record (shipments ++ [shipment]) ↔ Brings record shipments ∧
      ((∀ earlier ∈ shipments, earlier.arrived = false) →
        shipment.about record.key = [record]) := by
  induction shipments with
  | nil => simp [Brings]
  | cons first rest ih =>
      rw [List.cons_append, Brings, Brings, ih, List.forall_mem_cons]
      cases first.arrived <;> simp [and_assoc]

theorem Brings.of_find? (brings : Brings record shipments)
    (first : shipments.find? Shipment.arrived = some shipment) :
    shipment.about record.key = [record] := by
  induction shipments with
  | nil => cases first
  | cons head rest ih =>
      rcases brings with ⟨here, later⟩
      rw [List.find?_cons] at first
      split at first
      · cases first
        exact here
      · next unarrived =>
          rcases later with arrived | later
          · rw [unarrived] at arrived
            cases arrived
          · exact ih later first

end Shipment

namespace Mail

variable {mail changed : Mail} {count : Nat} {record : TaskRecord} {shipment : Shipment}

/-- The record is among the changed ones or on its way with one of the shipments after the first
`count`, as long as none of these has arrived. -/
structure Delivers (mail : Mail) (count : Nat) (record : TaskRecord) : Prop where
  counted : count ≤ mail.shipments.length
  brings : Shipment.Brings record (mail.shipments.drop count)
  waits : (∀ shipment ∈ mail.answered.drop count, shipment.arrived = false) →
    mail.worker.tracker.updates.find? record.key = some record ∨
      (mail.worker.tracker.updates.find? record.key = none ∧
        ∃ shipment, mail.underway = some shipment ∧ count ≤ mail.answered.length)

theorem delivers_of_changed (changed : mail.worker.tracker.updates.find? record.key = some record) :
    mail.Delivers mail.shipments.length record := by
  refine ⟨Nat.le_refl _, ?_, fun _ => Or.inl changed⟩
  rw [List.drop_length]
  trivial

theorem about_drain (keyed : mail.worker.tracker.Keyed)
    (changed : mail.worker.tracker.updates.find? record.key = some record) (past : Chronicle)
    (arrived : Bool) :
    Shipment.about ⟨mail.worker.drain.1, past, arrived⟩ record.key = [record] := by
  apply TaskRecord.filter_key_eq
  · exact keyed.nodup_drain
  · exact Ledger.mem_values.mpr ⟨_, changed⟩

namespace Delivers

theorem undergo {event : Event} (delivers : mail.Delivers count record)
    (keyed : mail.worker.tracker.Keyed) (single : event.isTransfer = false)
    (happened : mail.undergo? event = some changed)
    (unmade : changed.chronicle.history record.key = mail.chronicle.history record.key) :
    changed.Delivers count record := by
  rcases Option.map_eq_some_iff.mp happened with ⟨worker, stepped, rfl⟩
  have none : Chronicle.newest? (mail.worker.made? event).toList record.key = none := by
    rw [Chronicle.history_append, List.append_right_eq_self] at unmade
    exact Chronicle.newest?_eq_none_iff.mpr unmade
  have same := Worker.find?_updates_of_step? keyed single stepped record.key
  rw [none, Option.none_or] at same
  refine ⟨delivers.counted, delivers.brings, fun unarrived => ?_⟩
  rw [same]
  exact delivers.waits unarrived

theorem send (delivers : mail.Delivers count record) (keyed : mail.worker.tracker.Keyed)
    (free : mail.underway = none) : mail.send.Delivers count record := by
  have before : mail.shipments = mail.answered := by simp [shipments, free]
  have after : mail.send.shipments =
      mail.answered ++ [⟨mail.worker.drain.1, mail.chronicle, false⟩] := rfl
  have counted := before ▸ delivers.counted
  refine ⟨?_, ?_, fun _ => Or.inr ⟨rfl, _, rfl, counted⟩⟩
  · rw [after, List.length_append]
    omega
  · rw [after, List.drop_append_of_le_length counted, Shipment.brings_concat]
    refine ⟨before ▸ delivers.brings, fun unarrived => ?_⟩
    rcases delivers.waits unarrived with changed | ⟨-, shipment, underway, -⟩
    · exact about_drain keyed changed ..
    · rw [free] at underway
      cases underway

theorem counted_answer (delivers : mail.Delivers count record)
    (underway : mail.underway = some shipment) (arrived : Bool) :
    count ≤ (mail.answer arrived).shipments.length := by
  have counted := delivers.counted
  rw [shipments, underway] at counted
  rw [Sound.shipments_answer underway]
  simpa using counted

/-- The reply does not change what was sent. -/
theorem brings_answer (delivers : mail.Delivers count record)
    (underway : mail.underway = some shipment) (arrived : Bool) :
    Shipment.Brings record ((mail.answer arrived).shipments.drop count) := by
  have brings := delivers.brings
  rw [shipments, underway, Option.toList_some] at brings
  rw [Sound.shipments_answer underway]
  by_cases inside : count ≤ mail.answered.length
  · rw [List.drop_append_of_le_length inside, Shipment.brings_concat] at brings ⊢
    exact brings
  · rw [List.drop_eq_nil_of_le (by simp; omega)]
    trivial

theorem arrive (delivers : mail.Delivers count record)
    (underway : mail.underway = some shipment) : (mail.answer true).Delivers count record := by
  refine ⟨delivers.counted_answer underway true, delivers.brings_answer underway true, ?_⟩
  intro unarrived
  rw [Sound.answered_answer underway] at unarrived
  by_cases inside : count ≤ mail.answered.length
  · -- the shipment that has just arrived is one of those after the first
    rw [List.drop_append_of_le_length inside] at unarrived
    have last := unarrived { shipment with arrived := true }
      (List.mem_append_right _ List.mem_cons_self)
    cases last
  · have nothing : mail.answered.drop count = [] := List.drop_eq_nil_of_le (by omega)
    rcases delivers.waits (by simp [nothing]) with changed | ⟨-, -, -, within⟩
    · exact Or.inl changed
    · exact absurd within inside

/-- A heartbeat that fails gives the record back, if it had it on board. -/
theorem fail (delivers : mail.Delivers count record) (underway : mail.underway = some shipment) :
    ((mail.answer false).restore shipment.records).Delivers count record := by
  refine ⟨delivers.counted_answer underway false, delivers.brings_answer underway false, ?_⟩
  intro unarrived
  left
  have restored : ((mail.answer false).restore shipment.records).worker.tracker.updates.find?
      record.key = (mail.worker.tracker.updates.find? record.key).or
        (shipment.records.find? fun aboard => decide (aboard.key = record.key)) :=
    Tracker.find?_updates_restore ..
  rw [restored]
  have before : ∀ earlier ∈ mail.answered.drop count, earlier.arrived = false := by
    intro earlier member
    apply unarrived earlier
    rw [restore, Sound.answered_answer underway, List.drop_append]
    exact List.mem_append_left _ member
  rcases delivers.waits before with changed | ⟨absent, -, -, inside⟩
  · rw [changed, Option.some_or]
  · have brings := delivers.brings
    rw [shipments, underway, Option.toList_some, List.drop_append_of_le_length inside,
      Shipment.brings_concat] at brings
    have aboard := brings.2 before
    rw [absent, Option.none_or, ← List.head?_filter]
    rw [Shipment.about] at aboard
    rw [aboard]
    rfl

/-- Whatever becomes of the mail, the record is delivered as long as it stays the newest of its
task. -/
theorem course (delivers : mail.Delivers count record) (keyed : mail.worker.tracker.Keyed)
    (course : mail.Course changed)
    (unmade : changed.chronicle.history record.key = mail.chronicle.history record.key) :
    changed.Delivers count record := by
  cases course with
  | still => exact delivers
  | undergone single happened => exact delivers.undergo keyed single happened unmade
  | sent free => exact delivers.send keyed free
  | arrived underway => exact delivers.arrive underway
  | failed underway => exact delivers.fail underway

end Delivers

end Mail

end TaskAgent
