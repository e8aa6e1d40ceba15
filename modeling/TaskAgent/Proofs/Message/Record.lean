import TaskAgent.Proofs.Message.RoundTrip
import TaskAgent.Proofs.Worker.Custody

/-!
# Records there and back

A record leaves out what it does not have, and a reader takes a result that is `null` for one that
is missing. So the text of a record gives the record again unless its task completed with `null`;
then all but the result comes back (`TaskRecord.heard`). For the records that a worker keeps and
hands over this means that a result is heard just of the tasks that completed with something else
than `null`.
-/

namespace TaskAgent

open Json (IsIntegral nesting written)

open Json.Written

namespace Json

/-- The value, if it is not `null`. -/
def nonNull? : Json → Option Json
  | null => none
  | value => some value

theorem isSome_nonNull?_iff {value : Json} : value.nonNull?.isSome = true ↔ value ≠ .null := by
  cases value <;> simp [nonNull?]

theorem nonNull?_of_ne_null {value : Json} (present : value ≠ .null) :
    value.nonNull? = some value := by
  cases value <;> simp_all [nonNull?]

/-- What may be `null` is read as missing when it is. -/
theorem orNull?_value?_written {value : Json} {inner : Nat} (integral : IsIntegral value)
    (read : (written value).value? inner = some value) :
    orNull? (Written.value? inner) (written value) = some value.nonNull? := by
  cases integral with
  | null => rfl
  | _ =>
      simp only [written] at read
      simp only [written, orNull?, nonNull?, read, Option.map_some]

theorem orNull?_text?_written (text : String) :
    orNull? Written.text? (written (.string text)) = some (some text) := rfl

end Json

namespace TaskRecord

variable {record : TaskRecord}

/-- A record whose result, if it has one, holds integers of 64 bits as its only numbers and
members in order. -/
def IsPlain (record : TaskRecord) : Prop :=
  ∀ result, record.result = some result → result.IsIntegral ∧ result.IsSorted

theorem isPlain_of_result {value : Json} (result : record.result = some value)
    (integral : value.IsIntegral) (isSorted : value.IsSorted) : record.IsPlain := by
  intro found same
  cases result.symm.trans same
  exact ⟨integral, isSorted⟩

/-- The record as it is understood from its text. -/
def heard (record : TaskRecord) : TaskRecord :=
  { record with result := record.result.bind Json.nonNull? }

theorem heard_eq_iff : record.heard = record ↔ record.result ≠ some .null := by
  rcases record with ⟨key, status, result, errorMessage, address⟩
  cases result with
  | none => simp [heard]
  | some result =>
      by_cases absent : result = .null
      · simp [heard, absent, Json.nonNull?]
      · simp [heard, absent, Json.nonNull?_of_ne_null absent]

theorem isSome_result_heard :
    record.heard.result.isSome = true ↔
      record.result.isSome = true ∧ record.result ≠ some .null := by
  rcases record with ⟨key, status, result, errorMessage, address⟩
  cases result with
  | none => simp [heard]
  | some result => simp [heard, Json.isSome_nonNull?_iff]

theorem isIntegral_toJson (plain : record.IsPlain) : IsIntegral record.toJson := by
  rcases record with ⟨key, status, result, errorMessage, address⟩
  cases result with
  | none =>
      cases errorMessage <;> simp [toJson, TaskKey.fields, optionalField, address.isIntegral_toJson]
  | some result =>
      have integral := (plain result rfl).1
      cases errorMessage <;>
        simp [toJson, TaskKey.fields, optionalField, address.isIntegral_toJson, integral]

theorem nesting_toJson (record : TaskRecord) :
    nesting record.toJson = max 1 (record.result.elim 0 nesting) + 1 := by
  rcases record with ⟨key, status, result, errorMessage, address⟩
  cases result <;> cases errorMessage <;>
    simp [toJson, TaskKey.fields, optionalField, Address.toJson, Json.ofNat, nesting,
      Json.membersNesting, Nat.max_comm]

/-- A record is read as it is heard wherever it has room enough. -/
theorem read?_written (plain : record.IsPlain) {allowance : Nat}
    (fits : nesting record.toJson ≤ allowance) :
    read? allowance (written record.toJson) = some record.heard := by
  rw [nesting_toJson] at fits
  rcases Nat.exists_eq_add_of_le' (show 2 ≤ allowance by omega) with ⟨inner, rfl⟩
  rcases record with ⟨key, status, result, errorMessage, address⟩
  have present : ∀ value, result = some value →
      orNull? (value? (inner + 1)) (written value) = some value.nonNull? := by
    rintro value rfl
    rcases plain value rfl with ⟨integral, isSorted⟩
    have room : nesting value ≤ inner + 1 := by
      rw [Option.elim_some] at fits
      omega
    have read := Json.value?_written integral room
    rw [isSorted.sorted_eq] at read
    exact Json.orNull?_value?_written integral read
  rw [read?, record?, toJson, TaskKey.fields, fields?_written]
  · cases result <;> cases errorMessage <;>
      simp [required?, optional?, optionalField, heard, List.lookup_cons, int64?_written,
        Status.read?_written, Address.read?_written, Json.orNull?_text?_written, present]
  · cases result <;> cases errorMessage <;> simp [optionalField]

theorem decode?_render (plain : record.IsPlain)
    (fits : nesting record.toJson ≤ Json.greatestNesting) :
    Reply.decode? read? (Json.render record.toJson) = some record.heard :=
  Reply.decode?_render (isIntegral_toJson plain) (read?_written plain fits)

end TaskRecord

namespace Custody

variable {custody : Custody} {moves : List Move} {records : List TaskRecord} {record : TaskRecord}

theorem isReport_of_listed {pool : Pool} {registry : Registry} {address : Address}
    (ran : (make pool registry address).run? moves = some custody)
    (listed : records ∈ custody.lists ++
      [custody.worker.tracker.drain.1, custody.worker.tracker.unfinishedTasks])
    (member : record ∈ records) : record.IsReport address := by
  rcases wellKept_of_run? ran (wellKept_make pool registry address) rfl with ⟨wellKept, rfl⟩
  rcases List.mem_append.mp listed with handed | kept
  · exact (wellKept.lists records handed).2 record member
  · simp only [List.mem_cons, List.not_mem_nil, or_false] at kept
    rcases kept with rfl | rfl
    · exact wellKept.drain.2 record member
    · rcases Ledger.mem_values.mp member with ⟨key, found⟩
      rw [wellKept.tracker.unfinished found]
      exact TaskRecord.isReport_running ..

/-- Of every record that a worker keeps or has handed over, the text gives back all but a result
that is `null`: the record itself just if its task has not completed with `null`, and a result
just if its task has completed with something else. -/
theorem record_round_trip {pool : Pool} {registry : Registry} {address : Address}
    (ran : (make pool registry address).run? moves = some custody)
    (listed : records ∈ custody.lists ++
      [custody.worker.tracker.drain.1, custody.worker.tracker.unfinishedTasks])
    (member : record ∈ records) (plain : record.IsPlain)
    (fits : record.toJson.nesting ≤ Json.greatestNesting) :
    Reply.decode? TaskRecord.read? (Json.render record.toJson) = some record.heard ∧
    (record.heard = record ↔ record.result ≠ some .null) ∧
    (record.result.isSome = true ↔ record.status = .completed) ∧
    (record.heard.result.isSome = true ↔
      record.status = .completed ∧ record.result ≠ some .null) := by
  have own := isReport_of_listed ran listed member
  refine ⟨TaskRecord.decode?_render plain fits, TaskRecord.heard_eq_iff, own.result_iff, ?_⟩
  rw [TaskRecord.isSome_result_heard, own.result_iff]

/-- A task completes with `null`. -/
def completedWithNull : List Move :=
  [.work (.submit ⟨⟨1, 1⟩, ⟨"noop"⟩, .null, "scratch"⟩), .work (.grant 0), .work (.start 0),
    .work (.finish 0 (.ok .null)), .work (.commit 0), .work (.report 0)]

/-- The record of a task that completed with `null` is heard without a result. -/
theorem record_changed_completedWithNull :
    ∃ custody record heard,
      (make (.ofSize 1) .builtin ⟨"host", 1, 2⟩).run? completedWithNull = some custody ∧
      record ∈ custody.worker.tracker.drain.1 ∧ record.result = some .null ∧
      record.toJson.nesting ≤ Json.greatestNesting ∧
      Reply.decode? TaskRecord.read? (Json.render record.toJson) = some heard ∧
      heard.status = .completed ∧ heard.result = none := by
  have decoded : ∀ record : TaskRecord, record.result = some .null →
      record.toJson.nesting ≤ Json.greatestNesting →
        Reply.decode? TaskRecord.read? (Json.render record.toJson) = some record.heard := by
    intro record result fits
    exact TaskRecord.decode?_render (TaskRecord.isPlain_of_result result .null .null) fits
  exact ⟨_, _, _, rfl, List.mem_cons_self, rfl, by decide, decoded _ rfl (by decide), rfl, rfl⟩

/-- A task completes with a list and another one runs. -/
def completedWithList : List Move :=
  [.work (.submit ⟨⟨1, 1⟩, ⟨"echo"⟩, .array [.null, .integer 7], "scratch"⟩), .work (.grant 0),
    .work (.start 0), .work (.finish 0 (.ok (.array [.null, .integer 7]))), .work (.commit 0),
    .work (.report 0), .work (.submit ⟨⟨1, 2⟩, ⟨"echo"⟩, .null, "scratch"⟩)]

theorem record_round_trip_completedWithList :
    ∃ custody record,
      (make (.ofSize 1) .builtin ⟨"host", 1, 2⟩).run? completedWithList = some custody ∧
      record ∈ custody.worker.tracker.drain.1 ∧ record.result = some (.array [.null, .integer 7]) ∧
      Reply.decode? TaskRecord.read? (Json.render record.toJson) = some record := by
  have back : ∀ custody record,
      (make (.ofSize 1) .builtin ⟨"host", 1, 2⟩).run? completedWithList = some custody →
        record ∈ custody.worker.tracker.drain.1 →
          record.result = some (.array [.null, .integer 7]) →
            record.toJson.nesting ≤ Json.greatestNesting →
              Reply.decode? TaskRecord.read? (Json.render record.toJson) = some record := by
    intro custody record ran member result fits
    have plain : record.IsPlain := by
      refine TaskRecord.isPlain_of_result result ?_ (.array ?_)
      · simp [IsIntegral.integer]
      · simp [Json.IsSorted.null, Json.IsSorted.integer]
    have listed := List.mem_append_right custody.lists (List.mem_cons_self
      (a := custody.worker.tracker.drain.1) (l := [custody.worker.tracker.unfinishedTasks]))
    rcases record_round_trip ran listed member plain fits with ⟨decoded, unchanged, -, -⟩
    rw [decoded, unchanged.mpr (by simp [result])]
  exact ⟨_, _, rfl, List.mem_cons_self, rfl, back _ _ rfl List.mem_cons_self rfl (by decide)⟩

end Custody

end TaskAgent
