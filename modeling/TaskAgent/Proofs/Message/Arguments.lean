import TaskAgent.Proofs.Json.Decoded
import TaskAgent.Proofs.Message.Record

/-!
# Arguments in orders, results in records

Which value the master gives to a task is read off the body of its answer in three steps: the
body lists orders, an order has a field for the arguments, and that field stands for a value. Here
the field is found where it is written (`Json.Written.fieldAt?`), and the value of the field is the
one that the order is carried out with (`Reply.exists_text_of_run`), `null` if there is no such
field. The result of a task stands in a field of its record in the same way, and there it is read
as the value that it is (`TaskRecord.result?_render`), also when that is `null`.
-/

namespace TaskAgent

namespace Json.Written

variable {α : Type} {written : Written} {declared : List String}
  {fields : List (String × Written)} {name : String} {place : Nat}

/-- What is written in a field of a record: in the first member of this name, or in this place of
the list. -/
def fieldAt? (name : String) (place : Nat) : Written → Option Written
  | object members => (members.find? fun member => member.1 == some name).map (·.2)
  | array elements => elements[place]?
  | _ => none

theorem lookup_zip {elements : List Written} (known : declared[place]? = some name)
    (distinct : declared.Nodup) : (declared.zip elements).lookup name = elements[place]? := by
  induction declared generalizing elements place with
  | nil => cases known
  | cons head rest ih =>
      rcases List.nodup_cons.mp distinct with ⟨fresh, distinctRest⟩
      cases elements with
      | nil => rfl
      | cons element others =>
          rw [List.zip_cons_cons, List.lookup_cons]
          cases place with
          | zero =>
              cases known
              simp
          | succ place =>
              have inRest : name ∈ rest := List.mem_of_getElem? known
              have differs : name ≠ head := fun same => fresh (same ▸ inRest)
              rw [beq_eq_false_iff_ne.mpr differs]
              exact ih known distinctRest

theorem lookup_of_named? {members : List (Option String × Written)}
    (named : named? members = some fields) (name : String) :
    fields.lookup name = (members.find? fun member => member.1 == some name).map (·.2) := by
  induction members generalizing fields with
  | nil =>
      cases named
      rfl
  | cons member rest ih =>
      rw [named?, List.mapM_cons] at named
      simp only [Option.pure_def, Option.bind_eq_bind, Option.bind_eq_some_iff] at named
      rcases named with ⟨first, headNamed, others, restNamed, whole⟩
      cases whole
      rcases Option.map_eq_some_iff.mp headNamed with ⟨own, isNamed, rfl⟩
      rw [List.lookup_cons, List.find?_cons, isNamed]
      by_cases same : name = own
      · simp [same]
      · have differs : (some own == some name) = false := by
          simpa using fun other => same other.symm
        rw [beq_eq_false_iff_ne.mpr same, differs]
        exact ih restNamed

theorem lookup_filter_declared {members : List (String × Written)} (known : name ∈ declared) :
    (members.filter fun member => declared.contains member.1).lookup name =
      members.lookup name := by
  induction members with
  | nil => rfl
  | cons member rest ih =>
      by_cases same : name = member.1
      · have kept : declared.contains member.1 = true := by simpa [← same] using known
        rw [List.filter_cons, if_pos kept, List.lookup_cons, List.lookup_cons, same,
          beq_self_eq_true]
      · have differs : (name == member.1) = false := beq_eq_false_iff_ne.mpr same
        rw [List.lookup_cons, differs, ← ih, List.filter_cons]
        split
        · rw [List.lookup_cons, differs]
        · rfl

/-- A declared field is found where it is written. -/
theorem lookup_eq_fieldAt? (place : Nat) (read : written.fields? declared = some fields)
    (known : declared[place]? = some name) (distinct : declared.Nodup) :
    fields.lookup name = written.fieldAt? name place := by
  unfold fields? at read
  split at read
  · split at read
    · cases read
      exact lookup_zip known distinct
    · cases read
  · split at read
    · cases read
    · next found named =>
        dsimp only at read
        split at read
        · cases read
          rw [lookup_filter_declared (List.mem_of_getElem? known)]
          exact lookup_of_named? named name
        · cases read
  · cases read

theorem exists_of_record? {read : Nat → List (String × Written) → Option α} {allowance : Nat}
    {value : α} (readRecord : record? declared read allowance written = some value) :
    ∃ inner fields, allowance = inner + 1 ∧ written.fields? declared = some fields ∧
      read inner fields = some value := by
  cases allowance with
  | zero => cases readRecord
  | succ inner =>
      rw [record?] at readRecord
      split at readRecord
      · next fields found => exact ⟨inner, fields, rfl, found, readRecord⟩
      · cases readRecord

theorem exists_of_mapM {read : Written → Option α} {elements : List Written} {values : List α}
    {value : α} (readAll : elements.mapM read = some values) (listed : value ∈ values) :
    ∃ element ∈ elements, read element = some value := by
  induction elements generalizing values with
  | nil =>
      cases readAll
      cases listed
  | cons element rest ih =>
      rw [List.mapM_cons] at readAll
      simp only [Option.pure_def, Option.bind_eq_bind, Option.bind_eq_some_iff] at readAll
      rcases readAll with ⟨first, readFirst, others, readRest, whole⟩
      cases whole
      rcases List.mem_cons.mp listed with rfl | later
      · exact ⟨element, List.mem_cons_self, readFirst⟩
      · rcases ih readRest later with ⟨other, inRest, readOther⟩
        exact ⟨other, List.mem_cons_of_mem _ inRest, readOther⟩

/-- Every element of a list that was read is read off one that is written. -/
theorem exists_of_list? {read : Nat → Written → Option α} {allowance : Nat} {values : List α}
    {value : α} (readList : list? read allowance written = some values) (listed : value ∈ values) :
    ∃ inner elements element, allowance = inner + 1 ∧ written = .array elements ∧
      element ∈ elements ∧ read inner element = some value := by
  cases allowance with
  | zero => cases readList
  | succ inner =>
      cases written with
      | array elements =>
          rcases exists_of_mapM readList listed with ⟨element, member, readElement⟩
          exact ⟨inner, elements, element, rfl, rfl, member, readElement⟩
      | _ => cases readList

end Json.Written

open Json.Written

namespace Command

variable {written : Json.Written} {allowance : Nat} {key : TaskKey} {config : JobConfig}
  {arguments : Json}

/-- The arguments in a written order to run a task, `null` when there are none. -/
def arguments? (written : Json.Written) : Option Json :=
  match written.fieldAt? "task_args" 4 with
  | some text => text.value? Json.greatestNesting
  | none => some .null

theorem isWithin_of_arguments? (reads : arguments? written = some arguments) :
    Json.IsWithin Json.greatestNesting arguments := by
  unfold arguments? at reads
  split at reads
  · exact isWithin_of_value? reads
  · cases reads
    exact ⟨.null, Nat.zero_le _⟩

theorem exists_kind_of_read? {command : Command} (read : read? allowance written = some command) :
    ∃ kind body, ofKind? kind allowance body = some command ∧
      ∀ name place, body.fieldAt? name place = written.fieldAt? name (place + 1) := by
  unfold read? at read
  split at read
  · next value kind body whole tagged =>
      refine ⟨kind, body, read, ?_⟩
      intro name place
      unfold tagged? at tagged
      split at tagged
      · cases tagged
        rfl
      · split at tagged
        · cases tagged
          rfl
        · cases tagged
      · cases tagged
  · cases read

/-- A task is run with the arguments that are written in the order. -/
theorem arguments?_of_read? (read : read? allowance written = some (.run key config arguments))
    (fits : allowance ≤ Json.greatestNesting) : arguments? written = some arguments := by
  rcases exists_kind_of_read? read with ⟨kind, body, readBody, same⟩
  unfold ofKind? at readBody
  split at readBody
  · rcases exists_of_record? readBody with ⟨inner, fields, rfl, found, readFields⟩
    split at readFields
    · next job task configs values readJob readTask readConfig readArguments =>
        cases readFields
        rw [optional?, lookup_eq_fieldAt? 3 found rfl (by decide), same] at readArguments
        unfold arguments?
        split at readArguments
        · next text written => rw [written]; exact Json.Written.value?_mono (by omega) readArguments
        · next written => rw [written]; exact readArguments
    · cases readFields
  · split at readBody
    · rcases exists_of_record? readBody with ⟨inner, fields, rfl, found, readFields⟩
      split at readFields
      · cases readFields
      · cases readFields
    · split at readBody
      · rcases exists_of_record? readBody with ⟨inner, fields, rfl, found, readFields⟩
        cases readFields
      · cases readBody

end Command

theorem Orders.exists_of_read? {orders : Orders} {written : Json.Written} {allowance : Nat}
    {command : Command} (read : read? allowance written = some orders)
    (listed : command ∈ orders.commands) :
    ∃ inner elements text, allowance = inner + 2 ∧
      written.fieldAt? "commands" 0 = some (.array elements) ∧ text ∈ elements ∧
        Command.read? inner text = some command := by
  rcases exists_of_record? read with ⟨between, fields, rfl, found, readFields⟩
  rcases Option.map_eq_some_iff.mp readFields with ⟨commands, readCommands, rfl⟩
  unfold optional? at readCommands
  split at readCommands
  · next field lookup =>
      rw [lookup_eq_fieldAt? 0 found rfl (by decide)] at lookup
      rcases exists_of_list? readCommands listed with
        ⟨inner, elements, text, rfl, rfl, member, readText⟩
      exact ⟨inner, elements, text, rfl, lookup, member, readText⟩
  · cases readCommands
    cases listed

namespace Reply

variable {reply : Reply} {orders : Orders}

/-- The orders in the body of an answer, as they are written. -/
def orderTexts : Reply → List Json.Written
  | answered _ body =>
    match (Json.read? body.toList).bind (fieldAt? "commands" 0) with
    | some (.array elements) => elements
    | _ => []
  | _ => []

theorem exists_of_accepted (accepted : reply.orders = .ok (some orders)) :
    ∃ status body written, reply = .answered status body ∧
      Json.read? body.toList = some written ∧
        Orders.read? Json.greatestNesting written = some orders := by
  cases reply with
  | answered status body =>
      rw [Reply.orders] at accepted
      split at accepted
      · cases accepted
      · split at accepted
        · split at accepted
          · next decoded =>
              cases accepted
              rcases Option.bind_eq_some_iff.mp decoded with ⟨written, readBody, readOrders⟩
              exact ⟨status, body, written, rfl, readBody, readOrders⟩
          · cases accepted
        · cases accepted
  | lost => cases accepted
  | unsendable => cases accepted

/-- An order to run a task stands in the body of the answer, with the arguments that the task is
run with. -/
theorem exists_text_of_run {key : TaskKey} {config : JobConfig} {arguments : Json}
    (accepted : reply.orders = .ok (some orders))
    (listed : .run key config arguments ∈ orders.commands) :
    ∃ text ∈ reply.orderTexts,
      Command.read? (Json.greatestNesting - 2) text = some (.run key config arguments) ∧
        Command.arguments? text = some arguments := by
  rcases exists_of_accepted accepted with ⟨status, body, written, rfl, readBody, readOrders⟩
  rcases Orders.exists_of_read? readOrders listed with
    ⟨inner, elements, text, same, field, member, readText⟩
  have inner_eq : inner = Json.greatestNesting - 2 := by omega
  subst inner_eq
  refine ⟨text, ?_, readText, ?_⟩
  · simp only [orderTexts, readBody, Option.bind_some, field]
    exact member
  · exact Command.arguments?_of_read? readText (Nat.sub_le ..)

/-- An answer with orders. -/
def ordering (orders : Orders) : Reply := .answered 200 (Json.render orders.toJson)

theorem orders_ordering (plain : ∀ command ∈ orders.commands, command.IsPlain)
    (fits : Json.nesting orders.toJson ≤ Json.greatestNesting) :
    (ordering orders).orders = .ok (some orders) := by
  have back := decode?_render (Orders.isIntegral_toJson plain) (Orders.read?_written plain fits)
  simp [ordering, Reply.orders, back, isSuccess]

end Reply

namespace TaskRecord

variable {record : TaskRecord} {value : Json}

/-- The result in a written record, as a value. -/
def result? (written : Json.Written) : Option Json :=
  (written.fieldAt? "result" 3).bind (Json.Written.value? Json.greatestNesting)

theorem fieldAt?_result (completed : record.result = some value) :
    (Json.written record.toJson).fieldAt? "result" 3 = some (Json.written value) := by
  rcases record with ⟨key, status, result, errorMessage, address⟩
  cases completed
  simp [toJson, TaskKey.fields, optionalField, Json.written, Json.writtenMembers, fieldAt?]

/-- The result is read off the text of the record. -/
theorem result?_render (completed : record.result = some value) (integral : value.IsIntegral)
    (within : Json.IsWithin Json.greatestNesting value) :
    (Json.read? (Json.render record.toJson).toList).bind result? = some value := by
  have plain := isPlain_of_result completed integral within.1
  rw [Json.render, String.toList_ofList, Json.read?_printed (isIntegral_toJson plain)]
  rw [Option.bind_some, result?, fieldAt?_result completed, Option.bind_some]
  exact within.value?_written integral

end TaskRecord

end TaskAgent
