import TaskAgent.Master.Reply
import TaskAgent.Proofs.Json.RoundTrip

/-!
# Messages there and back

What the master sends is read by the agent as it was meant: the text of a message, decoded, gives
the message again. Arguments of tasks come back as they were when their numbers are integers of 64
bits and not too many lists and objects stand inside each other.

A record is read by the names of its members (`Json.Written.fields?_written`). A command is read
twice, once as a value, for the limits of values hold for all of it, and once by its kind
(`Command.read?_eq_ofKind?`).
-/

namespace TaskAgent

open Json (IsIntegral nesting written)

namespace Json.Written

variable {α : Type}

theorem text?_written (text : String) : (written (.string text)).text? = some text := rfl

theorem integerWithin?_written {value least greatest : Int} (integral : IsIntegral (.integer value))
    (above : least ≤ value) (below : value ≤ greatest) :
    (written (.integer value)).integerWithin? least greatest = some value := by
  cases integral with
  | integer smallest largest =>
      simp [written, integerWithin?, integer?, value?_integerNumeral smallest largest, above, below]

theorem int64?_written (value : Int64) :
    (written (.integer value.toInt)).int64? = some value := by
  rw [int64?, integerWithin?_written (.int64 value) value.minValue_le_toInt
    value.toInt_le, Option.map_some, Int64.ofInt_toInt]

theorem uint16?_written (value : UInt16) :
    (written (.ofNat value.toNat)).uint16? = some value := by
  have small := value.toNat_lt
  have below : (value.toNat : Int) ≤ UInt16.size - 1 := by
    rw [UInt16.size]
    omega
  rw [uint16?, ofNat, integerWithin?_written (.uint16 value) (by omega) below]
  simp

theorem uint32?_written (value : UInt32) :
    (written (.ofNat value.toNat)).uint32? = some value := by
  have small := value.toNat_lt
  have below : (value.toNat : Int) ≤ UInt32.size - 1 := by
    rw [UInt32.size]
    omega
  rw [uint32?, ofNat, integerWithin?_written (.uint32 value) (by omega) below]
  simp

/-- Elements that are read as what they were made of make up a list that is. -/
theorem list?_written {read : Nat → Written → Option α} {make : α → Json} {values : List α}
    {inner : Nat} (each : ∀ value ∈ values, read inner (written (make value)) = some value) :
    list? read (inner + 1) (written (.array (values.map make))) = some values := by
  rw [written, writtenElements_eq_map, list?]
  induction values with
  | nil => rfl
  | cons value rest ih =>
      have readRest := ih fun other inRest => each other (List.mem_cons_of_mem _ inRest)
      rw [List.map_cons, List.map_cons, List.mapM_cons, each value List.mem_cons_self, readRest]
      rfl

/-- The members of an object are named again by the names they were written under. -/
theorem named?_writtenMembers (members : List (String × Json)) :
    named? (writtenMembers members) =
      some (members.map fun member => (member.1, written member.2)) := by
  induction members with
  | nil => rfl
  | cons member rest ih =>
      rw [named?] at ih
      rw [writtenMembers, named?, List.mapM_cons, ih]
      rfl

/-- The fields of a record are the members with the declared names. -/
theorem fields?_written {members : List (String × Json)} {declared : List String}
    (distinct : ((members.filter fun member => declared.contains member.1).map (·.1)).Nodup) :
    (written (.object members)).fields? declared =
      some ((members.filter fun member => declared.contains member.1).map fun member =>
        (member.1, written member.2)) := by
  have filtered : (members.map fun member => (member.1, written member.2)).filter
      (fun member => declared.contains member.1) =
      (members.filter fun member => declared.contains member.1).map fun member =>
        (member.1, written member.2) :=
    List.filter_map ..
  rw [written, fields?, named?_writtenMembers]
  simp only [filtered]
  rw [if_pos]
  simpa [Function.comp_def] using distinct

end Json.Written

open Json.Written

namespace TaskKey

theorem isIntegral_toJson (key : TaskKey) : IsIntegral key.toJson := by
  simp [toJson, fields]

theorem read?_written (key : TaskKey) (inner : Nat) :
    read? (inner + 1) (written key.toJson) = some key := by
  rw [read?, record?, toJson, fields, fields?_written (by simp)]
  simp [required?, List.lookup_cons, int64?_written]

end TaskKey

namespace Address

theorem isIntegral_toJson (address : Address) : IsIntegral address.toJson := by
  simp [toJson]

theorem read?_written (address : Address) (inner : Nat) :
    read? (inner + 1) (written address.toJson) = some address := by
  rw [read?, record?, toJson, fields?_written (by simp)]
  simp [required?, List.lookup_cons, uint16?_written, text?_written]

end Address

namespace JobConfig

theorem isIntegral_toJson (config : JobConfig) : IsIntegral config.toJson := by
  simp [toJson]

theorem read?_written (config : JobConfig) (inner : Nat) :
    read? (inner + 1) (written config.toJson) = some config := by
  rw [read?, record?, toJson, fields?_written (by simp)]
  simp [required?, text?_written]

end JobConfig

namespace Registration

theorem isIntegral_toJson (registration : Registration) : IsIntegral registration.toJson := by
  simp [toJson, registration.address.isIntegral_toJson]

theorem read?_written (registration : Registration) (inner : Nat) :
    read? (inner + 2) (written registration.toJson) = some registration := by
  rw [read?, record?, toJson, fields?_written (by simp)]
  simp [required?, List.lookup_cons, uint32?_written, Address.read?_written]

end Registration

namespace Registered

theorem isIntegral_toJson (registered : Registered) : IsIntegral registered.toJson := by
  simp [toJson]

theorem read?_written (registered : Registered) (inner : Nat) :
    read? (inner + 1) (written registered.toJson) = some registered := by
  rw [read?, record?, toJson, fields?_written (by simp)]
  simp [required?, int64?_written]

end Registered

namespace Command

/-- A command whose arguments, if it has any, hold integers of 64 bits as their only numbers and
members in order. -/
inductive IsPlain : Command → Prop where
  | run (key : TaskKey) (config : JobConfig) {arguments : Json} (integral : arguments.IsIntegral)
      (isSorted : arguments.IsSorted) : IsPlain (.run key config arguments)
  | cancel (key : TaskKey) : IsPlain (.cancel key)
  | register : IsPlain .register

variable {command : Command}

theorem IsPlain.isIntegral_toJson (plain : IsPlain command) : IsIntegral command.toJson := by
  cases plain with
  | run key config integral _ =>
      simp [toJson, TaskKey.fields, config.isIntegral_toJson, integral]
  | cancel key => simp [toJson, TaskKey.fields]
  | register => simp [toJson]

/-- The kind of a command is found in the member `type`. -/
theorem tagged?_written {kind : String} {members : List (String × Json)}
    (untagged : ∀ member ∈ members, member.1 ≠ "type") :
    tagged? (written (.object (("type", .string kind) :: members))) =
      some (.string (some kind), written (.object (("type", .string kind) :: members))) := by
  have others : (Json.writtenMembers members).filter (fun member => member.1 == some "type") =
      [] := by
    rw [Json.writtenMembers_eq_map, List.filter_eq_nil_iff]
    intro written inWritten
    rcases List.mem_map.mp inWritten with ⟨member, inMembers, rfl⟩
    simpa using untagged member inMembers
  simp [written, Json.writtenMembers, tagged?, others]

/-- A command that is a value within its limits is read by its kind. -/
theorem read?_eq_ofKind? {kind : String} {members : List (String × Json)} {allowance : Nat}
    (integral : IsIntegral (.object (("type", .string kind) :: members)))
    (untagged : ∀ member ∈ members, member.1 ≠ "type")
    (fits : nesting (.object (("type", .string kind) :: members)) ≤ allowance) :
    read? allowance (written (.object (("type", .string kind) :: members))) =
      ofKind? kind allowance (written (.object (("type", .string kind) :: members))) := by
  rw [read?, Json.value?_written integral fits, tagged?_written untagged]

theorem ofKind?_run (key : TaskKey) (config : JobConfig) {arguments : Json} {inner : Nat}
    (read : (written arguments).value? (inner + 1) = some arguments) :
    ofKind? "RUN_TASK" (inner + 2) (written (run key config arguments).toJson) =
      some (run key config arguments) := by
  simp only [ofKind?, reduceIte, record?]
  rw [toJson, TaskKey.fields, fields?_written (by simp)]
  simp [required?, optional?, List.lookup_cons, int64?_written, config.read?_written, read]

theorem ofKind?_cancel (key : TaskKey) (inner : Nat) :
    ofKind? "CANCEL_TASK" (inner + 1) (written (cancel key).toJson) = some (cancel key) := by
  simp only [ofKind?, String.reduceEq, reduceIte, record?]
  rw [toJson, TaskKey.fields, fields?_written (by simp)]
  simp [required?, List.lookup_cons, int64?_written]

theorem ofKind?_register (inner : Nat) :
    ofKind? "REGISTER" (inner + 1) (written register.toJson) = some register := by
  simp only [ofKind?, String.reduceEq, reduceIte, record?]
  rw [toJson, fields?_written (by simp)]

theorem nesting_run (key : TaskKey) (config : JobConfig) (arguments : Json) :
    nesting (run key config arguments).toJson = max 1 (nesting arguments) + 1 := by
  simp [toJson, TaskKey.fields, JobConfig.toJson, nesting, Json.membersNesting]

theorem nesting_pos (command : Command) : 0 < nesting command.toJson := by
  cases command <;> simp [toJson, nesting]

/-- A command is read back wherever it has room enough. -/
theorem read?_written (plain : IsPlain command) {allowance : Nat}
    (fits : nesting command.toJson ≤ allowance) :
    read? allowance (written command.toJson) = some command := by
  have integral := plain.isIntegral_toJson
  rcases Nat.exists_eq_add_one.mpr (Nat.lt_of_lt_of_le command.nesting_pos fits) with ⟨inner, rfl⟩
  cases plain with
  | @run key config arguments argumentsIntegral isSorted =>
      have room := fits
      rw [nesting_run] at room
      rcases Nat.exists_eq_add_one.mpr (show 0 < inner by omega) with ⟨innermost, rfl⟩
      have value := Json.value?_written argumentsIntegral (show _ ≤ innermost + 1 by omega)
      rw [isSorted.sorted_eq] at value
      exact (read?_eq_ofKind? integral (by simp [TaskKey.fields]) fits).trans
        (ofKind?_run key config value)
  | cancel key =>
      exact (read?_eq_ofKind? integral (by simp [TaskKey.fields]) fits).trans
        (ofKind?_cancel key inner)
  | register =>
      exact (read?_eq_ofKind? integral (by simp) fits).trans (ofKind?_register inner)

end Command

namespace Orders

variable {orders : Orders}

theorem isIntegral_toJson (plain : ∀ command ∈ orders.commands, command.IsPlain) :
    IsIntegral orders.toJson := by
  have each : ∀ command ∈ orders.commands, IsIntegral command.toJson :=
    fun command listed => (plain command listed).isIntegral_toJson
  simpa [toJson] using each

theorem read?_written (plain : ∀ command ∈ orders.commands, command.IsPlain) {allowance : Nat}
    (fits : nesting orders.toJson ≤ allowance) :
    read? allowance (written orders.toJson) = some orders := by
  simp only [toJson, nesting, Json.membersNesting, Nat.max_zero] at fits
  rcases Nat.exists_eq_add_of_le' (show 2 ≤ allowance by omega) with ⟨inner, rfl⟩
  have each : ∀ command ∈ orders.commands,
      Command.read? inner (written command.toJson) = some command := by
    intro command inCommands
    have listed : command.toJson ∈ orders.commands.map Command.toJson :=
      List.mem_map_of_mem inCommands
    have smaller := Json.nesting_le_elementsNesting listed
    exact Command.read?_written (plain command inCommands) (by omega)
  rw [read?, record?, toJson, fields?_written (by simp)]
  simp [optional?, list?_written each]

end Orders

theorem Status.read?_written (status : Status) (allowance : Nat) :
    read? allowance (written (.string status.word)) = some status := by
  cases status <;> rfl

namespace Reply

variable {α : Type} {read : Nat → Json.Written → Option α} {value : α} {json : Json}

/-- A text that was printed is decoded as what is read from its parts. -/
theorem decode?_render (integral : IsIntegral json)
    (back : read Json.greatestNesting (written json) = some value) :
    decode? read (Json.render json) = some value := by
  rw [decode?, Json.render, String.toList_ofList, Json.read?_printed integral]
  exact back

end Reply

open Reply

/-- The text of a message gives the message again when it is decoded: every key, status, address,
job, registration and answer to one, and, as long as no more lists and objects than
`Json.greatestNesting` stand inside each other, arguments, commands and answers to heartbeats. -/
theorem wire_round_trip :
    (∀ key : TaskKey, decode? TaskKey.read? (Json.render key.toJson) = some key) ∧
    (∀ status : Status, decode? Status.read? (Json.render (.string status.word)) = some status) ∧
    (∀ address : Address, decode? Address.read? (Json.render address.toJson) = some address) ∧
    (∀ config : JobConfig, decode? JobConfig.read? (Json.render config.toJson) = some config) ∧
    (∀ registration : Registration,
      decode? Registration.read? (Json.render registration.toJson) = some registration) ∧
    (∀ registered : Registered,
      decode? Registered.read? (Json.render registered.toJson) = some registered) ∧
    (∀ arguments : Json, arguments.IsIntegral → arguments.IsSorted →
      arguments.nesting ≤ Json.greatestNesting →
      Json.parse? (Json.render arguments) = some arguments) ∧
    (∀ command : Command, command.IsPlain → command.toJson.nesting ≤ Json.greatestNesting →
      decode? Command.read? (Json.render command.toJson) = some command) ∧
    (∀ orders : Orders, (∀ command ∈ orders.commands, command.IsPlain) →
      orders.toJson.nesting ≤ Json.greatestNesting →
      decode? Orders.read? (Json.render orders.toJson) = some orders) := by
  refine ⟨?_, ?_, ?_, ?_, ?_, ?_, ?_, ?_, ?_⟩
  · exact fun key => decode?_render key.isIntegral_toJson (key.read?_written _)
  · exact fun status => decode?_render (.string _) (status.read?_written _)
  · exact fun address => decode?_render address.isIntegral_toJson (address.read?_written _)
  · exact fun config => decode?_render config.isIntegral_toJson (config.read?_written _)
  · exact fun registration =>
      decode?_render registration.isIntegral_toJson (registration.read?_written _)
  · exact fun registered =>
      decode?_render registered.isIntegral_toJson (registered.read?_written _)
  · exact fun arguments integral isSorted fits => Json.parse?_render integral isSorted fits
  · exact fun command plain fits =>
      decode?_render plain.isIntegral_toJson (Command.read?_written plain fits)
  · exact fun orders plain fits =>
      decode?_render (Orders.isIntegral_toJson plain) (Orders.read?_written plain fits)

/-- Arguments with names and texts that need escapes, with the least and the greatest of the
integers, and with a member that is named like the kind of a command. -/
def ambiguousArguments : Json :=
  .object [("\x07\"\n", .array [.integer (-9223372036854775808), .integer 18446744073709551615]),
    ("type", .object [("tipo\\", .string "CANCEL_TASK\x1f\t é 😀")])]

theorem wire_round_trip_ambiguousArguments :
    let order := Command.run ⟨-1, 7⟩ ⟨"conteo \"a\""⟩
    let orders : Orders := ⟨[order .null, order ambiguousArguments, .cancel ⟨-1, 7⟩, .register]⟩
    (ambiguousArguments.IsIntegral ∧ ambiguousArguments.IsSorted ∧
        orders.toJson.nesting ≤ Json.greatestNesting) ∧
      Json.parse? (Json.render ambiguousArguments) = some ambiguousArguments ∧
      decode? Command.read? (Json.render (order .null).toJson) = some (order .null) ∧
      decode? Command.read? (Json.render (order ambiguousArguments).toJson) =
        some (order ambiguousArguments) ∧
      decode? Orders.read? (Json.render orders.toJson) = some orders := by
  have integral : ambiguousArguments.IsIntegral := by
    simp [ambiguousArguments, IsIntegral.integer]
  have isSorted : ambiguousArguments.IsSorted := by
    refine .object (by decide +kernel) ?_
    simp only [List.forall_mem_cons, List.not_mem_nil, false_implies, implies_true, and_true]
    refine ⟨.array ?_, .object (by simp) ?_⟩
    · simp [Json.IsSorted.integer]
    · simp [Json.IsSorted.string]
  have plain : (Command.run ⟨-1, 7⟩ ⟨"conteo \"a\""⟩ ambiguousArguments).IsPlain :=
    .run _ _ integral isSorted
  have plainNull : (Command.run ⟨-1, 7⟩ ⟨"conteo \"a\""⟩ .null).IsPlain := .run _ _ .null .null
  rcases wire_round_trip with ⟨-, -, -, -, -, -, arguments, command, orders⟩
  refine ⟨⟨integral, isSorted, by decide⟩, ?_, ?_, ?_, ?_⟩
  · exact arguments ambiguousArguments integral isSorted (by decide)
  · exact command _ plainNull (by decide)
  · exact command _ plain (by decide)
  · refine orders _ ?_ (by decide)
    simp [plain, plainNull, Command.IsPlain.cancel, Command.IsPlain.register]

end TaskAgent
