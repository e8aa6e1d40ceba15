import TaskAgent.Proofs.Json.ByName
import TaskAgent.Proofs.Json.ObjectText
import TaskAgent.Proofs.Message.RoundTrip

/-!
# Messages by the names of their members

Every message without floating values is read by the names of its members (`GoesByName`). The tag of
a command comes first only in what is asked: the tag tells which names are declared
(`Command.names`), and the fields of every other command are as unknown as any. With the texts of
objects this makes a law of texts (`decoding_goes_by_name`): pieces may be put in another order, and
pieces with other names may be put between them.
-/

namespace TaskAgent

open Json.Written

/-! ### Records -/

theorem TaskKey.goesByName (allowance : Nat) (fits : Json.Written → Prop) :
    GoesByName (fun _ => ["job_id", "task_id"]) fits (TaskKey.read? allowance) := by
  apply goesByName_record?
  intro inner fields others same
  simp only [required?, same]

theorem TaskRecord.goesByName (allowance : Nat) (fits : Json.Written → Prop) :
    GoesByName
      (fun _ => ["job_id", "task_id", "status", "result", "error_message", "worker_address"])
      fits (TaskRecord.read? allowance) := by
  apply goesByName_record?
  intro inner fields others same
  simp only [required?, optional?, same]

theorem JobConfig.goesByName (allowance : Nat) (fits : Json.Written → Prop) :
    GoesByName (fun _ => ["name"]) fits (JobConfig.read? allowance) := by
  apply goesByName_record?
  intro inner fields others same
  simp only [required?, same]

theorem Address.goesByName (allowance : Nat) (fits : Json.Written → Prop) :
    GoesByName (fun _ => ["host", "rpc_port", "data_port"]) fits (Address.read? allowance) := by
  apply goesByName_record?
  intro inner fields others same
  simp only [required?, same]

theorem Registration.goesByName (allowance : Nat) (fits : Json.Written → Prop) :
    GoesByName (fun _ => ["address", "pool_size"]) fits (Registration.read? allowance) := by
  apply goesByName_record?
  intro inner fields others same
  simp only [required?, same]

theorem Registered.goesByName (allowance : Nat) (fits : Json.Written → Prop) :
    GoesByName (fun _ => ["worker_id"]) fits (Registered.read? allowance) := by
  apply goesByName_record?
  intro inner fields others same
  simp only [required?, same]

theorem Orders.goesByName (allowance : Nat) (fits : Json.Written → Prop) :
    GoesByName (fun _ => ["commands"]) fits (Orders.read? allowance) := by
  apply goesByName_record?
  intro inner fields others same
  simp only [optional?, same]

/-! ### Commands -/

namespace Command

/-- The names of the fields of a command of the given kind. -/
def fieldNames (kind : String) : List String :=
  if kind = "RUN_TASK" then ["job_id", "task_id", "job_config", "task_args"]
  else if kind = "CANCEL_TASK" then ["job_id", "task_id"]
  else []

theorem goesByName_ofKind? (kind : String) (allowance : Nat) (fits : Json.Written → Prop) :
    GoesByName (fun _ => fieldNames kind) fits (ofKind? kind allowance) := by
  unfold ofKind? fieldNames
  split
  · apply goesByName_record?
    intro inner fields others same
    simp only [required?, optional?, same]
  · split
    · apply goesByName_record?
      intro inner fields others same
      simp only [required?, same]
    · split
      · apply goesByName_record?
        intro inner fields others same
        rfl
      · exact ⟨fun _ _ => rfl, fun _ _ => rfl⟩

/-- The kind of a command, if its tag stands once among the members. -/
def kind? (members : List (Option String × Json.Written)) : Option String :=
  match members.filter fun member => member.1 == some "type" with
  | [tag] => tag.2.text?
  | _ => none

/-- The names that a reader of commands looks for: the tag, and the fields of the kind of command
that it stands for. -/
def names (members : List (Option String × Json.Written)) : List String :=
  "type" :: ((kind? members).map fieldNames).getD []

/-- The value is within the limits of a member of a command. -/
def Fits (allowance : Nat) (value : Json.Written) : Prop :=
  ∃ free, value.value? (allowance - 1) = some free

variable {members others extras : List (Option String × Json.Written)} {allowance : Nat}

theorem read?_object (members : List (Option String × Json.Written)) (allowance : Nat) :
    read? allowance (.object members) =
      match (Json.Written.object members).value? allowance, kind? members with
      | some _, some kind => ofKind? kind allowance (.object members)
      | _, _ => none := by
  simp only [read?, tagged?, kind?]
  generalize (members.filter fun member => member.1 == some "type") = tags
  cases (Json.Written.object members).value? allowance with
  | none => rfl
  | some whole =>
      rcases tags with _ | ⟨⟨name, tag⟩, _ | ⟨second, more⟩⟩
      · rfl
      · cases tag with
        | string text => cases text <;> rfl
        | _ => rfl
      · rfl

theorem kind?_of_perm
    (unknown : ∀ extra ∈ extras, ∃ name value, extra = (some name, value) ∧ name ≠ "type")
    (same : others.Perm (members ++ extras)) : kind? others = kind? members := by
  have fresh : (extras.filter fun member => member.1 == some "type") = [] := by
    refine List.filter_eq_nil_iff.mpr ?_
    intro extra member
    rcases unknown extra member with ⟨name, value, rfl, differs⟩
    simpa using differs
  have tags := same.filter fun member => member.1 == some "type"
  rw [List.filter_append, fresh, List.append_nil] at tags
  simp only [kind?]
  generalize (others.filter fun member => member.1 == some "type") = first at tags ⊢
  generalize (members.filter fun member => member.1 == some "type") = second at tags ⊢
  have lengths := tags.length_eq
  rcases first with _ | ⟨tag, _ | ⟨another, more⟩⟩
  · rw [List.nil_perm.mp tags]
  · rw [List.singleton_perm.mp tags]
  · rcases second with _ | ⟨tag, _ | ⟨another, more⟩⟩
    · cases lengths
    · cases lengths
    · rfl

theorem kind?_of_repeated (twice : 2 ≤ (members.map Prod.fst).count (some "type")) :
    kind? members = none := by
  have several : 2 ≤ (members.filter fun member => member.1 == some "type").length := by
    rw [List.count, List.countP_map, List.countP_eq_length_filter] at twice
    exact twice
  unfold kind?
  split
  · next alone =>
      rw [alone] at several
      simp at several
  · rfl

theorem value?_object_ne_none_iff {inner : Nat} :
    (Json.Written.object members).value? (inner + 1) ≠ none ↔
      ∀ member ∈ members, member.1 ≠ none ∧ member.2.value? inner ≠ none := by
  have each : members? inner members ≠ none ↔
      ∀ member ∈ members, member.1 ≠ none ∧ member.2.value? inner ≠ none := by
    induction members with
    | nil => simp [members?]
    | cons member rest ih =>
        rw [List.forall_mem_cons, ← ih, members?]
        rcases member with ⟨_ | name, value⟩
        · simp
        · cases value.value? inner <;> cases members? inner rest <;> simp
  rw [← each, value?]
  simp

/-- More members within the limits do not make a command exceed them. -/
theorem value?_object_of_perm (fits : ∀ extra ∈ extras, ∃ name value,
      extra = (some name, value) ∧ Fits allowance value)
    (same : others.Perm (members ++ extras)) :
    (Json.Written.object others).value? allowance ≠ none ↔
      (Json.Written.object members).value? allowance ≠ none := by
  cases allowance with
  | zero => simp [value?]
  | succ inner =>
      rw [value?_object_ne_none_iff, value?_object_ne_none_iff]
      constructor
      · intro each member inMembers
        exact each member (same.mem_iff.mpr (List.mem_append_left _ inMembers))
      · intro each member inOthers
        rcases List.mem_append.mp (same.mem_iff.mp inOthers) with inMembers | inExtras
        · exact each member inMembers
        · rcases fits member inExtras with ⟨name, value, rfl, free, within⟩
          have within : value.value? inner = some free := within
          exact ⟨by simp, by simp [within]⟩

/-- A command goes by the names of its members, wherever its tag stands. -/
theorem goesByName (allowance : Nat) : GoesByName names (Fits allowance) (read? allowance) := by
  refine ⟨?_, ?_⟩
  · intro members others extras unknown same
    have kinds : kind? others = kind? members := by
      apply kind?_of_perm _ same
      intro extra member
      rcases unknown extra member with ⟨name, value, shape, fresh, -⟩
      exact ⟨name, value, shape, fun isTag => fresh (isTag ▸ List.mem_cons_self)⟩
    have limits : (Json.Written.object others).value? allowance ≠ none ↔
        (Json.Written.object members).value? allowance ≠ none := by
      apply value?_object_of_perm _ same
      intro extra member
      rcases unknown extra member with ⟨name, value, shape, -, fits⟩
      exact ⟨name, value, shape, fits⟩
    rw [read?_object, read?_object, kinds]
    cases tagged : kind? members with
    | none => simp
    | some kind =>
        have body : ofKind? kind allowance (.object others) =
            ofKind? kind allowance (.object members) := by
          apply (goesByName_ofKind? kind allowance (Fits allowance)).unordered _ same
          intro extra member
          rcases unknown extra member with ⟨name, value, shape, fresh, fits⟩
          refine ⟨name, value, shape, ?_, fits⟩
          intro declared
          apply fresh
          simp only [names, tagged, Option.map_some, Option.getD_some]
          exact List.mem_cons_of_mem _ declared
        cases found : (Json.Written.object members).value? allowance with
        | none =>
            have exceeds : (Json.Written.object others).value? allowance = none := by
              simpa [found] using limits
            simp only [exceeds]
        | some free =>
            have within := limits.mpr (by simp [found])
            rcases Option.ne_none_iff_exists'.mp within with ⟨other, foundOthers⟩
            simp only [foundOthers]
            exact body
  · intro members name known twice
    rw [read?_object]
    rcases List.mem_cons.mp known with rfl | declared
    · rw [kind?_of_repeated twice]
      simp
    · cases tagged : kind? members with
      | none => simp
      | some kind =>
          rw [tagged, Option.map_some, Option.getD_some] at declared
          have unread : ofKind? kind allowance (.object members) = none :=
            (goesByName_ofKind? kind allowance (Fits allowance)).single declared twice
          cases (Json.Written.object members).value? allowance with
          | none => rfl
          | some free => exact unread

end Command

/-! ### Texts -/

/-- What a text is decoded as goes by the names of its members: neither their order nor the blanks
around them matter, nor members that fit in and whose names the reader does not look for, and a
text in which a name that it looks for stands twice is refused. -/
structure DecodesByName {α : Type} (names : List (Option String × Json.Written) → List String)
    (fits : Json.Written → Prop) (read : Nat → Json.Written → Option α) : Prop where
  unordered : ∀ (frame other : Json.Frame) (pieces others extras : List (List Char)) members,
    List.Forall₂ Json.IsMember pieces members →
    (∀ extra ∈ extras, ∃ name value, Json.IsMember extra (some name, value) ∧
      name ∉ names members ∧ fits value) →
    others.Perm (pieces ++ extras) →
    Reply.decode? read (String.ofList (other.text others)) =
      Reply.decode? read (String.ofList (frame.text pieces))
  single : ∀ (frame : Json.Frame) (pieces : List (List Char)) members name,
    List.Forall₂ Json.IsMember pieces members → name ∈ names members →
    2 ≤ (members.map Prod.fst).count (some name) →
    Reply.decode? read (String.ofList (frame.text pieces)) = none

theorem exists_forall₂_of_forall {α β : Type} {related : α → β → Prop} {holds : β → Prop}
    {firsts : List α} (each : ∀ first ∈ firsts, ∃ second, related first second ∧ holds second) :
    ∃ seconds, List.Forall₂ related firsts seconds ∧ ∀ second ∈ seconds, holds second := by
  induction firsts with
  | nil => exact ⟨[], .nil, by simp⟩
  | cons first rest ih =>
      rcases List.forall_mem_cons.mp each with ⟨⟨second, relates, isHeld⟩, later⟩
      rcases ih later with ⟨seconds, relate, areHeld⟩
      exact ⟨second :: seconds, .cons relates relate, List.forall_mem_cons.mpr ⟨isHeld, areHeld⟩⟩

theorem decode?_text {α : Type} (read : Nat → Json.Written → Option α) (frame : Json.Frame)
    {pieces : List (List Char)} {members : List (Option String × Json.Written)}
    (each : List.Forall₂ Json.IsMember pieces members) :
    Reply.decode? read (String.ofList (frame.text pieces)) =
      read Json.greatestNesting (.object members) := by
  rw [Reply.decode?, String.toList_ofList, Json.read?_text frame each, Option.bind_some]

theorem decodesByName {α : Type} {names : List (Option String × Json.Written) → List String}
    {fits : Json.Written → Prop} {read : Nat → Json.Written → Option α}
    (goes : GoesByName names fits (read Json.greatestNesting)) :
    DecodesByName names fits read := by
  refine ⟨?_, ?_⟩
  · intro frame other pieces others extras members each unknown same
    have more : ∀ extra ∈ extras, ∃ member, Json.IsMember extra member ∧
        ∃ name value, member = (some name, value) ∧ name ∉ names members ∧ fits value := by
      intro extra member
      rcases unknown extra member with ⟨name, value, isMember, fresh, fitting⟩
      exact ⟨(some name, value), isMember, name, value, rfl, fresh, fitting⟩
    rcases exists_forall₂_of_forall more with ⟨extraMembers, eachExtra, unknownMembers⟩
    have all := List.rel_append each eachExtra
    rcases List.perm_comp_forall₂ same all with ⟨otherMembers, eachOther, sameMembers⟩
    rw [decode?_text read other eachOther, decode?_text read frame each]
    exact goes.unordered unknownMembers sameMembers
  · intro frame pieces members name each known twice
    rw [decode?_text read frame each]
    exact goes.single known twice

/-- Every text of an object is made of pieces, one for each member. A message without floating
values and a command are decoded by the names of the members: pieces in another order, and more
pieces of other names, make no difference, and pieces with the same declared name are refused. A
command looks for the tag and for the fields of the kind that the tag stands for, and takes no
more members than are within the limits of free values. -/
theorem decoding_goes_by_name :
    (∀ text members, Json.read? text = some (.object members) →
      ∃ (frame : Json.Frame) (pieces : List (List Char)), text = frame.text pieces ∧
        List.Forall₂ Json.IsMember pieces members) ∧
    (DecodesByName (fun _ => ["job_id", "task_id"]) (fun _ => True) TaskKey.read? ∧
      DecodesByName
        (fun _ => ["job_id", "task_id", "status", "result", "error_message", "worker_address"])
        (fun _ => True) TaskRecord.read? ∧
      DecodesByName (fun _ => ["name"]) (fun _ => True) JobConfig.read? ∧
      DecodesByName (fun _ => ["host", "rpc_port", "data_port"]) (fun _ => True) Address.read? ∧
      DecodesByName (fun _ => ["address", "pool_size"]) (fun _ => True) Registration.read? ∧
      DecodesByName (fun _ => ["worker_id"]) (fun _ => True) Registered.read? ∧
      DecodesByName (fun _ => ["commands"]) (fun _ => True) Orders.read?) ∧
    DecodesByName Command.names (Command.Fits Json.greatestNesting) Command.read? := by
  refine ⟨?_, ⟨?_, ?_, ?_, ?_, ?_, ?_, ?_⟩, ?_⟩
  · intro text members read
    exact Json.exists_eq_text read
  · exact decodesByName (TaskKey.goesByName _ _)
  · exact decodesByName (TaskRecord.goesByName _ _)
  · exact decodesByName (JobConfig.goesByName _ _)
  · exact decodesByName (Address.goesByName _ _)
  · exact decodesByName (Registration.goesByName _ _)
  · exact decodesByName (Registered.goesByName _ _)
  · exact decodesByName (Orders.goesByName _ _)
  · exact decodesByName (Command.goesByName _)

/-- The members of an order to call a task off. -/
def callingOff : List (String × Json) :=
  [("type", .string "CANCEL_TASK"), ("job_id", .integer 1), ("task_id", .integer 2)]

/-- The arguments that only an order to run a task has. -/
def strayArguments : String × Json := ("task_args", .array [.integer 1])

/-- An order with its members backwards and with arguments in front is still the same order, and an
order with two tags is none. -/
theorem decoding_goes_by_name_callingOff :
    Reply.decode? Command.read? (String.ofList (Json.Frame.bare.text
      ((strayArguments :: callingOff.reverse).map Json.printedMember))) =
        some (.cancel ⟨1, 2⟩) ∧
    Reply.decode? Command.read? (String.ofList (Json.Frame.bare.text
      ((("type", .string "REGISTER") :: callingOff).map Json.printedMember))) = none := by
  rcases decoding_goes_by_name with ⟨-, -, commands⟩
  have each : ∀ members : List (String × Json), (∀ member ∈ members, member.2.IsIntegral) →
      List.Forall₂ Json.IsMember (members.map Json.printedMember)
        (members.map fun member => (some member.1, Json.written member.2)) := by
    intro members integral
    rw [List.forall₂_map_left_iff, List.forall₂_map_right_iff, List.forall₂_same]
    intro member inMembers
    exact Json.isMember_printedMember (integral member inMembers)
  have integral : ∀ member ∈ callingOff, member.2.IsIntegral := by
    simp [callingOff, Json.IsIntegral.integer]
  have integralStray : strayArguments.2.IsIntegral := by
    simp [strayArguments, Json.IsIntegral.integer]
  refine ⟨?_, ?_⟩
  · have same : ((strayArguments :: callingOff.reverse).map Json.printedMember).Perm
        (callingOff.map Json.printedMember ++ [Json.printedMember strayArguments]) := by
      rw [List.map_cons, List.map_reverse]
      exact ((List.reverse_perm _).cons _).trans (List.perm_append_singleton _ _).symm
    rw [commands.unordered .bare .bare _ _ _ _ (each callingOff integral) ?_ same,
      decode?_text _ _ (each callingOff integral)]
    · exact Command.read?_written (.cancel ⟨1, 2⟩) (by decide)
    · intro extra member
      rw [List.mem_singleton.mp member]
      have fits : Command.Fits Json.greatestNesting (Json.written strayArguments.2) :=
        ⟨_, Json.value?_written integralStray (by decide)⟩
      exact ⟨"task_args", _, Json.isMember_printedMember integralStray, by decide, fits⟩
  · apply commands.single .bare _ _ "type" (each _ ?_) List.mem_cons_self (by decide)
    rw [List.forall_mem_cons]
    exact ⟨.string "REGISTER", integral⟩

end TaskAgent
