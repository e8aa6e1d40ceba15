import TaskAgent.Master.Reply

/-!
# Replies that tell nothing

A reply to a heartbeat fails when it has a status that is neither a success nor the one for an
unknown agent, when it never came, or when its body does not give orders
(`Reply.IsFailure`). Orders are read all or not at all: one element of the list that is no command
spoils the whole body (`Reply.isFailure_of_ill_formed`).
-/

namespace TaskAgent

namespace Json.Written

variable {α : Type} {read : Nat → Written → Option α} {elements : List Written}
  {element : Written} {inner : Nat}

/-- A list with one element that cannot be read cannot be read. -/
theorem list?_eq_none_of_mem (member : element ∈ elements) (illFormed : read inner element = none) :
    list? read (inner + 1) (.array elements) = none := by
  rw [list?]
  induction elements with
  | nil => cases member
  | cons head rest ih =>
      rw [List.mapM_cons]
      rcases List.mem_cons.mp member with rfl | inRest
      · simp [illFormed]
      · simp [ih inRest]

theorem mem_of_named? {members : List (Option String × Written)}
    {found : List (String × Written)} {name : String} {written : Written}
    (named : named? members = some found) (member : (some name, written) ∈ members) :
    (name, written) ∈ found := by
  induction members generalizing found with
  | nil => cases member
  | cons head rest ih =>
      rw [named?, List.mapM_cons] at named
      simp only [Option.pure_def, Option.bind_eq_bind, Option.bind_eq_some_iff] at named
      rcases named with ⟨first, headNamed, others, restNamed, whole⟩
      cases whole
      rcases List.mem_cons.mp member with rfl | inRest
      · cases headNamed
        exact List.mem_cons_self
      · exact List.mem_cons_of_mem _ (ih restNamed inRest)

/-- A field that is written as a member is found, unless the record cannot be read at all. -/
theorem lookup_of_fields? {members : List (Option String × Written)} {declared : List String}
    {fields : List (String × Written)} {name : String} {written : Written}
    (read : fields? declared (.object members) = some fields) (known : name ∈ declared)
    (member : (some name, written) ∈ members) : fields.lookup name = some written := by
  rw [fields?] at read
  split at read
  · cases read
  · next found named =>
      simp only at read
      split at read
      · next distinct =>
          cases read
          have stands := mem_of_named? named member
          have listed : (name, written) ∈
              found.filter fun member => declared.contains member.1 :=
            List.mem_filter.mpr ⟨stands, by simpa using known⟩
          rw [List.lookup_eq_some_iff]
          rcases List.append_of_mem listed with ⟨before, after, split⟩
          refine ⟨before, after, split, ?_⟩
          intro other earlier
          rw [split, List.map_append, List.nodup_append] at distinct
          have differs := distinct.2.2 other.1 (List.mem_map_of_mem earlier) name
            (List.mem_map_of_mem List.mem_cons_self)
          simpa using differs.symm
      · cases read

end Json.Written

/-- A body that lists these commands, as a record or as the list of its only field. -/
inductive ListsCommands (elements : List Json.Written) : Json.Written → Prop where
  | object {members : List (Option String × Json.Written)}
      (member : (some "commands", Json.Written.array elements) ∈ members) :
      ListsCommands elements (.object members)
  | array : ListsCommands elements (.array [.array elements])

/-- Orders of which one is no command are no orders. -/
theorem Orders.read?_eq_none_of_ill_formed {elements : List Json.Written}
    {written element : Json.Written} {inner : Nat} (lists : ListsCommands elements written)
    (member : element ∈ elements) (illFormed : Command.read? inner element = none) :
    Orders.read? (inner + 2) written = none := by
  have unread := Json.Written.list?_eq_none_of_mem member illFormed
  rw [Orders.read?, Json.Written.record?]
  split
  · next fields read =>
      have listed : fields.lookup "commands" = some (.array elements) := by
        cases lists with
        | object stands =>
            exact Json.Written.lookup_of_fields? read List.mem_cons_self stands
        | array =>
            cases read
            rfl
      simp only [Json.Written.optional?, listed]
      rw [unread]
      rfl
  · rfl

namespace Reply

/-- The reply is no answer to a heartbeat. -/
def IsFailure : Reply → Prop
  | answered status body =>
    status ≠ 404 ∧ (isSuccess status = true → decode? Orders.read? body = none)
  | lost | unsendable => True

theorem orders_of_isFailure {reply : Reply} (failure : reply.IsFailure) :
    ∃ error, reply.orders = .error error := by
  cases reply with
  | answered status body =>
      rcases failure with ⟨known, unread⟩
      rw [orders, if_neg known]
      split
      · next success =>
          rw [unread success]
          exact ⟨_, rfl⟩
      · exact ⟨_, rfl⟩
  | lost => exact ⟨_, rfl⟩
  | unsendable => exact ⟨_, rfl⟩

theorem isFailure_of_ill_formed {status : Nat} {body : String} {elements : List Json.Written}
    {written element : Json.Written} (success : isSuccess status = true)
    (read : Json.read? body.toList = some written) (lists : ListsCommands elements written)
    (member : element ∈ elements)
    (illFormed : Command.read? (Json.greatestNesting - 2) element = none) :
    (answered status body).IsFailure := by
  refine ⟨?_, ?_⟩
  · rintro rfl
    cases success
  · intro _
    rw [decode?, read]
    exact Orders.read?_eq_none_of_ill_formed lists member illFormed

end Reply

end TaskAgent
