import Mathlib.Data.List.Nodup
import Mathlib.Data.List.Perm.Basic
import TaskAgent.Json.Record

/-!
# Members under their names

A record asks for its fields by their names (`AsksByName`), so it is read in the same way when the
members of its object stand in another order, or when there are more members whose names are not
declared; and it is not read at all when a declared name stands twice
(`goesByName_record?`).
-/

namespace TaskAgent.Json.Written

variable {α β : Type} {declared : List String}
  {members others extras : List (Option String × Written)} {fields : List (String × Written)}

/-- A reader of an object goes by the names of its members: it does not see their order, nor
members that fit in and whose names it does not look for, and it takes no object in which a name
that it looks for stands twice. -/
structure GoesByName (names : List (Option String × Written) → List String)
    (fits : Written → Prop) (read : Written → Option α) : Prop where
  unordered : ∀ {members others extras},
    (∀ extra ∈ extras, ∃ name value, extra = (some name, value) ∧ name ∉ names members ∧
      fits value) →
    others.Perm (members ++ extras) → read (.object others) = read (.object members)
  single : ∀ {members name}, name ∈ names members →
    2 ≤ (members.map Prod.fst).count (some name) → read (.object members) = none

/-- A reader asks for fields by their names only. -/
def AsksByName (read : List (String × Written) → Option α) : Prop :=
  ∀ fields others, (∀ name, others.lookup name = fields.lookup name) → read others = read fields

/-! ### Look-ups -/

theorem lookup_eq_some_iff_mem {pairs : List (String × β)} {name : String} {value : β}
    (distinct : (pairs.map Prod.fst).Nodup) :
    pairs.lookup name = some value ↔ (name, value) ∈ pairs := by
  rw [List.lookup_eq_some_iff]
  constructor
  · rintro ⟨before, after, rfl, -⟩
    simp
  · intro member
    rcases List.append_of_mem member with ⟨before, after, rfl⟩
    refine ⟨before, after, rfl, ?_⟩
    intro other earlier
    rw [List.map_append, List.nodup_append] at distinct
    have differs := distinct.2.2 other.1 (List.mem_map_of_mem earlier) name
      (List.mem_map_of_mem List.mem_cons_self)
    simpa using differs.symm

/-- Where every name stands once, the order does not matter. -/
theorem lookup_eq_of_perm {first second : List (String × β)} (same : first.Perm second)
    (distinct : (second.map Prod.fst).Nodup) (name : String) :
    first.lookup name = second.lookup name := by
  have distinctFirst := (same.map Prod.fst).nodup_iff.mpr distinct
  apply Option.ext
  intro value
  rw [lookup_eq_some_iff_mem distinctFirst, lookup_eq_some_iff_mem distinct, same.mem_iff]

/-! ### Names -/

/-- A member with its name as it is written. -/
def namedMember (field : String × Written) : Option String × Written := (some field.1, field.2)

theorem namedMember_injective : Function.Injective namedMember := by
  intro first second same
  cases first
  cases second
  cases same
  rfl

theorem named?_cons (member : Option String × Written) (rest : List (Option String × Written)) :
    named? (member :: rest) =
      match member.1, named? rest with
      | some name, some found => some ((name, member.2) :: found)
      | _, _ => none := by
  rcases member with ⟨name, value⟩
  cases name with
  | none => simp [named?]
  | some name => cases found : named? rest <;> simp_all [named?]

theorem named?_map (fields : List (String × Written)) :
    named? (fields.map namedMember) = some fields := by
  induction fields with
  | nil => rfl
  | cons field rest ih =>
      rw [List.map_cons, named?_cons, ih]
      rfl

/-- Members have names unless one of them has none. -/
theorem named?_cases (members : List (Option String × Written)) :
    (∃ fields : List (String × Written), members = fields.map namedMember) ∨
      named? members = none ∧ ∃ member ∈ members, member.1 = none := by
  induction members with
  | nil => exact Or.inl ⟨[], rfl⟩
  | cons member rest ih =>
      rw [named?_cons]
      rcases member with ⟨_ | name, value⟩
      · exact Or.inr ⟨rfl, (none, value), List.mem_cons_self, rfl⟩
      · rcases ih with ⟨fields, rfl⟩ | ⟨unnamed, nameless, member, isNone⟩
        · exact Or.inl ⟨(name, value) :: fields, rfl⟩
        · rw [unnamed]
          exact Or.inr ⟨rfl, nameless, List.mem_cons_of_mem _ member, isNone⟩

theorem named?_eq_none (nameless : ∃ member ∈ members, member.1 = none) :
    named? members = none := by
  rcases named?_cases members with ⟨fields, rfl⟩ | ⟨unnamed, -⟩
  · rcases nameless with ⟨member, inFields, isNone⟩
    rcases List.mem_map.mp inFields with ⟨field, -, rfl⟩
    cases isNone
  · exact unnamed

/-! ### Records -/

/-- The declared fields among the given ones. -/
def declaredFields (declared : List String) (fields : List (String × Written)) :
    List (String × Written) :=
  fields.filter fun field => declared.contains field.1

theorem fields?_map (fields : List (String × Written)) :
    fields? declared (.object (fields.map namedMember)) =
      if ((declaredFields declared fields).map Prod.fst).Nodup then
        some (declaredFields declared fields)
      else none := by
  simp only [fields?, named?_map, declaredFields]
  rfl

theorem declaredFields_eq_nil {fields : List (String × Written)}
    (unknown : ∀ field ∈ fields, field.1 ∉ declared) : declaredFields declared fields = [] := by
  refine List.filter_eq_nil_iff.mpr ?_
  intro field member
  simpa using unknown field member

/-- The fields of a record are there in the same way whatever the order of the members is and
whichever members of other names stand between them. -/
theorem fields?_of_perm
    (unknown : ∀ extra ∈ extras, ∃ name value, extra = (some name, value) ∧ name ∉ declared)
    (same : others.Perm (members ++ extras)) :
    (fields? declared (.object members) = none ∧ fields? declared (.object others) = none) ∨
    ∃ fields found, fields? declared (.object members) = some fields ∧
      fields? declared (.object others) = some found ∧
      ∀ name, found.lookup name = fields.lookup name := by
  rcases named?_cases members with ⟨fields, rfl⟩ | ⟨unnamed, nameless, member, isNone⟩
  · rcases named?_cases extras with ⟨more, rfl⟩ | ⟨-, nameless, member, isNone⟩
    · rw [← List.map_append] at same
      rcases named?_cases others with ⟨found, rfl⟩ | ⟨-, nameless, member, isNone⟩
      · have same := (List.map_perm_map_iff namedMember_injective).mp same
        have fresh : declaredFields declared more = [] := by
          apply declaredFields_eq_nil
          intro field inMore
          rcases unknown _ (List.mem_map_of_mem inMore) with ⟨name, value, shape, undeclared⟩
          cases shape
          exact undeclared
        have kept : (declaredFields declared found).Perm (declaredFields declared fields) := by
          have filtered := same.filter fun field => declared.contains field.1
          rw [List.filter_append] at filtered
          change (declaredFields declared found).Perm
            (declaredFields declared fields ++ declaredFields declared more) at filtered
          rwa [fresh, List.append_nil] at filtered
        rw [fields?_map, fields?_map]
        by_cases distinct : ((declaredFields declared fields).map Prod.fst).Nodup
        · have distinctFound := (kept.map Prod.fst).nodup_iff.mpr distinct
          rw [if_pos distinct, if_pos distinctFound]
          exact Or.inr ⟨_, _, rfl, rfl, lookup_eq_of_perm kept distinct⟩
        · have repeated := mt (kept.map Prod.fst).nodup_iff.mp distinct
          rw [if_neg distinct, if_neg repeated]
          exact Or.inl ⟨rfl, rfl⟩
      · rcases List.mem_map.mp (same.mem_iff.mp member) with ⟨field, -, rfl⟩
        cases isNone
    · rcases unknown nameless member with ⟨name, value, rfl, -⟩
      cases isNone
  · have inOthers := same.mem_iff.mpr (List.mem_append_left _ member)
    have unnamedOthers := named?_eq_none ⟨nameless, inOthers, isNone⟩
    left
    simp only [fields?, unnamed, unnamedOthers, and_self]

theorem count_declaredFields {name : String} (known : name ∈ declared)
    (fields : List (String × Written)) :
    ((declaredFields declared fields).map Prod.fst).count name =
      ((fields.map namedMember).map Prod.fst).count (some name) := by
  simp only [declaredFields, List.count, List.countP_map, List.countP_filter]
  apply List.countP_congr
  intro field _
  simp only [Function.comp_apply, namedMember, Bool.and_eq_true, beq_iff_eq, Option.some.injEq,
    List.contains_iff_mem]
  constructor
  · intro both
    exact both.1
  · rintro rfl
    exact ⟨rfl, known⟩

/-- A record in which a declared name stands twice has no fields. -/
theorem fields?_of_repeated {name : String} (known : name ∈ declared)
    (twice : 2 ≤ (members.map Prod.fst).count (some name)) :
    fields? declared (.object members) = none := by
  rcases named?_cases members with ⟨fields, rfl⟩ | ⟨unnamed, -⟩
  · rw [← count_declaredFields known] at twice
    rw [fields?_map, if_neg]
    intro distinct
    have once := List.nodup_iff_count_le_one.mp distinct name
    omega
  · simp only [fields?, unnamed]

/-- A record goes by the names of its members. -/
theorem goesByName_record? {read : Nat → List (String × Written) → Option α}
    (asks : ∀ inner, AsksByName (read inner)) (allowance : Nat) (fits : Written → Prop) :
    GoesByName (fun _ => declared) fits (record? declared read allowance) := by
  refine ⟨?_, ?_⟩
  · intro members others extras unknown same
    have undeclared : ∀ extra ∈ extras, ∃ name value, extra = (some name, value) ∧
        name ∉ declared := by
      intro extra member
      rcases unknown extra member with ⟨name, value, shape, fresh, -⟩
      exact ⟨name, value, shape, fresh⟩
    cases allowance with
    | zero => rfl
    | succ inner =>
        rcases fields?_of_perm undeclared same with
          ⟨unread, unreadOthers⟩ | ⟨fields, found, readFields, readFound, lookups⟩
        · simp only [record?, unread, unreadOthers]
        · simp only [record?, readFields, readFound]
          exact asks inner fields found lookups
  · intro members name known twice
    cases allowance with
    | zero => rfl
    | succ inner => simp only [record?, fields?_of_repeated known twice]

end TaskAgent.Json.Written
