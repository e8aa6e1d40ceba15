import TaskAgent.Proofs.Json.RoundTrip

/-!
# Values that were read

A value that was read off a text has the members of its objects in order and no more nesting than
the reader was allowed (`Written.isWithin_of_value?`), so if its numbers are integers it comes back
from what it is written as (`IsWithin.value?_written`). A reader that is allowed more reads the same
(`Written.value?_mono`).
-/

namespace TaskAgent.Json

theorem elementsNesting_le {elements : List Json} {bound : Nat}
    (each : ∀ element ∈ elements, nesting element ≤ bound) : elementsNesting elements ≤ bound := by
  induction elements with
  | nil => exact Nat.zero_le _
  | cons element rest ih =>
      rw [elementsNesting, Nat.max_le]
      exact ⟨each element List.mem_cons_self,
        ih fun other inRest => each other (List.mem_cons_of_mem _ inRest)⟩

theorem membersNesting_le {members : List (String × Json)} {bound : Nat}
    (each : ∀ member ∈ members, nesting member.2 ≤ bound) : membersNesting members ≤ bound := by
  induction members with
  | nil => exact Nat.zero_le _
  | cons member rest ih =>
      rw [membersNesting, Nat.max_le]
      exact ⟨each member List.mem_cons_self,
        ih fun other inRest => each other (List.mem_cons_of_mem _ inRest)⟩

theorem ordered_foldl_place {placed : List (String × Json)}
    (ordered : placed.Pairwise fun before after => compare before.1 after.1 = .lt)
    (members : List (String × Json)) :
    (members.foldl (fun sorted member => Ledger.place member.1 member.2 sorted) placed).Pairwise
      fun before after => compare before.1 after.1 = .lt := by
  induction members generalizing placed with
  | nil => exact ordered
  | cons member rest ih => exact ih (Ledger.place_ordered member.1 member.2 ordered)

theorem mem_foldl_place {placed members : List (String × Json)} {member : String × Json}
    (inSorted : member ∈
      members.foldl (fun sorted member => Ledger.place member.1 member.2 sorted) placed) :
    member ∈ placed ∨ member ∈ members := by
  induction members generalizing placed with
  | nil => exact Or.inl inSorted
  | cons head rest ih =>
      rcases ih inSorted with inPlaced | inRest
      · rcases Ledger.mem_place inPlaced with same | old
        · exact Or.inr (List.mem_cons.mpr (Or.inl same))
        · exact Or.inl old
      · exact Or.inr (List.mem_cons_of_mem _ inRest)

/-- Sorting leaves out members and adds none. -/
theorem mem_of_mem_sortedMembers {members : List (String × Json)} {member : String × Json}
    (inSorted : member ∈ sortedMembers members) : member ∈ members := by
  rcases mem_foldl_place inSorted with none | inMembers
  · cases none
  · exact inMembers

/-- The value has its members in order, and no more lists and objects stand inside each other than
are allowed. -/
def IsWithin (allowance : Nat) (value : Json) : Prop :=
  value.IsSorted ∧ nesting value ≤ allowance

theorem IsWithin.array {elements : List Json} {inner : Nat}
    (each : ∀ element ∈ elements, IsWithin inner element) :
    IsWithin (inner + 1) (.array elements) := by
  refine ⟨.array fun element member => (each element member).1, ?_⟩
  rw [nesting]
  exact Nat.succ_le_succ (elementsNesting_le fun element member => (each element member).2)

theorem IsWithin.object {members : List (String × Json)} {inner : Nat}
    (each : ∀ member ∈ members, IsWithin inner member.2) :
    IsWithin (inner + 1) (.object (sortedMembers members)) := by
  have sortedEach : ∀ member ∈ sortedMembers members, IsWithin inner member.2 :=
    fun member inSorted => each member (mem_of_mem_sortedMembers inSorted)
  refine ⟨.object (ordered_foldl_place .nil members) fun member inSorted =>
    (sortedEach member inSorted).1, ?_⟩
  rw [nesting]
  exact Nat.succ_le_succ (membersNesting_le fun member inSorted => (sortedEach member inSorted).2)

namespace Written

mutual

theorem isWithin_of_value? {allowance : Nat} {value : Json} :
    ∀ {written : Written}, written.value? allowance = some value → IsWithin allowance value
  | .null, read => by
      cases read
      exact ⟨.null, Nat.zero_le _⟩
  | .bool truth, read => by
      cases read
      exact ⟨.bool truth, Nat.zero_le _⟩
  | .number numeral, read => by
      rw [value?] at read
      split at read
      · cases read
      · cases read
        exact ⟨.integer _, Nat.zero_le _⟩
      · cases read
        exact ⟨.real _, Nat.zero_le _⟩
  | .string none, read => by cases read
  | .string (some text), read => by
      cases read
      exact ⟨.string text, Nat.zero_le _⟩
  | .array elements, read => by
      cases allowance with
      | zero => cases read
      | succ inner =>
          rcases Option.map_eq_some_iff.mp read with ⟨values, found, rfl⟩
          exact .array (isWithin_of_elements? found)
  | .object members, read => by
      cases allowance with
      | zero => cases read
      | succ inner =>
          rcases Option.map_eq_some_iff.mp read with ⟨found, foundMembers, rfl⟩
          exact .object (isWithin_of_members? foundMembers)

theorem isWithin_of_elements? {allowance : Nat} {values : List Json} :
    ∀ {elements : List Written}, elements? allowance elements = some values →
      ∀ value ∈ values, IsWithin allowance value
  | [], read => by
      cases read
      exact fun value member => nomatch member
  | element :: rest, read => by
      rw [elements?] at read
      split at read
      · next value others readFirst readRest =>
          cases read
          exact List.forall_mem_cons.mpr
            ⟨isWithin_of_value? readFirst, isWithin_of_elements? readRest⟩
      · cases read

theorem isWithin_of_members? {allowance : Nat} {found : List (String × Json)} :
    ∀ {members : List (Option String × Written)}, members? allowance members = some found →
      ∀ member ∈ found, IsWithin allowance member.2
  | [], read => by
      cases read
      exact fun member inFound => nomatch inFound
  | (name, written) :: rest, read => by
      rw [members?] at read
      split at read
      · next named value others name readFirst readRest =>
          cases read
          exact List.forall_mem_cons.mpr
            ⟨isWithin_of_value? readFirst, isWithin_of_members? readRest⟩
      · cases read

end

mutual

/-- A reader that is allowed more reads the same. -/
theorem value?_mono {allowance more : Nat} {value : Json} (le : allowance ≤ more) :
    ∀ {written : Written}, written.value? allowance = some value → written.value? more = some value
  | .null, read => read
  | .bool truth, read => read
  | .number numeral, read => read
  | .string none, read => read
  | .string (some text), read => read
  | .array elements, read => by
      cases allowance with
      | zero => cases read
      | succ inner =>
          rcases Option.map_eq_some_iff.mp read with ⟨values, found, rfl⟩
          rcases Nat.exists_eq_add_of_le' (Nat.le_trans (Nat.succ_pos inner) le) with ⟨further, rfl⟩
          rw [value?, elements?_mono (Nat.le_of_succ_le_succ le) found]
          rfl
  | .object members, read => by
      cases allowance with
      | zero => cases read
      | succ inner =>
          rcases Option.map_eq_some_iff.mp read with ⟨found, foundMembers, rfl⟩
          rcases Nat.exists_eq_add_of_le' (Nat.le_trans (Nat.succ_pos inner) le) with ⟨further, rfl⟩
          rw [value?, members?_mono (Nat.le_of_succ_le_succ le) foundMembers]
          rfl

theorem elements?_mono {allowance more : Nat} {values : List Json} (le : allowance ≤ more) :
    ∀ {elements : List Written}, elements? allowance elements = some values →
      elements? more elements = some values
  | [], read => read
  | element :: rest, read => by
      rw [elements?] at read
      split at read
      · next value others readFirst readRest =>
          cases read
          rw [elements?, value?_mono le readFirst, elements?_mono le readRest]
      · cases read

theorem members?_mono {allowance more : Nat} {found : List (String × Json)}
    (le : allowance ≤ more) : ∀ {members : List (Option String × Written)},
      members? allowance members = some found → members? more members = some found
  | [], read => read
  | (name, written) :: rest, read => by
      rw [members?] at read
      split at read
      · next named value others same readFirst readRest =>
          cases read
          rw [members?, same, value?_mono le readFirst, members?_mono le readRest]
      · cases read

end

end Written

/-- What stands for a value that was read is read as the value again. -/
theorem IsWithin.value?_written {value : Json} {allowance : Nat} (within : IsWithin allowance value)
    (integral : IsIntegral value) : (written value).value? allowance = some value :=
  (Json.value?_written integral within.2).trans (congrArg some within.1.sorted_eq)

end TaskAgent.Json
