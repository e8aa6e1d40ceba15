import TaskAgent.Proofs.Json.Reading
import TaskAgent.Proofs.Ledger

/-!
# Values there and back

A printed value is read back as the same value with the members of its objects in order
(`value?_written`), as long as no more lists and objects stand inside each other than are allowed.
A value whose members are in order already comes back as it was (`parse?_render`).
-/

namespace TaskAgent.Json

mutual

/-- How many lists and objects stand inside each other. -/
def nesting : Json → Nat
  | array elements => elementsNesting elements + 1
  | object members => membersNesting members + 1
  | _ => 0

/-- The greatest nesting of the elements of a list. -/
def elementsNesting : List Json → Nat
  | [] => 0
  | element :: rest => max (nesting element) (elementsNesting rest)

/-- The greatest nesting of the values of an object. -/
def membersNesting : List (String × Json) → Nat
  | [] => 0
  | member :: rest => max (nesting member.2) (membersNesting rest)

end

theorem nesting_le_elementsNesting {element : Json} {elements : List Json}
    (member : element ∈ elements) : nesting element ≤ elementsNesting elements := by
  induction elements with
  | nil => cases member
  | cons head rest ih =>
      rw [elementsNesting]
      rcases List.mem_cons.mp member with rfl | inRest
      · exact Nat.le_max_left ..
      · exact Nat.le_trans (ih inRest) (Nat.le_max_right ..)

mutual

/-- A value with the members of all its objects in order; of two with one name the later one
stays. -/
def sorted : Json → Json
  | array elements => .array (sortedElements elements)
  | object members => .object (sortedMembers (sortedValues members))
  | value => value

/-- The elements of a list, each with its members in order. -/
def sortedElements : List Json → List Json
  | [] => []
  | element :: rest => sorted element :: sortedElements rest

/-- Members as they stand, each value with its own members in order. -/
def sortedValues : List (String × Json) → List (String × Json)
  | [] => []
  | member :: rest => (member.1, sorted member.2) :: sortedValues rest

end

/-- A value with the members of every object in order of their names, each name once. -/
inductive IsSorted : Json → Prop where
  | null : IsSorted .null
  | bool (value : Bool) : IsSorted (.bool value)
  | integer (value : Int) : IsSorted (.integer value)
  | real (value : Decimal.Floating) : IsSorted (.real value)
  | string (value : String) : IsSorted (.string value)
  | array {elements : List Json} (each : ∀ element ∈ elements, IsSorted element) :
      IsSorted (.array elements)
  | object {members : List (String × Json)}
      (ordered : members.Pairwise fun before after => compare before.1 after.1 = .lt)
      (each : ∀ member ∈ members, IsSorted member.2) : IsSorted (.object members)

theorem sortedMembers_eq_self {members : List (String × Json)}
    (ordered : members.Pairwise fun before after => compare before.1 after.1 = .lt) :
    sortedMembers members = members :=
  Ledger.foldl_place_eq_append ordered

theorem sortedElements_eq_self {elements : List Json}
    (each : ∀ element ∈ elements, sorted element = element) :
    sortedElements elements = elements := by
  induction elements with
  | nil => rfl
  | cons element rest ih =>
      rw [sortedElements, each element List.mem_cons_self,
        ih fun other inRest => each other (List.mem_cons_of_mem _ inRest)]

theorem sortedValues_eq_self {members : List (String × Json)}
    (each : ∀ member ∈ members, sorted member.2 = member.2) : sortedValues members = members := by
  induction members with
  | nil => rfl
  | cons member rest ih =>
      rw [sortedValues, each member List.mem_cons_self,
        ih fun other inRest => each other (List.mem_cons_of_mem _ inRest)]

theorem IsSorted.sorted_eq {value : Json} (isSorted : IsSorted value) : sorted value = value := by
  induction isSorted with
  | array _ ih => rw [sorted, sortedElements_eq_self ih]
  | object ordered _ ih => rw [sorted, sortedValues_eq_self ih, sortedMembers_eq_self ordered]
  | _ => rfl

theorem elements?_written {elements : List Json} {allowance : Nat}
    (each : ∀ element ∈ elements, ∀ allowance, nesting element ≤ allowance →
      (written element).value? allowance = some (sorted element))
    (fits : elementsNesting elements ≤ allowance) :
    Written.elements? allowance (writtenElements elements) = some (sortedElements elements) := by
  induction elements with
  | nil => rfl
  | cons element rest ih =>
      rw [elementsNesting, Nat.max_le] at fits
      rw [writtenElements, Written.elements?, each element List.mem_cons_self _ fits.1,
        ih (fun other inRest => each other (List.mem_cons_of_mem _ inRest)) fits.2, sortedElements]

theorem members?_written {members : List (String × Json)} {allowance : Nat}
    (each : ∀ member ∈ members, ∀ allowance, nesting member.2 ≤ allowance →
      (written member.2).value? allowance = some (sorted member.2))
    (fits : membersNesting members ≤ allowance) :
    Written.members? allowance (writtenMembers members) = some (sortedValues members) := by
  induction members with
  | nil => rfl
  | cons member rest ih =>
      rw [membersNesting, Nat.max_le] at fits
      rw [writtenMembers, Written.members?, each member List.mem_cons_self _ fits.1,
        ih (fun other inRest => each other (List.mem_cons_of_mem _ inRest)) fits.2, sortedValues]

/-- What is written of a value stands for the value with its members in order. -/
theorem value?_written {value : Json} (integral : IsIntegral value) {allowance : Nat}
    (fits : nesting value ≤ allowance) :
    (written value).value? allowance = some (sorted value) := by
  induction integral generalizing allowance with
  | integer least greatest =>
      simp [written, Written.value?, value?_integerNumeral least greatest, sorted]
  | array _ ih =>
      rw [nesting] at fits
      cases allowance with
      | zero => exact absurd fits (by omega)
      | succ inner =>
          have found := elements?_written (fun element member _ => ih element member)
            (Nat.le_of_succ_le_succ fits)
          rw [written, Written.value?, found, sorted]
          rfl
  | object _ ih =>
      rw [nesting] at fits
      cases allowance with
      | zero => exact absurd fits (by omega)
      | succ inner =>
          have found := members?_written (fun member inMembers _ => ih member inMembers)
            (Nat.le_of_succ_le_succ fits)
          rw [written, Written.value?, found, sorted]
          rfl
  | _ => rfl

/-- A value comes back from its printed text as it was. -/
theorem parse?_render {value : Json} (integral : IsIntegral value) (isSorted : IsSorted value)
    (fits : nesting value ≤ greatestNesting) : parse? (render value) = some value := by
  rw [parse?, render, String.toList_ofList, read?_printed integral]
  exact (value?_written integral fits).trans (congrArg some isSorted.sorted_eq)

end TaskAgent.Json
