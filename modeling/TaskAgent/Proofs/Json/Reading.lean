import TaskAgent.Proofs.Json.Integer
import TaskAgent.Proofs.Json.Text

/-!
# Printed values

A printed value is taken apart into its parts as they stand (`read?_printed`). The values are
those whose numbers are integers of 64 bits, with or without a sign (`IsIntegral`): of other
numbers the printed digits are an approximation.

The fuel of the readers is measured against the length of the printed text. Every reader hands on
one less and has taken at least one character for it.
-/

namespace TaskAgent.Json

open Decimal

/-- A value all of whose numbers are integers of 64 bits, with or without a sign. -/
inductive IsIntegral : Json → Prop where
  | null : IsIntegral .null
  | bool (value : Bool) : IsIntegral (.bool value)
  | integer {value : Int} (least : -2 ^ 63 ≤ value) (greatest : value < 2 ^ 64) :
      IsIntegral (.integer value)
  | string (value : String) : IsIntegral (.string value)
  | array {elements : List Json} (each : ∀ element ∈ elements, IsIntegral element) :
      IsIntegral (.array elements)
  | object {members : List (String × Json)} (each : ∀ member ∈ members, IsIntegral member.2) :
      IsIntegral (.object members)

namespace IsIntegral

attribute [simp] null bool string

@[simp] theorem array_iff {elements : List Json} :
    IsIntegral (.array elements) ↔ ∀ element ∈ elements, IsIntegral element := by
  constructor
  · rintro ⟨⟩
    assumption
  · exact array

@[simp] theorem object_iff {members : List (String × Json)} :
    IsIntegral (.object members) ↔ ∀ member ∈ members, IsIntegral member.2 := by
  constructor
  · rintro ⟨⟩
    assumption
  · exact object

@[simp] theorem int64 (value : Int64) : IsIntegral (.integer value.toInt) := by
  have least := value.le_toInt
  have greatest := value.toInt_lt
  exact integer (by omega) (by omega)

@[simp] theorem uint16 (value : UInt16) : IsIntegral (.ofNat value.toNat) := by
  have small := value.toNat_lt
  exact integer (by omega) (by omega)

@[simp] theorem uint32 (value : UInt32) : IsIntegral (.ofNat value.toNat) := by
  have small := value.toNat_lt
  exact integer (by omega) (by omega)

end IsIntegral

mutual

/-- The parts of the printed text of a value. A real has those that its digits are read as. -/
def written : Json → Written
  | null => .null
  | bool value => .bool value
  | integer value => .number (integerNumeral value)
  | real value => (read? (printed (.real value))).getD .null
  | string value => .string (some value)
  | array elements => .array (writtenElements elements)
  | object members => .object (writtenMembers members)

/-- The parts of the elements of a list. -/
def writtenElements : List Json → List Written
  | [] => []
  | element :: rest => written element :: writtenElements rest

/-- The members of an object with the parts of their values. -/
def writtenMembers : List (String × Json) → List (Option String × Written)
  | [] => []
  | member :: rest => (some member.1, written member.2) :: writtenMembers rest

end

theorem writtenElements_eq_map (elements : List Json) :
    writtenElements elements = elements.map written := by
  induction elements with
  | nil => rfl
  | cons element rest ih => rw [writtenElements, ih, List.map_cons]

theorem writtenMembers_eq_map (members : List (String × Json)) :
    writtenMembers members = members.map fun member => (some member.1, written member.2) := by
  induction members with
  | nil => rfl
  | cons member rest ih => rw [writtenMembers, ih, List.map_cons]

/-- A value is read back from its printed text, whatever follows it. -/
structure ReadsBack (value : Json) : Prop where
  /-- Its text begins neither with a blank nor with a closing bracket. -/
  starts : ∃ first others, printed value = first :: others ∧ isGap first = false ∧ first ≠ ']'
  reads : ∀ fuel {rest}, (printed value).length ≤ fuel + 1 → AfterValue rest →
    readValue (fuel + 1) (printed value ++ rest) = some (written value, rest)

variable {rest : List Char}

theorem ReadsBack.readValue_eq {value : Json} {fuel : Nat} (back : ReadsBack value)
    (enough : (printed value).length ≤ fuel) (after : AfterValue rest) :
    readValue fuel (printed value ++ rest) = some (written value, rest) := by
  cases fuel with
  | zero =>
      rcases back.starts with ⟨first, others, shape, -⟩
      exact absurd enough (by simp [shape])
  | succ fuel => exact back.reads fuel enough after

theorem isGap_of_starts {first : Char} (starts : first = '-' ∨ first.isDigit = true) :
    isGap first = false ∧ first ≠ ']' := by
  refine ⟨Bool.eq_false_iff.mpr fun gap => ?_, ?_⟩
  · simp only [isGap, Bool.or_eq_true, beq_iff_eq] at gap
    rcases gap with ((rfl | rfl) | rfl) | rfl <;> exact absurd starts (by decide)
  · rintro rfl
    exact absurd starts (by decide)

theorem skipGap_of_isGap_eq_false {first : Char} {others : List Char}
    (noGap : isGap first = false) : skipGap (first :: others) = first :: others :=
  List.dropWhile_cons_of_neg (by simp [noGap])

/-- A value that begins with a sign or a digit is a number. -/
theorem readValue_of_readNumeral {first : Char} {others : List Char} {numeral : Numeral}
    (fuel : Nat) (starts : first = '-' ∨ first.isDigit = true)
    (read : readNumeral (first :: others) = some (numeral, rest)) :
    readValue (fuel + 1) (first :: others) = some (.number numeral, rest) := by
  rw [readValue, skipGap_of_isGap_eq_false (isGap_of_starts starts).1]
  split
  case h_7 => rw [read]
  all_goals
    rename_i same
    cases same
    exact absurd starts (by decide)

theorem exists_printedInteger_eq_cons (value : Int) :
    ∃ first others, printedInteger value = first :: others ∧
      (first = '-' ∨ first.isDigit = true) := by
  cases value with
  | ofNat value =>
      rcases exists_toDigits_eq_cons value with ⟨digit, digits, shape, isDigit⟩
      exact ⟨digit, digits, shape, .inr isDigit⟩
  | negSucc value => exact ⟨_, _, rfl, .inl rfl⟩

theorem readsBack_null : ReadsBack .null :=
  ⟨⟨_, _, rfl, by decide, by decide⟩, fun _ _ _ _ => rfl⟩

theorem readsBack_bool (value : Bool) : ReadsBack (.bool value) := by
  cases value with
  | false => exact ⟨⟨_, _, rfl, by decide, by decide⟩, fun _ _ _ _ => rfl⟩
  | true => exact ⟨⟨_, _, rfl, by decide, by decide⟩, fun _ _ _ _ => rfl⟩

theorem readsBack_integer (value : Int) : ReadsBack (.integer value) := by
  rcases exists_printedInteger_eq_cons value with ⟨first, others, shape, starts⟩
  refine ⟨⟨first, others, shape, isGap_of_starts starts⟩, fun fuel {rest} _ after => ?_⟩
  have read := readNumeral_printedInteger value after
  simp only [printed, written, shape, List.cons_append] at read ⊢
  exact readValue_of_readNumeral fuel starts read

theorem readsBack_string (text : String) : ReadsBack (.string text) := by
  refine ⟨⟨_, _, rfl, by decide, by decide⟩, fun fuel {rest} _ _ => ?_⟩
  have read := readText_printedText text rest
  simp [printed, printedText, readValue, skipGap, isGap, written, read]

theorem readElements_more {element : Json} {fuel : Nat} (found : List Written) (text : List Char)
    (back : ReadsBack element) (enough : (printed element).length ≤ fuel) :
    readElements (fuel + 1) found (printed element ++ ',' :: text) =
      readElements fuel (written element :: found) text := by
  have after := AfterValue.comma text
  rw [readElements, back.readValue_eq enough after]
  simp only [after.skipGap_eq]

theorem readElements_last {element : Json} {fuel : Nat} (found : List Written) (rest : List Char)
    (back : ReadsBack element) (enough : (printed element).length ≤ fuel) :
    readElements (fuel + 1) found (printed element ++ ']' :: rest) =
      some (.array (written element :: found).reverse, rest) := by
  have after := AfterValue.bracket rest
  rw [readElements, back.readValue_eq enough after]
  simp only [after.skipGap_eq]

/-- The elements of a list are read back one after the other. -/
theorem readElements_printed {element : Json} {others : List Json} {fuel : Nat}
    (found : List Written) (rest : List Char) (back : ReadsBack element)
    (backOthers : ∀ other ∈ others, ReadsBack other)
    (enough : (printedElements (element :: others)).length ≤ fuel) :
    readElements fuel found (printedElements (element :: others) ++ rest) =
      some (.array (found.reverse ++ writtenElements (element :: others)), rest) := by
  induction others generalizing element fuel found with
  | nil =>
      simp only [printedElements, printedFurtherElements, List.length_append,
        List.length_singleton, List.append_assoc, List.singleton_append] at enough ⊢
      cases fuel with
      | zero => exact absurd enough (by omega)
      | succ fuel =>
          rw [readElements_last found rest back (by omega)]
          simp [writtenElements]
  | cons other others ih =>
      simp only [printedElements, printedFurtherElements, List.length_append,
        List.length_cons, List.append_assoc, List.cons_append] at enough ih ⊢
      cases fuel with
      | zero => exact absurd enough (by omega)
      | succ fuel =>
          rw [readElements_more found _ back (by omega), ih _ (backOthers other List.mem_cons_self)
            (fun next member => backOthers next (List.mem_cons_of_mem _ member)) (by omega)]
          simp [writtenElements]

theorem readMembers_more {name : String} {value : Json} {fuel : Nat}
    (found : List (Option String × Written)) (text : List Char) (back : ReadsBack value)
    (enough : (printed value).length ≤ fuel) :
    readMembers (fuel + 1) found (printedText name ++ ':' :: (printed value ++ ',' :: text)) =
      readMembers fuel ((some name, written value) :: found) text := by
  have after := AfterValue.comma text
  have read := readText_printedText name (':' :: (printed value ++ ',' :: text))
  simp [printedText, readMembers, skipGap_of_isGap_eq_false, isGap, read,
    back.readValue_eq enough after]

theorem readMembers_last {name : String} {value : Json} {fuel : Nat}
    (found : List (Option String × Written)) (rest : List Char) (back : ReadsBack value)
    (enough : (printed value).length ≤ fuel) :
    readMembers (fuel + 1) found (printedText name ++ ':' :: (printed value ++ '\x7d' :: rest)) =
      some (.object ((some name, written value) :: found).reverse, rest) := by
  have after := AfterValue.brace rest
  have read := readText_printedText name (':' :: (printed value ++ '\x7d' :: rest))
  simp [printedText, readMembers, skipGap_of_isGap_eq_false, isGap, read,
    back.readValue_eq enough after]

/-- The members of an object are read back one after the other. -/
theorem readMembers_printed {member : String × Json} {others : List (String × Json)} {fuel : Nat}
    (found : List (Option String × Written)) (rest : List Char) (back : ReadsBack member.2)
    (backOthers : ∀ other ∈ others, ReadsBack other.2)
    (enough : (printedMembers (member :: others)).length ≤ fuel) :
    readMembers fuel found (printedMembers (member :: others) ++ rest) =
      some (.object (found.reverse ++ writtenMembers (member :: others)), rest) := by
  induction others generalizing member fuel found with
  | nil =>
      simp only [printedMembers, printedFurtherMembers, List.length_append, List.length_cons,
        List.append_assoc, List.cons_append, List.nil_append] at enough ⊢
      cases fuel with
      | zero => exact absurd enough (by omega)
      | succ fuel =>
          rw [readMembers_last found rest back (by omega)]
          simp [writtenMembers]
  | cons other others ih =>
      simp only [printedMembers, printedFurtherMembers, List.length_append,
        List.length_cons, List.append_assoc, List.cons_append] at enough ih ⊢
      cases fuel with
      | zero => exact absurd enough (by omega)
      | succ fuel =>
          rw [readMembers_more found _ back (by omega), ih _ (backOthers other List.mem_cons_self)
            (fun next member => backOthers next (List.mem_cons_of_mem _ member)) (by omega)]
          simp [writtenMembers]

theorem readsBack_array {elements : List Json} (back : ∀ element ∈ elements, ReadsBack element) :
    ReadsBack (.array elements) := by
  refine ⟨⟨_, _, by rw [printed], by decide, by decide⟩, fun fuel {rest} enough _ => ?_⟩
  cases elements with
  | nil => rfl
  | cons element others =>
      have first := back element List.mem_cons_self
      have read := readElements_printed [] rest first
        (fun other inOthers => back other (List.mem_cons_of_mem _ inOthers))
        (Nat.le_of_succ_le_succ enough)
      rcases first.starts with ⟨start, text, shape, noGap, noBracket⟩
      simp only [printed, printedElements, shape, List.cons_append] at read ⊢
      rw [readValue, skipGap_of_isGap_eq_false (by decide)]
      simp only [skipGap_of_isGap_eq_false noGap]
      split
      next same => exact absurd (List.cons.inj same).1 noBracket
      next => exact read

theorem readsBack_object {members : List (String × Json)}
    (back : ∀ member ∈ members, ReadsBack member.2) : ReadsBack (.object members) := by
  refine ⟨⟨_, _, by rw [printed], by decide, by decide⟩, fun fuel {rest} enough _ => ?_⟩
  cases members with
  | nil => rfl
  | cons member others =>
      exact readMembers_printed [] rest (back member List.mem_cons_self)
        (fun other inOthers => back other (List.mem_cons_of_mem _ inOthers))
        (Nat.le_of_succ_le_succ enough)

/-- Every printed value is read back. -/
theorem IsIntegral.readsBack {value : Json} (integral : IsIntegral value) : ReadsBack value := by
  induction integral with
  | null => exact readsBack_null
  | bool value => exact readsBack_bool value
  | integer least greatest => exact readsBack_integer _
  | string value => exact readsBack_string value
  | array each ih => exact readsBack_array ih
  | object each ih => exact readsBack_object ih

/-- The printed text of a value is taken apart into its parts as they stand. -/
theorem read?_printed {value : Json} (integral : IsIntegral value) :
    read? (printed value) = some (written value) := by
  have read := integral.readsBack.reads (printed value).length (Nat.le_succ _) .nothing
  rw [List.append_nil] at read
  rw [read?, read]
  rfl

end TaskAgent.Json
