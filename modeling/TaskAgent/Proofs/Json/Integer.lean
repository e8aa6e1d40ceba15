import Mathlib.Tactic.IntervalCases
import TaskAgent.Json.Printer
import TaskAgent.Json.Reader

/-!
# Printed integers

A printed integer is read back as the numeral of its digits (`readNumeral_printedInteger`), and
an integer of 64 bits, with or without a sign, is the value of that numeral
(`value?_integerNumeral`). A larger one is not: its numeral stands for a floating value.

Digits end where something else begins. After a printed value there is nothing, a comma or a
closing bracket (`AfterValue`), and none of them goes on with a number.
-/

namespace TaskAgent.Json

open Decimal

/-- What may stand after a value in a printed text. -/
inductive AfterValue : List Char → Prop where
  | nothing : AfterValue []
  | comma (rest : List Char) : AfterValue (',' :: rest)
  | bracket (rest : List Char) : AfterValue (']' :: rest)
  | brace (rest : List Char) : AfterValue ('\x7d' :: rest)

namespace AfterValue

variable {rest : List Char}

theorem skipGap_eq (after : AfterValue rest) : skipGap rest = rest := by
  cases after <;> rfl

theorem readFraction_eq (after : AfterValue rest) : readFraction rest = some (none, rest) := by
  cases after <;> rfl

theorem readPower_eq (after : AfterValue rest) : readPower rest = some (none, rest) := by
  cases after <;> rfl

theorem readDigits_eq (after : AfterValue rest) : readDigits rest = ([], rest) := by
  cases after <;> rfl

end AfterValue

/-- The digits of an integer, as they are printed. -/
def integerNumeral : Int → Numeral
  | .ofNat value => ⟨false, Nat.toDigits 10 value, none, none⟩
  | .negSucc value => ⟨true, Nat.toDigits 10 (value + 1), none, none⟩

theorem isDigit_toDigits (value : Nat) : ∀ c ∈ Nat.toDigits 10 value, c.isDigit = true :=
  fun _ member => Nat.isDigit_of_mem_toDigits (by decide) (by decide) member

/-- A positive number is printed without zeros in front. -/
theorem head?_toDigits_ne_zero {value : Nat} (positive : 0 < value) :
    (Nat.toDigits 10 value).head? ≠ some '0' := by
  induction value using Nat.strongRecOn with
  | ind value ih =>
      by_cases small : value < 10
      · rw [Nat.toDigits_of_lt_base small]
        interval_cases value <;> decide
      · have shorter := ih (value / 10) (by omega) (by omega)
        have nonempty := List.isSome_head?.mpr (@Nat.toDigits_ne_nil (value / 10) 10)
        rw [Nat.toDigits_of_base_le (by omega) (by omega), List.head?_append,
          Option.or_of_isSome nonempty]
        exact shorter

theorem exists_toDigits_eq_cons (value : Nat) :
    ∃ digit digits, Nat.toDigits 10 value = digit :: digits ∧ digit.isDigit = true := by
  have nonempty : Nat.toDigits 10 value ≠ [] := Nat.toDigits_ne_nil
  rcases List.exists_cons_of_ne_nil nonempty with ⟨digit, digits, shape⟩
  exact ⟨digit, digits, shape, isDigit_toDigits value digit (by simp [shape])⟩

variable {rest : List Char}

theorem readDigits_toDigits (value : Nat) (after : AfterValue rest) :
    readDigits (Nat.toDigits 10 value ++ rest) = (Nat.toDigits 10 value, rest) := by
  have stop := after.readDigits_eq
  simp only [readDigits, Prod.mk.injEq] at stop
  rw [readDigits, List.takeWhile_append_of_pos (isDigit_toDigits value), stop.1,
    List.dropWhile_append_of_pos (isDigit_toDigits value), stop.2, List.append_nil]

theorem readWhole_toDigits (value : Nat) (after : AfterValue rest) :
    readWhole (Nat.toDigits 10 value ++ rest) = some (Nat.toDigits 10 value, rest) := by
  rcases Nat.eq_zero_or_pos value with rfl | positive
  · rfl
  · have noZero := head?_toDigits_ne_zero positive
    have digits := readDigits_toDigits value after
    rcases exists_toDigits_eq_cons value with ⟨digit, others, shape, -⟩
    rw [shape] at noZero digits ⊢
    rw [List.cons_append] at digits ⊢
    unfold readWhole
    split
    next same =>
      cases same
      exact absurd rfl noZero
    next => rw [digits]

theorem readMagnitude_toDigits (negative : Bool) (value : Nat) (after : AfterValue rest) :
    readMagnitude negative (Nat.toDigits 10 value ++ rest) =
      some (⟨negative, Nat.toDigits 10 value, none, none⟩, rest) := by
  simp [readMagnitude, readWhole_toDigits value after, after.readFraction_eq, after.readPower_eq]

/-- A printed integer is read back as its digits. -/
theorem readNumeral_printedInteger (value : Int) (after : AfterValue rest) :
    readNumeral (printedInteger value ++ rest) = some (integerNumeral value, rest) := by
  cases value with
  | ofNat value =>
      have read := readMagnitude_toDigits false value after
      rcases exists_toDigits_eq_cons value with ⟨digit, others, shape, isDigit⟩
      simp only [printedInteger, integerNumeral, shape, List.cons_append] at read ⊢
      unfold readNumeral
      split
      next same =>
        cases same
        exact absurd isDigit (by decide)
      next => exact read
  | negSucc value => exact readMagnitude_toDigits true (value + 1) after

/-- An integer of 64 bits, with or without a sign, is the value of its digits. -/
theorem value?_integerNumeral {value : Int} (least : -2 ^ 63 ≤ value) (greatest : value < 2 ^ 64) :
    (integerNumeral value).value? = some (.integer value) := by
  cases value with
  | ofNat value =>
      have fits : value ≤ greatestWord := by
        simp [greatestWord, UInt64.size] at *
        omega
      simp [integerNumeral, Numeral.value?, ofDigits, Nat.ofDigitChars_ten_toDigits, fits]
  | negSucc value =>
      have fits : value + 1 ≤ 9223372036854775808 := by omega
      simp [integerNumeral, Numeral.value?, ofDigits, Nat.ofDigitChars_ten_toDigits, fits,
        Int.negSucc_eq]

end TaskAgent.Json
