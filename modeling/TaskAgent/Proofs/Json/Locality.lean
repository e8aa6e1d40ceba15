import Mathlib.Data.List.DropRight
import Mathlib.Data.List.TakeWhile
import TaskAgent.Proofs.Json.Reading

/-!
# What a reader takes

Blanks, texts in quotes and numerals are taken off the beginning of a text without a look at what
comes after them, but for the character that ends a numeral. So the characters taken are taken again
from any other text that begins with them.
-/

namespace TaskAgent.Json

open Decimal

/-! ### Blanks -/

/-- A text of nothing but blanks. -/
def IsGapText (text : List Char) : Prop := ∀ c ∈ text, isGap c = true

variable {gap text rest : List Char}

theorem skipGap_append (blank : IsGapText gap) (text : List Char) :
    skipGap (gap ++ text) = skipGap text :=
  List.dropWhile_append_of_pos blank

theorem skipGap_eq_nil (blank : IsGapText gap) : skipGap gap = [] := by
  rw [← List.append_nil gap, skipGap_append blank]
  rfl

theorem exists_eq_gap_append (text : List Char) :
    ∃ gap, IsGapText gap ∧ text = gap ++ skipGap text := by
  refine ⟨text.takeWhile isGap, ?_, List.takeWhile_append_dropWhile.symm⟩
  intro c member
  exact List.mem_takeWhile_imp member

theorem skipGap_skipGap (text : List Char) : skipGap (skipGap text) = skipGap text :=
  List.dropWhile_idempotent isGap text

/-! ### Texts in quotes -/

theorem readPieces_of_shortEscape {escape c : Char} (short : shortEscape? escape = some c)
    (found : List Piece) (rest : List Char) :
    readPieces found ('\\' :: escape :: rest) = readPieces (.char c :: found) rest := by
  have other : escape ≠ 'u' := by
    rintro rfl
    cases short
  rw [readPieces, short]
  intro first second third fourth others same
  cases same
  exact absurd rfl other

theorem exists_of_readPieces {found pieces : List Piece}
    (read : readPieces found text = some (pieces, rest)) :
    ∃ taken, text = taken ++ rest ∧
      ∀ other, readPieces found (taken ++ other) = some (pieces, other) := by
  fun_induction readPieces found text with
  | case1 found => cases read
  | case2 found after =>
      cases read
      exact ⟨['"'], rfl, fun other => rfl⟩
  | case3 found first second third fourth after unit isUnit ih =>
      rcases ih read with ⟨taken, rfl, reads⟩
      refine ⟨'\\' :: 'u' :: first :: second :: third :: fourth :: taken, rfl, ?_⟩
      intro other
      simp only [List.cons_append, readPieces, isUnit]
      exact reads other
  | case4 => cases read
  | case5 found escape after notUnit c short ih =>
      rcases ih read with ⟨taken, rfl, reads⟩
      refine ⟨'\\' :: escape :: taken, rfl, ?_⟩
      intro other
      rw [List.cons_append, List.cons_append, readPieces_of_shortEscape short]
      exact reads other
  | case6 => cases read
  | case7 => cases read
  | case8 found c after noQuote noUnit noEscape plain ih =>
      rcases ih read with ⟨taken, rfl, reads⟩
      refine ⟨c :: taken, rfl, ?_⟩
      intro other
      rw [not_or] at plain
      rw [List.cons_append, readPieces_of_plain noQuote plain.2 plain.1]
      exact reads other

theorem exists_of_readText {name : Option String}
    (read : readText text = some (name, rest)) :
    ∃ taken, text = taken ++ rest ∧ ∀ other, readText (taken ++ other) = some (name, other) := by
  unfold readText at read
  split at read
  · cases read
  · next pieces after readPieces =>
      cases read
      rcases exists_of_readPieces readPieces with ⟨taken, shape, reads⟩
      refine ⟨taken, shape, ?_⟩
      intro other
      simp [readText, reads]

/-! ### Numbers -/

/-- A text that does not go on with digits. -/
def EndsDigits (text : List Char) : Prop := ∀ c ∈ text.head?, c.isDigit = false

/-- A text that does not go on with a number. -/
def EndsNumber (text : List Char) : Prop :=
  ∀ c ∈ text.head?, c.isDigit = false ∧ c ≠ '.' ∧ c ≠ 'e' ∧ c ≠ 'E'

theorem EndsNumber.endsDigits (ends : EndsNumber text) : EndsDigits text := by
  intro c first
  exact (ends c first).1

theorem mem_head?_append {first second : List Char} {c : Char}
    (head : c ∈ (first ++ second).head?) : c ∈ first.head? ∨ c ∈ second.head? := by
  rw [List.head?_append, Option.mem_def, Option.or_eq_some_iff] at head
  exact head.imp_right And.right

theorem readDigits_append {digits : List Char} (each : ∀ c ∈ digits, c.isDigit = true)
    (ends : EndsDigits rest) : readDigits (digits ++ rest) = (digits, rest) := by
  have stop : readDigits rest = ([], rest) := by
    cases rest with
    | nil => rfl
    | cons c others =>
        have noDigit : c.isDigit = false := ends c rfl
        simp [readDigits, noDigit]
  simp only [readDigits, Prod.mk.injEq] at stop
  rw [readDigits, List.takeWhile_append_of_pos each, stop.1, List.dropWhile_append_of_pos each,
    stop.2, List.append_nil]

theorem eq_append_of_readDigits {digits : List Char} (read : readDigits text = (digits, rest)) :
    text = digits ++ rest ∧ ∀ c ∈ digits, c.isDigit = true := by
  cases read
  refine ⟨List.takeWhile_append_dropWhile.symm, ?_⟩
  intro c member
  exact List.mem_takeWhile_imp member

theorem readWhole_append {c : Char} {digits : List Char} (noZero : c ≠ '0')
    (each : ∀ d ∈ c :: digits, d.isDigit = true) (ends : EndsDigits rest) :
    readWhole (c :: digits ++ rest) = some (c :: digits, rest) := by
  have digits := readDigits_append each ends
  rw [List.cons_append] at digits ⊢
  unfold readWhole
  split
  · next same =>
      cases same
      exact absurd rfl noZero
  · rw [digits]

theorem exists_of_readWhole {whole : List Char} (read : readWhole text = some (whole, rest)) :
    text = whole ++ rest ∧ (∃ c digits, whole = c :: digits ∧ c.isDigit = true) ∧
      ∀ other, EndsDigits other → readWhole (whole ++ other) = some (whole, other) := by
  unfold readWhole at read
  split at read
  · cases read
    exact ⟨rfl, ⟨'0', [], rfl, by decide⟩, fun other _ => rfl⟩
  · next noZero =>
      rcases readsDigits : readDigits text with ⟨_ | ⟨c, digits⟩, after⟩
      · rw [readsDigits] at read
        cases read
      · rw [readsDigits] at read
        cases read
        rcases eq_append_of_readDigits readsDigits with ⟨rfl, each⟩
        have differs : c ≠ '0' := by
          rintro rfl
          exact noZero _ rfl
        refine ⟨rfl, ⟨c, digits, rfl, each c List.mem_cons_self⟩, ?_⟩
        intro other ends
        exact readWhole_append differs each ends

/-- The part of a number that begins with a point. -/
theorem exists_of_readFraction {fraction : Option (List Char)}
    (read : readFraction text = some (fraction, rest)) :
    ∃ taken, text = taken ++ rest ∧ (∀ c ∈ taken.head?, c = '.') ∧
      ∀ other, EndsDigits other → (∀ c ∈ other.head?, c ≠ '.') →
        readFraction (taken ++ other) = some (fraction, other) := by
  unfold readFraction at read
  split at read
  · next after =>
      split at read
      · cases read
      · next digits left some readsDigits =>
          cases read
          rcases eq_append_of_readDigits readsDigits with ⟨rfl, each⟩
          refine ⟨'.' :: digits, rfl, by simp, ?_⟩
          intro other ends _
          simp only [List.cons_append, readFraction, readDigits_append each ends]
  · next noPoint =>
      cases read
      refine ⟨[], rfl, by simp, ?_⟩
      intro other _ pointless
      cases other with
      | nil => rfl
      | cons c others =>
          have differs : c ≠ '.' := pointless c rfl
          rw [List.nil_append, readFraction]
          intro after same
          cases same
          exact differs rfl

theorem exists_of_readPowerSign (text : List Char) :
    ∃ sign, text = sign ++ (readPowerSign text).2 ∧ ∀ digits, digits ≠ [] →
      (∀ c ∈ digits, c.isDigit = true) → ∀ other,
        readPowerSign (sign ++ (digits ++ other)) = ((readPowerSign text).1, digits ++ other) := by
  unfold readPowerSign
  split
  · exact ⟨['-'], rfl, fun digits _ _ other => rfl⟩
  · exact ⟨['+'], rfl, fun digits _ _ other => rfl⟩
  · refine ⟨[], rfl, ?_⟩
    intro digits some each other
    rcases List.exists_cons_of_ne_nil some with ⟨digit, others, rfl⟩
    have isDigit := each digit List.mem_cons_self
    split
    · next same =>
        cases same
        exact absurd isDigit (by decide)
    · next same =>
        cases same
        exact absurd isDigit (by decide)
    · rfl

theorem readPower_letter {letter : Char} (isLetter : letter = 'e' ∨ letter = 'E')
    {negative : Bool} {unsigned digits : List Char}
    (signed : readPowerSign text = (negative, unsigned))
    (read : readDigits unsigned = (digits, rest)) :
    readPower (letter :: text) =
      if digits = [] then none else some (some (negative, digits), rest) := by
  rcases isLetter with rfl | rfl
  · cases digits <;> simp [readPower, signed, read]
  · cases digits <;> simp [readPower, signed, read]

theorem exists_of_readPower_letter {letter : Char} {power : Option (Bool × List Char)}
    (isLetter : letter = 'e' ∨ letter = 'E')
    (read : readPower (letter :: text) = some (power, rest)) :
    ∃ taken, text = taken ++ rest ∧
      ∀ other, EndsNumber other → readPower (letter :: taken ++ other) = some (power, other) := by
  rcases signed : readPowerSign text with ⟨negative, unsigned⟩
  rcases readsDigits : readDigits unsigned with ⟨digits, left⟩
  rw [readPower_letter isLetter signed readsDigits] at read
  split at read
  · cases read
  · next some =>
      cases read
      rcases eq_append_of_readDigits readsDigits with ⟨rfl, each⟩
      rcases exists_of_readPowerSign text with ⟨sign, shape, sameSign⟩
      rw [signed] at shape sameSign
      refine ⟨sign ++ digits, by rw [shape, List.append_assoc], ?_⟩
      intro other ends
      have again := readPower_letter isLetter (sameSign digits some each other)
        (readDigits_append each ends.endsDigits)
      rw [if_neg some] at again
      simpa using again

/-- The part of a number that begins with the letter of a power. -/
theorem exists_of_readPower {power : Option (Bool × List Char)}
    (read : readPower text = some (power, rest)) :
    ∃ taken, text = taken ++ rest ∧ (∀ c ∈ taken.head?, c = 'e' ∨ c = 'E') ∧
      ∀ other, EndsNumber other → readPower (taken ++ other) = some (power, other) := by
  by_cases lettered : ∃ letter after, text = letter :: after ∧ (letter = 'e' ∨ letter = 'E')
  · rcases lettered with ⟨letter, after, rfl, isLetter⟩
    rcases exists_of_readPower_letter isLetter read with ⟨taken, rfl, reads⟩
    exact ⟨letter :: taken, rfl, by simpa using isLetter, reads⟩
  · have skipped {others : List Char} (plain : ∀ c ∈ others.head?, c ≠ 'e' ∧ c ≠ 'E') :
        readPower others = some (none, others) := by
      unfold readPower
      split
      · exact absurd rfl (plain _ rfl).1
      · exact absurd rfl (plain _ rfl).2
      · rfl
    have plain : ∀ c ∈ text.head?, c ≠ 'e' ∧ c ≠ 'E' := by
      intro c head
      rw [← not_or]
      intro isLetter
      rcases List.head?_eq_some_iff.mp head with ⟨after, shape⟩
      exact lettered ⟨c, after, shape, isLetter⟩
    cases (skipped plain).symm.trans read
    refine ⟨[], rfl, by simp, ?_⟩
    intro other ends
    exact skipped fun c head => (ends c head).2.2

theorem exists_of_readMagnitude {negative : Bool} {numeral : Numeral}
    (read : readMagnitude negative text = some (numeral, rest)) :
    ∃ taken, text = taken ++ rest ∧ (∃ c others, taken = c :: others ∧ c.isDigit = true) ∧
      ∀ other, EndsNumber other →
        readMagnitude negative (taken ++ other) = some (numeral, other) := by
  unfold readMagnitude at read
  split at read
  · cases read
  · next whole afterWhole readsWhole =>
      split at read
      · cases read
      · next fraction afterFraction readsFraction =>
          split at read
          · cases read
          · next power afterPower readsPower =>
              cases read
              rcases exists_of_readWhole readsWhole with
                ⟨rfl, ⟨c, digits, rfl, isDigit⟩, rereadsWhole⟩
              rcases exists_of_readFraction readsFraction with
                ⟨fractionText, rfl, point, rereadsFraction⟩
              rcases exists_of_readPower readsPower with
                ⟨powerText, rfl, letter, rereadsPower⟩
              refine ⟨c :: digits ++ (fractionText ++ powerText), by simp, ⟨c, _, rfl, isDigit⟩, ?_⟩
              intro other ends
              have afterFraction : ∀ d ∈ (powerText ++ other).head?,
                  d.isDigit = false ∧ d ≠ '.' := by
                intro d head
                rcases mem_head?_append head with inPower | inOther
                · rcases letter d inPower with rfl | rfl
                  · decide
                  · decide
                · exact ⟨(ends d inOther).1, (ends d inOther).2.1⟩
              have endsWhole : EndsDigits (fractionText ++ (powerText ++ other)) := by
                intro d head
                rcases mem_head?_append head with inFraction | later
                · rw [point d inFraction]
                  decide
                · exact (afterFraction d later).1
              have first := rereadsWhole _ endsWhole
              have second := rereadsFraction _ (fun d head => (afterFraction d head).1)
                fun d head => (afterFraction d head).2
              have third := rereadsPower _ ends
              simp only [List.append_assoc] at first ⊢
              simp only [readMagnitude, first, second, third]

/-- A number is taken off the front in the same way before whatever does not go on with it. -/
theorem exists_of_readNumeral {numeral : Numeral}
    (read : readNumeral text = some (numeral, rest)) :
    ∃ taken, text = taken ++ rest ∧
      (∃ c others, taken = c :: others ∧ (c = '-' ∨ c.isDigit = true)) ∧
      ∀ other, EndsNumber other → readNumeral (taken ++ other) = some (numeral, other) := by
  unfold readNumeral at read
  split at read
  · next after =>
      rcases exists_of_readMagnitude read with ⟨taken, rfl, -, reads⟩
      exact ⟨'-' :: taken, rfl, ⟨'-', taken, rfl, Or.inl rfl⟩, reads⟩
  · rcases exists_of_readMagnitude read with ⟨_, rfl, ⟨c, others, rfl, isDigit⟩, reads⟩
    refine ⟨c :: others, rfl, ⟨c, others, rfl, Or.inr isDigit⟩, ?_⟩
    intro other ends
    have unsigned : c ≠ '-' := by
      rintro rfl
      exact absurd isDigit (by decide)
    rw [List.cons_append, readNumeral]
    · exact reads other ends
    · intro after same
      cases same
      exact unsigned rfl

end TaskAgent.Json
