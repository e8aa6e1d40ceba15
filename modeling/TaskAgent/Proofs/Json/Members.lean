import Mathlib.Data.List.Forall2
import TaskAgent.Proofs.Json.Locality

/-!
# Members of an object as texts

A value takes the same text whatever comes after it (`IsValueText`), with as much fuel as the text
has characters, and a member of an object takes its own (`IsMemberText`). `FirstStep` lists how a
value can begin; every law about values goes through this list by induction on the fuel, with one
law for values, one for the members of objects and one for the elements of arrays (`areLocal`).
-/

namespace TaskAgent.Json

variable {fuel : Nat} {gap text rest : List Char} {value : Written}

theorem readValue_append (blank : IsGapText gap) (fuel : Nat) (text : List Char) :
    readValue fuel (gap ++ text) = readValue fuel text := by
  cases fuel with
  | zero => rfl
  | succ fuel => rw [readValue, readValue, skipGap_append blank]

theorem readMembers_skipGap (fuel : Nat) (found : List (Option String × Written))
    (text : List Char) : readMembers fuel found (skipGap text) = readMembers fuel found text := by
  cases fuel with
  | zero => rfl
  | succ fuel => rw [readMembers, readMembers, skipGap_skipGap]

theorem readElements_skipGap (fuel : Nat) (found : List Written) (text : List Char) :
    readElements fuel found (skipGap text) = readElements fuel found text := by
  cases fuel with
  | zero => rfl
  | succ fuel =>
      rcases exists_eq_gap_append text with ⟨gap, blank, shape⟩
      have same : readValue fuel (skipGap text) = readValue fuel text := by
        rw [← readValue_append blank, ← shape]
      rw [readElements, readElements, same]

/-- How a value is read off a text that does not begin with a blank. -/
inductive FirstStep (fuel : Nat) : List Char → Written → List Char → Prop where
  | emptyObject {gap rest : List Char} (blank : IsGapText gap) :
      FirstStep fuel ('\x7b' :: (gap ++ '\x7d' :: rest)) (.object []) rest
  | object {body rest : List Char} {value : Written}
      (read : readMembers fuel [] body = some (value, rest)) :
      FirstStep fuel ('\x7b' :: body) value rest
  | emptyArray {gap rest : List Char} (blank : IsGapText gap) :
      FirstStep fuel ('[' :: (gap ++ ']' :: rest)) (.array []) rest
  | array {body rest : List Char} {value : Written}
      (more : ∀ after, skipGap body ≠ ']' :: after)
      (read : readElements fuel [] body = some (value, rest)) :
      FirstStep fuel ('[' :: body) value rest
  | string {body rest : List Char} {text : Option String}
      (read : readText body = some (text, rest)) : FirstStep fuel ('"' :: body) (.string text) rest
  | null {rest : List Char} : FirstStep fuel ('n' :: 'u' :: 'l' :: 'l' :: rest) .null rest
  | true {rest : List Char} : FirstStep fuel ('t' :: 'r' :: 'u' :: 'e' :: rest) (.bool true) rest
  | false {rest : List Char} :
      FirstStep fuel ('f' :: 'a' :: 'l' :: 's' :: 'e' :: rest) (.bool false) rest
  | number {body rest : List Char} {numeral : Decimal.Numeral}
      (read : readNumeral body = some (numeral, rest)) :
      FirstStep fuel body (.number numeral) rest

theorem exists_firstStep (read : readValue (fuel + 1) text = some (value, rest)) :
    ∃ gap body, IsGapText gap ∧ text = gap ++ body ∧ FirstStep fuel body value rest := by
  rcases exists_eq_gap_append text with ⟨gap, blank, shape⟩
  refine ⟨gap, skipGap text, blank, shape, ?_⟩
  rw [readValue] at read
  generalize skipGap text = body at read ⊢
  split at read
  · next body =>
      split at read
      · next after closed =>
          cases read
          rcases exists_eq_gap_append body with ⟨inside, blankInside, split⟩
          rw [split, closed]
          exact .emptyObject blankInside
      · rw [readMembers_skipGap] at read
        exact .object read
  · next body =>
      split at read
      · next after closed =>
          cases read
          rcases exists_eq_gap_append body with ⟨inside, blankInside, split⟩
          rw [split, closed]
          exact .emptyArray blankInside
      · next more =>
          rw [readElements_skipGap] at read
          exact .array more read
  · split at read
    · next readsText =>
        cases read
        exact .string readsText
    · cases read
  · cases read
    exact .null
  · cases read
    exact .true
  · cases read
    exact .false
  · split at read
    · next readsNumeral =>
        cases read
        exact .number readsNumeral
    · cases read

/-! ### Members -/

/-- A text that stands for a value, whatever follows it that does not go on with a number. -/
structure IsValueText (taken : List Char) (value : Written) : Prop where
  nonempty : taken ≠ []
  reads : ∀ fuel other, taken.length ≤ fuel + 1 → EndsNumber other →
    readValue (fuel + 1) (taken ++ other) = some (value, other)

theorem IsValueText.readValue_eq {taken other : List Char} (isValue : IsValueText taken value)
    (enough : taken.length ≤ fuel) (ends : EndsNumber other) :
    readValue fuel (taken ++ other) = some (value, other) := by
  cases fuel with
  | zero => exact absurd (List.eq_nil_of_length_eq_zero (Nat.le_zero.mp enough)) isValue.nonempty
  | succ fuel => exact isValue.reads fuel other enough ends

/-- A text that stands for a member of an object: it is read on its own, whether another member
follows or the object ends. -/
structure IsMemberText (piece : List Char) (member : Option String × Written) : Prop where
  starts : ∀ other, ∃ after, skipGap (piece ++ other) = '"' :: after
  more : ∀ fuel found other, piece.length ≤ fuel →
    readMembers (fuel + 1) found (piece ++ ',' :: other) = readMembers fuel (member :: found) other
  last : ∀ fuel found other, piece.length ≤ fuel →
    readMembers (fuel + 1) found (piece ++ '\x7d' :: other) =
      some (.object (member :: found).reverse, other)

theorem endsNumber_of_blank (blank : IsGapText gap) (ends : EndsNumber rest) :
    EndsNumber (gap ++ rest) := by
  intro c head
  rcases mem_head?_append head with inGap | later
  · have isBlank := blank c (List.mem_of_mem_head? inGap)
    simp only [isGap, Bool.or_eq_true, beq_iff_eq] at isBlank
    rcases isBlank with ((rfl | rfl) | rfl) | rfl <;> decide
  · exact ends c later

theorem endsNumber_comma (rest : List Char) : EndsNumber (',' :: rest) := by
  intro c head
  cases head
  decide

theorem endsNumber_brace (rest : List Char) : EndsNumber ('\x7d' :: rest) := by
  intro c head
  cases head
  decide

theorem endsNumber_bracket (rest : List Char) : EndsNumber (']' :: rest) := by
  intro c head
  cases head
  decide

theorem isMemberText_of_parts {first second third nameText valueText : List Char}
    {name : Option String} (blankFirst : IsGapText first) (blankSecond : IsGapText second)
    (blankThird : IsGapText third)
    (readsName : ∀ other, readText (nameText ++ other) = some (name, other))
    (isValue : IsValueText valueText value) :
    IsMemberText (first ++ '"' :: (nameText ++ (second ++ ':' :: (valueText ++ third))))
      (name, value) := by
  -- up to the value all is the member's own; then a comma or a brace says how it goes on
  have upToValue (fuel : Nat) (found : List (Option String × Written)) {other : List Char}
      {result : Option (Written × List Char)} (enough : valueText.length ≤ fuel)
      (ends : EndsNumber other)
      (goesOn : (∃ rest, skipGap other = ',' :: rest ∧
          readMembers fuel ((name, value) :: found) rest = result) ∨
        ∃ rest, skipGap other = '\x7d' :: rest ∧
          some (.object ((name, value) :: found).reverse, rest) = result) :
      readMembers (fuel + 1) found
          (first ++ '"' :: (nameText ++ (second ++ ':' :: (valueText ++ (third ++ other))))) =
        result := by
    have readsValue := isValue.readValue_eq enough (endsNumber_of_blank blankThird ends)
    have colon : ∀ after, skipGap (second ++ ':' :: after) = ':' :: after := by
      intro after
      rw [skipGap_append blankSecond]
      rfl
    have quote : ∀ after, skipGap (first ++ '"' :: after) = '"' :: after := by
      intro after
      rw [skipGap_append blankFirst]
      rfl
    rcases goesOn with ⟨rest, shape, read⟩ | ⟨rest, shape, read⟩
    · simp only [readMembers, quote, readsName, colon, readsValue, skipGap_append blankThird, shape]
      exact read
    · simp only [readMembers, quote, readsName, colon, readsValue, skipGap_append blankThird, shape]
      exact read
  refine ⟨?_, ?_, ?_⟩
  · intro other
    refine ⟨nameText ++ (second ++ ':' :: (valueText ++ (third ++ other))), ?_⟩
    simp only [List.append_assoc, List.cons_append]
    rw [skipGap_append blankFirst]
    rfl
  · intro fuel found other enough
    have short : valueText.length ≤ fuel := by
      simp at enough
      omega
    have read := upToValue fuel found short (endsNumber_comma other) (Or.inl ⟨other, rfl, rfl⟩)
    simp only [List.append_assoc, List.cons_append] at read ⊢
    exact read
  · intro fuel found other enough
    have short : valueText.length ≤ fuel := by
      simp at enough
      omega
    have read := upToValue fuel found short (endsNumber_brace other) (Or.inr ⟨other, rfl, rfl⟩)
    simp only [List.append_assoc, List.cons_append] at read ⊢
    exact read

variable {pieces : List (List Char)} {members : List (Option String × Written)}

/-- Members are read one after the other. -/
theorem readMembers_intercalate {piece : List Char} {member : Option String × Written}
    (head : IsMemberText piece member) (each : List.Forall₂ IsMemberText pieces members)
    (found : List (Option String × Written)) (rest : List Char)
    (enough : ([','].intercalate (piece :: pieces)).length < fuel) :
    readMembers fuel found ([','].intercalate (piece :: pieces) ++ '\x7d' :: rest) =
      some (.object (found.reverse ++ member :: members), rest) := by
  induction each generalizing piece member fuel found with
  | nil =>
      rw [List.intercalate_singleton] at enough ⊢
      cases fuel with
      | zero => omega
      | succ fuel =>
          rw [head.last fuel found rest (by omega)]
          simp
  | cons next each ih =>
      rw [List.intercalate_cons_cons] at enough ⊢
      simp only [List.length_append, List.length_singleton] at enough
      cases fuel with
      | zero => omega
      | succ fuel =>
          have further := ih next (member :: found) (by omega : _ < fuel)
          simp only [List.append_assoc, List.cons_append, List.nil_append] at further ⊢
          rw [head.more fuel found _ (by omega), further]
          simp

/-- The text of an object, whatever follows it. -/
theorem readValue_object {before inside : List Char} (blankBefore : IsGapText before)
    (blankInside : IsGapText inside) (each : List.Forall₂ IsMemberText pieces members)
    (rest : List Char) (enough : ([','].intercalate pieces).length < fuel) :
    readValue (fuel + 1)
        (before ++ '\x7b' :: (inside ++ ([','].intercalate pieces ++ '\x7d' :: rest))) =
      some (.object members, rest) := by
  rw [readValue_append blankBefore]
  have brace : ∀ after, skipGap ('\x7b' :: after) = '\x7b' :: after := fun after => rfl
  cases each with
  | nil =>
      have closed : skipGap (inside ++ '\x7d' :: rest) = '\x7d' :: rest := by
        rw [skipGap_append blankInside]
        rfl
      simp only [readValue, brace, List.intercalate_nil, List.nil_append, closed]
  | @cons piece member pieces members head each =>
      have starts : ∃ after, skipGap
          ([','].intercalate (piece :: pieces) ++ '\x7d' :: rest) = '"' :: after := by
        cases pieces with
        | nil =>
            rw [List.intercalate_singleton]
            exact head.starts _
        | cons next others =>
            rw [List.intercalate_cons_cons]
            simp only [List.append_assoc]
            exact head.starts _
      rcases starts with ⟨after, starts⟩
      have read := readMembers_intercalate head each [] rest enough
      rw [← readMembers_skipGap, starts] at read
      simp only [readValue, brace, skipGap_append blankInside, starts]
      exact read

/-! ### What is taken for a value -/

theorem isValueText_object {inside : List Char} (blank : IsGapText inside)
    (each : List.Forall₂ IsMemberText pieces members) :
    IsValueText ('\x7b' :: (inside ++ ([','].intercalate pieces ++ ['\x7d'])))
      (.object members) := by
  refine ⟨by simp, ?_⟩
  intro fuel other enough _
  have blankBefore : IsGapText [] := by simp [IsGapText]
  have short : ([','].intercalate pieces).length < fuel := by
    simp only [List.length_cons, List.length_append, List.length_nil] at enough
    omega
  have read := readValue_object blankBefore blank each other short
  simp only [List.nil_append, List.cons_append, List.append_assoc] at read ⊢
  exact read

theorem isValueText_emptyArray (blank : IsGapText gap) :
    IsValueText ('[' :: (gap ++ [']'])) (.array []) := by
  refine ⟨by simp, ?_⟩
  intro fuel other _ _
  have bracket : ∀ after, skipGap ('[' :: after) = '[' :: after := fun after => rfl
  have closed : skipGap (gap ++ ']' :: other) = ']' :: other := by
    rw [skipGap_append blank]
    rfl
  simp only [List.cons_append, List.append_assoc, List.nil_append, readValue, bracket, closed]

theorem isValueText_string {taken : List Char} {name : Option String}
    (reads : ∀ other, readText (taken ++ other) = some (name, other)) :
    IsValueText ('"' :: taken) (.string name) := by
  refine ⟨by simp, ?_⟩
  intro fuel other _ _
  have quote : ∀ after, skipGap ('"' :: after) = '"' :: after := fun after => rfl
  simp only [List.cons_append, readValue, quote, reads]

/-- A text that has more than blanks begins in the same way whatever follows it. -/
theorem exists_skipGap_append {taken : List Char} (solid : ∃ c ∈ taken, isGap c = false) :
    ∃ c others, ∀ other, skipGap (taken ++ other) = c :: (others ++ other) := by
  induction taken with
  | nil =>
      rcases solid with ⟨c, member, -⟩
      cases member
  | cons c rest ih =>
      by_cases blank : isGap c = true
      · have later : ∃ d ∈ rest, isGap d = false := by
          rcases solid with ⟨d, member, noGap⟩
          rcases List.mem_cons.mp member with rfl | inRest
          · rw [blank] at noGap
            cases noGap
          · exact ⟨d, inRest, noGap⟩
        rcases ih later with ⟨d, others, same⟩
        refine ⟨d, others, ?_⟩
        intro other
        rw [← same other]
        simp [skipGap, blank]
      · refine ⟨c, rest, ?_⟩
        intro other
        simp [skipGap, blank]

/-- Whatever is read as a value with so much fuel stands for it on its own. -/
def ValuesAreLocal (fuel : Nat) : Prop :=
  ∀ {text rest value}, readValue fuel text = some (value, rest) →
    ∃ taken, text = taken ++ rest ∧ IsValueText taken value

/-- A text that stands for the rest of a list, whatever follows it. -/
structure IsElementsText (taken : List Char) (elements : List Written) : Prop where
  solid : ∃ c ∈ taken, isGap c = false
  reads : ∀ fuel found other, taken.length ≤ fuel →
    readElements fuel found (taken ++ other) = some (.array (found.reverse ++ elements), other)

/-- Whatever is read as the rest of a list with so much fuel stands for it on its own. -/
def ElementsAreLocal (fuel : Nat) : Prop :=
  ∀ {text rest value found}, readElements fuel found text = some (value, rest) →
    ∃ taken elements, text = taken ++ rest ∧ value = .array (found.reverse ++ elements) ∧
      IsElementsText taken elements

/-- Whatever is read as the rest of an object with so much fuel is cut into member texts. -/
def MembersAreLocal (fuel : Nat) : Prop :=
  ∀ {text rest value found}, readMembers fuel found text = some (value, rest) →
    ∃ pieces members, pieces ≠ [] ∧ text = [','].intercalate pieces ++ '\x7d' :: rest ∧
      value = .object (found.reverse ++ members) ∧ List.Forall₂ IsMemberText pieces members

theorem isValueText_array {taken : List Char} {elements : List Written}
    (isElements : IsElementsText taken elements)
    (more : ∀ after, skipGap (taken ++ rest) ≠ ']' :: after) :
    IsValueText ('[' :: taken) (.array elements) := by
  refine ⟨by simp, ?_⟩
  intro fuel other enough _
  rcases exists_skipGap_append isElements.solid with ⟨c, others, same⟩
  have noBracket : c ≠ ']' := by
    rintro rfl
    exact more _ (same rest)
  have bracket : ∀ after, skipGap ('[' :: after) = '[' :: after := fun after => rfl
  have read := isElements.reads fuel [] other (Nat.le_of_succ_le_succ enough)
  rw [← readElements_skipGap, same other] at read
  simp only [List.cons_append, readValue, bracket, same other]
  split
  · next closed =>
      cases closed
      exact absurd rfl noBracket
  · exact read

theorem FirstStep.isValueText {body : List Char} (step : FirstStep fuel body value rest)
    (elementsLocal : ElementsAreLocal fuel) (membersLocal : MembersAreLocal fuel) :
    ∃ taken, body = taken ++ rest ∧ IsValueText taken value := by
  cases step with
  | @emptyObject gap rest blank =>
      have isValue := isValueText_object blank .nil
      exact ⟨_, by simp, isValue⟩
  | object read =>
      rcases membersLocal read with ⟨pieces, members, -, rfl, rfl, each⟩
      have blank : IsGapText [] := by simp [IsGapText]
      have isValue := isValueText_object blank each
      exact ⟨_, by simp, isValue⟩
  | @emptyArray gap rest blank => exact ⟨_, by simp, isValueText_emptyArray blank⟩
  | array more read =>
      rcases elementsLocal read with ⟨taken, elements, rfl, rfl, isElements⟩
      exact ⟨'[' :: taken, rfl, isValueText_array isElements more⟩
  | string read =>
      rcases exists_of_readText read with ⟨taken, rfl, reads⟩
      exact ⟨'"' :: taken, rfl, isValueText_string reads⟩
  | null => exact ⟨['n', 'u', 'l', 'l'], rfl, ⟨by simp, fun fuel other _ _ => rfl⟩⟩
  | true => exact ⟨['t', 'r', 'u', 'e'], rfl, ⟨by simp, fun fuel other _ _ => rfl⟩⟩
  | false => exact ⟨['f', 'a', 'l', 's', 'e'], rfl, ⟨by simp, fun fuel other _ _ => rfl⟩⟩
  | number read =>
      rcases exists_of_readNumeral read with ⟨taken, rfl, ⟨c, others, rfl, starts⟩, reads⟩
      refine ⟨c :: others, rfl, ⟨by simp, ?_⟩⟩
      intro fuel other _ ends
      exact readValue_of_readNumeral fuel starts (reads other ends)

theorem valuesAreLocal_succ (elementsLocal : ElementsAreLocal fuel)
    (membersLocal : MembersAreLocal fuel) : ValuesAreLocal (fuel + 1) := by
  intro text rest value read
  rcases exists_firstStep read with ⟨gap, body, blank, rfl, step⟩
  rcases step.isValueText elementsLocal membersLocal with ⟨taken, rfl, isValue⟩
  refine ⟨gap ++ taken, by simp, ⟨by simp [isValue.nonempty], ?_⟩⟩
  intro fuel other enough ends
  rw [List.length_append] at enough
  rw [List.append_assoc, readValue_append blank]
  exact isValue.reads fuel other (by omega) ends

theorem elementsAreLocal_succ (valuesLocal : ValuesAreLocal fuel)
    (elementsLocal : ElementsAreLocal fuel) : ElementsAreLocal (fuel + 1) := by
  intro text rest value found read
  unfold readElements at read
  split at read
  · cases read
  · next element after readsValue =>
      rcases valuesLocal readsValue with ⟨taken, rfl, isValue⟩
      rcases exists_eq_gap_append after with ⟨gap, blank, shape⟩
      split at read
      · next later comma =>
          rcases elementsLocal read with ⟨others, elements, rfl, rfl, isElements⟩
          rw [comma] at shape
          subst shape
          refine ⟨taken ++ (gap ++ ',' :: others), element :: elements, by simp, by simp, ?_, ?_⟩
          · exact ⟨',', by simp, by decide⟩
          · intro fuel found other enough
            simp only [List.length_append, List.length_cons] at enough
            cases fuel with
            | zero => omega
            | succ fuel =>
                have ends := endsNumber_of_blank blank (endsNumber_comma (others ++ other))
                have readsFirst := isValue.readValue_eq (by omega : _ ≤ fuel) ends
                have separated : skipGap (gap ++ ',' :: (others ++ other)) =
                    ',' :: (others ++ other) := by
                  rw [skipGap_append blank]
                  rfl
                have readsOthers := isElements.reads fuel (element :: found) other (by omega)
                simp only [List.append_assoc, List.cons_append, readElements, readsFirst, separated,
                  readsOthers]
                simp
      · next later bracket =>
          cases read
          rw [bracket] at shape
          subst shape
          refine ⟨taken ++ (gap ++ [']']), [element], by simp, by simp, ?_, ?_⟩
          · exact ⟨']', by simp, by decide⟩
          · intro fuel found other enough
            simp only [List.length_append, List.length_cons] at enough
            cases fuel with
            | zero => omega
            | succ fuel =>
                have ends := endsNumber_of_blank blank (endsNumber_bracket other)
                have readsFirst := isValue.readValue_eq (by omega : _ ≤ fuel) ends
                have closed : skipGap (gap ++ ']' :: other) = ']' :: other := by
                  rw [skipGap_append blank]
                  rfl
                simp only [List.append_assoc, List.cons_append, List.nil_append, readElements,
                  readsFirst, closed]
                simp
      · cases read

theorem membersAreLocal_succ (valuesLocal : ValuesAreLocal fuel)
    (membersLocal : MembersAreLocal fuel) : MembersAreLocal (fuel + 1) := by
  intro text rest value found read
  rcases exists_eq_gap_append text with ⟨first, blankFirst, shapeText⟩
  unfold readMembers at read
  split at read
  · next afterQuote quote =>
      rw [quote] at shapeText
      split at read
      · cases read
      · next name afterName readsName =>
          rcases exists_of_readText readsName with ⟨nameText, rfl, rereadsName⟩
          rcases exists_eq_gap_append afterName with ⟨second, blankSecond, shapeName⟩
          split at read
          · next afterColon colon =>
              rw [colon] at shapeName
              split at read
              · cases read
              · next member afterValue readsValue =>
                  rcases valuesLocal readsValue with ⟨valueText, rfl, isValue⟩
                  rcases exists_eq_gap_append afterValue with ⟨third, blankThird, shapeValue⟩
                  have isMember := isMemberText_of_parts blankFirst blankSecond blankThird
                    rereadsName isValue
                  split at read
                  · next later comma =>
                      rcases membersLocal read with ⟨pieces, members, some, rfl, rfl, each⟩
                      rcases List.exists_cons_of_ne_nil some with ⟨next, others, rfl⟩
                      rw [comma] at shapeValue
                      refine ⟨_ :: next :: others, _ :: members, by simp, ?_, by simp,
                        .cons isMember each⟩
                      rw [List.intercalate_cons_cons, shapeText, shapeName, shapeValue]
                      simp
                  · next later brace =>
                      cases read
                      rw [brace] at shapeValue
                      refine ⟨[_], [_], by simp, ?_, by simp, .cons isMember .nil⟩
                      rw [List.intercalate_singleton, shapeText, shapeName, shapeValue]
                      simp
                  · cases read
          · cases read
  · cases read

theorem areLocal (fuel : Nat) :
    ValuesAreLocal fuel ∧ ElementsAreLocal fuel ∧ MembersAreLocal fuel := by
  induction fuel with
  | zero =>
      refine ⟨?_, ?_, ?_⟩
      · intro text rest value read
        cases read
      · intro text rest value found read
        cases read
      · intro text rest value found read
        cases read
  | succ fuel ih =>
      rcases ih with ⟨valuesLocal, elementsLocal, membersLocal⟩
      exact ⟨valuesAreLocal_succ elementsLocal membersLocal,
        elementsAreLocal_succ valuesLocal elementsLocal,
        membersAreLocal_succ valuesLocal membersLocal⟩

end TaskAgent.Json
