import TaskAgent.Proofs.Json.Members

/-!
# Texts of objects

The text of an object is cut at the commas between its members (`exists_eq_text`), and each
piece stands for the same member wherever it is put (`IsMember`, `read?_text`). So whatever is true
of an object with members in another order, or with more members, is true of the text in which the
pieces are put in that order and more pieces are put between them.
-/

namespace TaskAgent.Json

/-- The blanks around an object and behind its opening brace. -/
structure Frame where
  before : List Char
  inside : List Char
  after : List Char
  blankBefore : IsGapText before
  blankInside : IsGapText inside
  blankAfter : IsGapText after

/-- The text of an object with the given texts of its members. -/
def Frame.text (frame : Frame) (pieces : List (List Char)) : List Char :=
  frame.before ++ '\x7b' :: (frame.inside ++ ([','].intercalate pieces ++ '\x7d' :: frame.after))

/-- A text that stands for a member: an object with it alone is read as having that member
alone. -/
def IsMember (piece : List Char) (member : Option String × Written) : Prop :=
  read? ('\x7b' :: (piece ++ ['\x7d'])) = some (.object [member])

variable {text piece : List Char} {pieces : List (List Char)}
  {member : Option String × Written} {members : List (Option String × Written)}

theorem exists_of_firstStep_object {fuel : Nat} {body rest : List Char}
    (step : FirstStep fuel body (.object members) rest) :
    ∃ inside pieces, IsGapText inside ∧
      body = '\x7b' :: (inside ++ ([','].intercalate pieces ++ '\x7d' :: rest)) ∧
      List.Forall₂ IsMemberText pieces members := by
  cases step with
  | @emptyObject gap rest blank => exact ⟨gap, [], blank, rfl, .nil⟩
  | object read =>
      rcases (areLocal fuel).2.2 read with ⟨pieces, found, -, rfl, same, each⟩
      cases same
      exact ⟨[], pieces, by simp [IsGapText], rfl, each⟩
  | array more read =>
      rcases (areLocal fuel).2.1 read with ⟨taken, elements, -, same, -⟩
      cases same

theorem exists_text_of_read? (read : read? text = some (.object members)) :
    ∃ (frame : Frame) (pieces : List (List Char)), text = frame.text pieces ∧
      List.Forall₂ IsMemberText pieces members := by
  unfold read? at read
  split at read
  · cases read
  · next written rest readsValue =>
      split at read
      · next blankAfter =>
          cases read
          rcases exists_firstStep readsValue with ⟨before, body, blankBefore, shape, step⟩
          rcases exists_of_firstStep_object step with ⟨inside, pieces, blankInside, rfl, each⟩
          have blankAfter : ∀ c ∈ rest, isGap c = true := by
            simpa [skipGap, List.isEmpty_iff] using blankAfter
          exact ⟨⟨before, inside, rest, blankBefore, blankInside, blankAfter⟩, pieces, shape, each⟩
      · cases read

theorem read?_text_of_isMemberText (frame : Frame)
    (each : List.Forall₂ IsMemberText pieces members) :
    read? (frame.text pieces) = some (.object members) := by
  have enough : ([','].intercalate pieces).length < (frame.text pieces).length := by
    simp only [Frame.text, List.length_append, List.length_cons]
    omega
  have read := readValue_object frame.blankBefore frame.blankInside each frame.after enough
  have ends := skipGap_eq_nil frame.blankAfter
  simp only [read?, Frame.text] at read ⊢
  simp only [read, ends, List.isEmpty_nil, if_true]

/-- An object without blanks around it and behind its opening brace. -/
def Frame.bare : Frame :=
  ⟨[], [], [], by simp [IsGapText], by simp [IsGapText], by simp [IsGapText]⟩

theorem IsMemberText.isMember (isMember : IsMemberText piece member) : IsMember piece member := by
  have read := read?_text_of_isMemberText .bare (.cons isMember .nil)
  rw [Frame.text, List.intercalate_singleton] at read
  exact read

theorem IsMemberText.append {gap : List Char} (isMember : IsMemberText piece member)
    (blank : IsGapText gap) : IsMemberText (gap ++ piece) member := by
  refine ⟨?_, ?_, ?_⟩
  · intro other
    rw [List.append_assoc, skipGap_append blank]
    exact isMember.starts other
  · intro fuel found other enough
    rw [List.length_append] at enough
    rw [List.append_assoc, ← readMembers_skipGap, skipGap_append blank, readMembers_skipGap]
    exact isMember.more fuel found other (by omega)
  · intro fuel found other enough
    rw [List.length_append] at enough
    rw [List.append_assoc, ← readMembers_skipGap, skipGap_append blank, readMembers_skipGap]
    exact isMember.last fuel found other (by omega)

theorem IsMember.isMemberText (isMember : IsMember piece member) : IsMemberText piece member := by
  rcases exists_text_of_read? isMember with
    ⟨⟨before, inside, after, blankBefore, blankInside, blankAfter⟩, pieces, shape, each⟩
  rcases List.forall₂_cons_right_iff.mp each with ⟨own, none, isOwn, last, rfl⟩
  cases last
  simp only [Frame.text, List.intercalate_singleton] at shape
  have noBefore : before = [] := by
    cases before with
    | nil => rfl
    | cons c others =>
        cases (List.cons.inj shape).1
        exact absurd (blankBefore '\x7b' List.mem_cons_self) (by decide)
  subst noBefore
  have shape : piece ++ ['\x7d'] = inside ++ (own ++ '\x7d' :: after) := (List.cons.inj shape).2
  have noAfter : after = [] := by
    rcases List.eq_nil_or_concat' after with none | ⟨others, c, rfl⟩
    · exact none
    · have split : inside ++ (own ++ '\x7d' :: (others ++ [c])) =
          (inside ++ (own ++ '\x7d' :: others)) ++ [c] := by simp
      have ends : (piece ++ ['\x7d']).getLast? = some c := by
        rw [shape, split, List.getLast?_concat]
      rw [List.getLast?_concat, Option.some.injEq] at ends
      have blank := blankAfter c (by simp)
      rw [← ends] at blank
      exact absurd blank (by decide)
  subst noAfter
  rw [← List.append_assoc] at shape
  rw [List.append_cancel_right shape]
  exact isOwn.append blankInside

/-- The pieces of a text stand for the members of the object. -/
theorem read?_text (frame : Frame) (each : List.Forall₂ IsMember pieces members) :
    read? (frame.text pieces) = some (.object members) := by
  apply read?_text_of_isMemberText frame
  exact each.imp fun piece member isMember => isMember.isMemberText

/-- Every text of an object is made of texts of its members. -/
theorem exists_eq_text (read : read? text = some (.object members)) :
    ∃ (frame : Frame) (pieces : List (List Char)), text = frame.text pieces ∧
      List.Forall₂ IsMember pieces members := by
  rcases exists_text_of_read? read with ⟨frame, pieces, shape, each⟩
  exact ⟨frame, pieces, shape, each.imp fun piece member isMember => isMember.isMember⟩

/-- A member as it is printed. -/
def printedMember (member : String × Json) : List Char :=
  printedText member.1 ++ ':' :: printed member.2

theorem isMember_printedMember {member : String × Json} (integral : member.2.IsIntegral) :
    IsMember (printedMember member) (some member.1, written member.2) := by
  have whole : IsIntegral (.object [member]) := by simpa using integral
  have read := read?_printed whole
  simp only [printed, printedMembers, printedFurtherMembers, written, writtenMembers] at read
  simp only [IsMember, printedMember, List.append_assoc, List.cons_append]
  exact read

end TaskAgent.Json
