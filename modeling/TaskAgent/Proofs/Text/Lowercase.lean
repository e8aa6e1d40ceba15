import TaskAgent.Proofs.Text.Casing
import TaskAgent.Text.Lowercase

/-!
# Lower-casing a text twice

A character becomes one small letter, or, if it is the dotted capital, two (`lowerBetween_cases`).
Small letters stay as they are, whatever stands around them, so a text in small letters is not
changed any more (`lowercase_eq_self`). The final form of sigma makes no exception: it is a small
letter of its own, and no capital sigma is left to take it.
-/

namespace TaskAgent.Text

variable {before after text lowered : List Char} {c found : Char}

/-- Lower-casing leaves the character as it is. -/
structure IsSmall (c : Char) : Prop where
  ne_sigma : c ≠ 'Σ'
  ne_dotted : c ≠ 'İ'
  lowerPoint_eq : lowerPoint caseRules c.toNat = c.toNat

instance (c : Char) : Decidable (IsSmall c) :=
  decidable_of_iff (c ≠ 'Σ' ∧ c ≠ 'İ' ∧ lowerPoint caseRules c.toNat = c.toNat)
    ⟨fun ⟨sigma, dotted, same⟩ => ⟨sigma, dotted, same⟩,
      fun ⟨sigma, dotted, same⟩ => ⟨sigma, dotted, same⟩⟩

/-- The dot that is left of the dotted capital, beside its small letter. -/
def dotAbove : Char := '\u0307'

theorem lowerBetween_of_isSmall (small : IsSmall c) (before after : List Char) :
    lowerBetween before c after = [c] := by
  simp [lowerBetween, small.ne_sigma, small.ne_dotted, small.lowerPoint_eq]

theorem toNat_ofNat_lowerPoint (c : Char) :
    (Char.ofNat (lowerPoint caseRules c.toNat)).toNat = lowerPoint caseRules c.toNat := by
  have valid : (lowerPoint caseRules c.toNat).isValidChar := by
    rcases lowerPoint_cases caseRules c.toNat with same | ⟨rule, member, taken, small⟩
    · rw [same]
      exact c.valid
    · have valid := List.all_eq_true.mp isValidChar_caseRules rule member
      simp only [Bool.or_eq_true, Bool.and_eq_true, Nat.blt_eq, CaseRule.top] at valid
      rcases taken with ⟨above, below, -⟩
      simp only [small, Nat.isValidChar]
      omega
  rw [Char.ofNat, dif_pos valid]
  rfl

theorem isSmall_ofNat_lowerPoint (notDotted : c ≠ 'İ') :
    IsSmall (Char.ofNat (lowerPoint caseRules c.toNat)) := by
  have point := toNat_ofNat_lowerPoint c
  have settled : lowerPoint caseRules (Char.ofNat (lowerPoint caseRules c.toNat)).toNat =
      (Char.ofNat (lowerPoint caseRules c.toNat)).toNat := by
    rw [point, lowerPoint_lowerPoint]
  refine ⟨?_, ?_, settled⟩
  · intro sigma
    rw [sigma] at settled
    exact absurd settled (by decide)
  · intro dotted
    rw [dotted] at point
    rcases lowerPoint_cases caseRules c.toNat with same | ⟨rule, member, taken, small⟩
    · apply notDotted
      exact Char.toNat_inj.mp (same.symm.trans point.symm)
    · have clear := List.all_eq_true.mp isClear_caseRules rule member
      simp only [Bool.and_eq_true] at clear
      apply CaseRule.not_takes_of_isClear clear.1 taken
      rw [← small, ← point]
      decide

theorem isAlphanumeric_ofNat_lowerPoint (alphanumeric : isAlphanumeric c = true) :
    isAlphanumeric (Char.ofNat (lowerPoint caseRules c.toNat)) = true := by
  rcases lowerPoint_cases caseRules c.toNat with same | ⟨rule, member, taken, small⟩
  · rw [same, Char.ofNat_toNat]
    exact alphanumeric
  · have within := List.all_eq_true.mp isWithin_caseRules rule member
    have held := CaseRule.holds_of_isWithin follows_alphanumericPoints within taken
    rw [← small, ← toNat_ofNat_lowerPoint c] at held
    exact held

/-- A character becomes one small letter, and a letter stays one; only the dotted capital becomes
two characters, of which the second is no letter. -/
theorem lowerBetween_cases (before : List Char) (c : Char) (after : List Char) :
    (c ≠ 'İ' ∧ ∃ small, lowerBetween before c after = [small] ∧ IsSmall small ∧
      (isAlphanumeric c = true → isAlphanumeric small = true)) ∨
    c = 'İ' ∧ lowerBetween before c after = ['i', dotAbove] := by
  unfold lowerBetween
  split
  · next sigma =>
      refine Or.inl ⟨by simp [sigma], ?_⟩
      split
      · exact ⟨'ς', rfl, by decide, fun _ => by decide⟩
      · exact ⟨'σ', rfl, by decide, fun _ => by decide⟩
  · split
    · next dotted => exact Or.inr ⟨dotted, rfl⟩
    · next notDotted =>
        exact Or.inl ⟨notDotted, _, rfl, isSmall_ofNat_lowerPoint notDotted,
          isAlphanumeric_ofNat_lowerPoint⟩

theorem isSmall_of_mem_lowerBetween (member : found ∈ lowerBetween before c after) :
    IsSmall found := by
  rcases lowerBetween_cases before c after with ⟨-, small, same, isSmall, -⟩ | ⟨-, same⟩
  · simp only [same, List.mem_singleton] at member
    exact member ▸ isSmall
  · simp only [same, List.mem_cons, List.not_mem_nil, or_false] at member
    rcases member with rfl | rfl
    · decide
    · decide

/-! ### Texts -/

theorem mem_lowerFrom_iff :
    found ∈ lowerFrom before lowered text ↔
      found ∈ lowered ∨ ∃ front c back, text = front ++ c :: back ∧
        found ∈ lowerBetween (front.reverse ++ before) c back := by
  induction text generalizing before lowered with
  | nil => simp [lowerFrom]
  | cons c rest ih =>
      rw [lowerFrom, ih, List.mem_append, List.mem_reverse,
        or_comm (a := found ∈ lowerBetween _ _ _), or_assoc]
      apply or_congr_right
      constructor
      · rintro (here | ⟨front, d, back, rfl, member⟩)
        · exact ⟨[], c, rest, rfl, here⟩
        · exact ⟨c :: front, d, back, rfl, by simpa using member⟩
      · rintro ⟨front, d, back, cut, member⟩
        cases front with
        | nil =>
            cases cut
            exact Or.inl member
        | cons head front =>
            cases cut
            exact Or.inr ⟨front, d, back, rfl, by simpa using member⟩

theorem mem_lowercase_iff :
    found ∈ lowercase text ↔ ∃ front c back, text = front ++ c :: back ∧
      found ∈ lowerBetween front.reverse c back := by
  simp [lowercase, mem_lowerFrom_iff]

theorem lowercase_eq_nil_iff : lowercase text = [] ↔ text = [] := by
  constructor
  · intro nothing
    cases text with
    | nil => rfl
    | cons c rest =>
        have member {small : Char} (lowered : small ∈ lowerBetween [] c rest) : small ∈ [] :=
          nothing ▸ mem_lowercase_iff.mpr ⟨[], c, rest, rfl, lowered⟩
        rcases lowerBetween_cases [] c rest with ⟨-, small, same, -⟩ | ⟨-, same⟩
        · cases member (same ▸ List.mem_cons_self)
        · cases member (same ▸ List.mem_cons_self)
  · rintro rfl
    rfl

theorem isSmall_of_mem_lowercase (member : found ∈ lowercase text) : IsSmall found := by
  rcases mem_lowercase_iff.mp member with ⟨front, c, back, -, lowered⟩
  exact isSmall_of_mem_lowerBetween lowered

theorem lowerFrom_of_isSmall (small : ∀ c ∈ text, IsSmall c) (before lowered : List Char) :
    lowerFrom before lowered text = lowered.reverse ++ text := by
  induction text generalizing before lowered with
  | nil => simp [lowerFrom]
  | cons c rest ih =>
      rw [lowerFrom, lowerBetween_of_isSmall (small c List.mem_cons_self)]
      rw [ih fun d member => small d (List.mem_cons_of_mem _ member)]
      simp

theorem lowercase_eq_self (small : ∀ c ∈ text, IsSmall c) : lowercase text = text :=
  lowerFrom_of_isSmall small [] []

end TaskAgent.Text
