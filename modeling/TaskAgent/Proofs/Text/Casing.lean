import TaskAgent.Text.Alphanumeric
import TaskAgent.Text.Blank
import TaskAgent.Text.Casing

/-!
# What the tables say about small letters

The tables are gone through rule by rule and range by range, not character by character: the small
letters of a rule lie together in one range of letters, and no capital is among them. So a small
letter is no capital again (`lowerPoint_lowerPoint`). In the same way, no letter or number is blank
(`isBlank_eq_false`).
-/

namespace TaskAgent.Text

/-! ### Ranges -/

namespace CodePoints

variable {points : CodePoints} {range : Nat × Nat} {bound point : Nat}

theorem exists_of_holds (held : points.holds point = true) :
    ∃ range ∈ points, range.1 ≤ point ∧ point ≤ range.2 := by
  induction points with
  | nil => simp [holds] at held
  | cons range rest ih =>
      simp only [holds] at held
      split at held
      · simp at held
      · split at held
        · exact ⟨range, List.mem_cons_self, by omega, by omega⟩
        · rcases ih held with ⟨other, member, inside⟩
          exact ⟨other, List.mem_cons_of_mem _ member, inside⟩

/-- Whether the ranges follow each other above a code point, none of them empty. -/
def follows : CodePoints → Nat → Bool
  | [], _ => true
  | (first, last) :: rest, bound => Nat.blt bound first && Nat.ble first last && follows rest last

theorem lt_of_follows (follow : points.follows bound = true) (member : range ∈ points) :
    bound < range.1 := by
  induction points generalizing bound with
  | nil => simp at member
  | cons head rest ih =>
      simp only [follows, Bool.and_eq_true, Nat.blt_eq, Nat.ble_eq] at follow
      rcases List.mem_cons.mp member with rfl | later
      · exact follow.1.1
      · have above := ih follow.2 later
        omega

theorem holds_of_mem (follow : points.follows bound = true) (member : range ∈ points)
    (above : range.1 ≤ point) (below : point ≤ range.2) : points.holds point = true := by
  induction points generalizing bound with
  | nil => simp at member
  | cons head rest ih =>
      simp only [follows, Bool.and_eq_true, Nat.blt_eq, Nat.ble_eq] at follow
      simp only [holds]
      rcases List.mem_cons.mp member with rfl | later
      · simp [below, Nat.not_lt.mpr above]
      · have beyond := lt_of_follows follow.2 later
        rw [if_neg (by omega), if_neg (by omega)]
        exact ih follow.2 later

/-- Whether no range of one set meets a range of the other. -/
def isApart (points others : CodePoints) : Bool :=
  points.all fun range => others.all fun other => Nat.blt range.2 other.1 || Nat.blt other.2 range.1

theorem holds_eq_false_of_isApart {others : CodePoints} (apart : points.isApart others = true)
    (held : others.holds point = true) : points.holds point = false := by
  apply Bool.eq_false_iff.mpr
  intro meets
  rcases exists_of_holds meets with ⟨range, member, inside⟩
  rcases exists_of_holds held with ⟨other, memberOther, insideOther⟩
  simp only [isApart, List.all_eq_true, Bool.or_eq_true, Nat.blt_eq] at apart
  have disjoint := apart range member other memberOther
  omega

end CodePoints

set_option maxRecDepth 4000 in
theorem follows_alphanumericPoints : alphanumericPoints.follows 0 = true := by decide +kernel

theorem isApart_blankPoints : blankPoints.isApart alphanumericPoints = true := by decide +kernel

/-- No letter or number is blank. -/
theorem isBlank_eq_false {c : Char} (alphanumeric : isAlphanumeric c = true) :
    isBlank c = false :=
  CodePoints.holds_eq_false_of_isApart isApart_blankPoints alphanumeric

/-! ### Rules -/

namespace CaseRule

variable {rule other : CaseRule} {point : Nat}

/-- The code point is one of the capitals of the rule. -/
def Takes (rule : CaseRule) (point : Nat) : Prop :=
  rule.first ≤ point ∧ point ≤ rule.last ∧ (point - rule.first) % rule.stride = 0

instance (rule : CaseRule) (point : Nat) : Decidable (rule.Takes point) :=
  inferInstanceAs (Decidable (_ ∧ _ ∧ _))

/-- The small letter of the last capital. -/
def top (rule : CaseRule) : Nat := rule.target + (rule.last - rule.first)

/-- Whether the small letters lie together in one range of the set. -/
def isWithin (points : CodePoints) (rule : CaseRule) : Bool :=
  points.any fun range => Nat.ble range.1 rule.target && Nat.ble rule.top range.2

/-- Whether the small letters of one rule are no capitals of the other: they lie apart, or every
second place is taken, and not the same ones. -/
def isClear (other rule : CaseRule) : Bool :=
  Nat.blt other.last rule.target || Nat.blt rule.top other.first ||
    (Nat.beq other.stride 2 && (Nat.beq rule.stride 2 || Nat.beq rule.first rule.last) &&
      Nat.beq ((rule.target + other.first) % 2) 1)

theorem not_takes_of_isClear (clear : isClear other rule = true) (taken : rule.Takes point) :
    ¬other.Takes (rule.target + (point - rule.first)) := by
  rintro ⟨above, below, strides⟩
  rcases taken with ⟨aboveOwn, belowOwn, stridesOwn⟩
  simp only [isClear, top, Bool.or_eq_true, Bool.and_eq_true, Nat.blt_eq, Nat.beq_eq] at clear
  rcases clear with (before | after) | ⟨⟨stride, ownStride | single⟩, odd⟩
  · omega
  · omega
  · rw [ownStride] at stridesOwn
    rw [stride] at strides
    omega
  · rw [stride] at strides
    omega

theorem holds_of_isWithin {points : CodePoints} {bound : Nat} (follow : points.follows bound = true)
    (within : isWithin points rule = true) (taken : rule.Takes point) :
    points.holds (rule.target + (point - rule.first)) = true := by
  rcases taken with ⟨above, below, -⟩
  simp only [isWithin, top, List.any_eq_true, Bool.and_eq_true, Nat.ble_eq] at within
  rcases within with ⟨range, member, first, last⟩
  exact CodePoints.holds_of_mem follow member (by omega) (by omega)

end CaseRule

variable {rules : List CaseRule} {point : Nat}

theorem lowerPoint_cases (rules : List CaseRule) (point : Nat) :
    lowerPoint rules point = point ∨
      ∃ rule ∈ rules, rule.Takes point ∧
        lowerPoint rules point = rule.target + (point - rule.first) := by
  induction rules with
  | nil => exact Or.inl rfl
  | cons rule rest ih =>
      simp only [lowerPoint]
      split
      · exact Or.inl rfl
      · next above =>
          split
          · next inside => exact Or.inr ⟨rule, List.mem_cons_self, ⟨by omega, inside⟩, rfl⟩
          · rcases ih with same | ⟨other, member, taken⟩
            · exact Or.inl same
            · exact Or.inr ⟨other, List.mem_cons_of_mem _ member, taken⟩

theorem lowerPoint_eq_self (free : ∀ rule ∈ rules, ¬rule.Takes point) :
    lowerPoint rules point = point := by
  rcases lowerPoint_cases rules point with same | ⟨rule, member, taken, -⟩
  · exact same
  · exact absurd taken (free rule member)

/-! ### The rules of the standard -/

/-- The capital whose small letter is no single character, as if it had one. -/
def dottedRule : CaseRule := ⟨0x130, 0x130, 1, 0x69⟩

theorem isWithin_caseRules :
    caseRules.all (CaseRule.isWithin alphanumericPoints) = true := by decide +kernel

theorem isClear_caseRules :
    (caseRules.all fun rule =>
      dottedRule.isClear rule && caseRules.all fun other => other.isClear rule) = true := by
  decide +kernel

/-- The small letters are code points of characters. -/
theorem isValidChar_caseRules :
    (caseRules.all fun rule => Nat.blt rule.top 0xd800 ||
      Nat.blt 0xdfff rule.target && Nat.blt rule.top 0x110000) = true := by decide +kernel

theorem lowerPoint_lowerPoint (point : Nat) :
    lowerPoint caseRules (lowerPoint caseRules point) = lowerPoint caseRules point := by
  rcases lowerPoint_cases caseRules point with same | ⟨rule, member, taken, small⟩
  · rw [same, same]
  · rw [small]
    apply lowerPoint_eq_self
    intro other memberOther
    have clear := List.all_eq_true.mp isClear_caseRules rule member
    simp only [Bool.and_eq_true, List.all_eq_true] at clear
    exact CaseRule.not_takes_of_isClear (clear.2 other memberOther) taken

end TaskAgent.Text
