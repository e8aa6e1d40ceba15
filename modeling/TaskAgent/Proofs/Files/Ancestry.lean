import TaskAgent.Files.Path

/-!
# Directories above a path

A path is cut at its slashes, and the text of the directory that it lies in is put together again
from the first of its pieces. So that directory is named by a proper beginning of the parts of the
path, starting from the same place (`FilePath.isAbove_of_parentText?`).
-/

namespace TaskAgent.FilePath

variable {text parent : String} {path : FilePath}

/-- The text names a directory on the way to what the path names. -/
structure IsAbove (text : String) (path : FilePath) : Prop where
  absolute_eq : (ofText text).absolute = path.absolute
  parts : (ofText text).parts <+: path.parts
  proper : (ofText text).parts ≠ path.parts

theorem splitFrom_eq (found : List String) (current text : List Char) :
    splitFrom found current text = found.reverse ++
      (List.splitOnPPrepend (· == '/') text current).map String.ofList := by
  induction text generalizing found current with
  | nil => simp [splitFrom]
  | cons c rest ih =>
      by_cases slash : c = '/'
      · subst slash
        simp [splitFrom, ih, List.splitOnPPrepend_cons_pos]
      · simp [splitFrom, ih, List.splitOnPPrepend_cons_neg, slash]

/-- The pieces of a text between slashes. -/
def pieces (text : List Char) : List String := (text.splitOn '/').map String.ofList

theorem splitFrom_eq_pieces (text : List Char) : splitFrom [] [] text = pieces text := by
  simp [splitFrom_eq, pieces, List.splitOn_eq_splitOnP]

theorem ofText_eq (text : String) :
    ofText text =
      ⟨(pieces text.toList).head?.any String.isEmpty && decide (1 < (pieces text.toList).length),
        (pieces text.toList).filter fun piece => !piece.isEmpty,
        decide (1 < (pieces text.toList).length) &&
          (pieces text.toList).getLast?.any String.isEmpty⟩ := by
  simp only [ofText, splitFrom_eq_pieces]

theorem pieces_ne_nil (text : List Char) : pieces text ≠ [] := by
  simp [pieces, List.splitOn_ne_nil]

@[simp]
theorem pieces_nil : pieces [] = [""] := rfl

@[simp]
theorem pieces_slash (rest : List Char) : pieces ('/' :: rest) = "" :: pieces rest := by
  simp [pieces, List.splitOn_cons_eq_if_modifyHead]

theorem pieces_cons {c : Char} (plain : c ≠ '/') (rest : List Char) :
    pieces (c :: rest) = (pieces rest).modifyHead (String.singleton c ++ ·) := by
  rcases List.exists_cons_of_ne_nil (List.splitOn_ne_nil '/' rest) with ⟨piece, others, shape⟩
  simp [pieces, List.splitOn_cons_eq_if_modifyHead, plain, shape]

theorem not_mem_piece {text : List Char} {piece : String} (member : piece ∈ pieces text) :
    '/' ∉ piece.toList := by
  induction text generalizing piece with
  | nil =>
      simp only [pieces_nil, List.mem_singleton] at member
      subst member
      simp
  | cons c rest ih =>
      by_cases slash : c = '/'
      · subst slash
        rw [pieces_slash] at member
        rcases List.mem_cons.mp member with rfl | later
        · simp
        · exact ih later
      · rw [pieces_cons slash] at member
        rcases List.exists_cons_of_ne_nil (pieces_ne_nil rest) with ⟨first, others, shape⟩
        rw [shape] at ih member
        rcases List.mem_cons.mp member with rfl | later
        · have apart := ih List.mem_cons_self
          simp [apart, Ne.symm slash]
        · exact ih (List.mem_cons_of_mem _ later)

/-- Pieces that are put together with slashes are found again. -/
theorem pieces_intercalate {kept : List String} (plain : ∀ piece ∈ kept, '/' ∉ piece.toList)
    (some : kept ≠ []) : pieces ("/".intercalate kept).toList = kept := by
  have cut : ∀ piece ∈ kept.map String.toList, '/' ∉ piece := by simpa using plain
  have shape : kept.map String.toList ≠ [] := by simpa using some
  rw [String.toList_intercalate, pieces]
  change (List.splitOn '/' (['/'].intercalate _)).map _ = _
  rw [List.splitOn_intercalate '/' cut shape]
  simp

theorem reverse_eq_append_idle (pieces : List String) :
    pieces.reverse = (pieces.dropWhile isIdle).reverse ++ (pieces.takeWhile isIdle).reverse := by
  rw [← List.reverse_append, List.takeWhile_append_dropWhile]

/-- What is left of the pieces for the directory above, and what is taken away. -/
theorem parentText?_cases (up : parentText? text = some parent) :
    parent = "" ∨ ∃ kept skipped, pieces (splitStart text.toList).2 = kept ++ skipped ∧
      (∃ piece ∈ skipped, piece.isEmpty = false) ∧
      parent = (splitStart text.toList).1 ++ "/".intercalate kept := by
  simp only [parentText?, splitFrom_eq_pieces] at up
  generalize pieces (splitStart text.toList).2 = all at up ⊢
  split at up
  · next last before cut =>
      right
      have solid : isIdle last = false := by
        have first := List.head?_dropWhile_not isIdle all.reverse
        rw [cut] at first
        exact first
      have whole := reverse_eq_append_idle all.reverse
      rw [List.reverse_reverse, cut, List.reverse_cons, reverse_eq_append_idle before] at whole
      refine ⟨(before.dropWhile isIdle).reverse,
        (before.takeWhile isIdle).reverse ++ last :: (all.reverse.takeWhile isIdle).reverse,
        ?_, ?_, ?_⟩
      · simpa using whole
      · refine ⟨last, ?_, ?_⟩
        · simp
        · simp only [isIdle, Bool.or_eq_false_iff] at solid
          exact solid.1
      · simpa using up.symm
  · split at up
    · left
      simpa using up.symm
    · cases up

/-- The ways in which a text can start. -/
theorem splitStart_cases (text : List Char) :
    (∃ rest, text = '/' :: rest ∧ splitStart text = ("/", rest)) ∨
    (text = ['.'] ∧ splitStart text = (".", [])) ∨
    (∃ rest, text = '.' :: '/' :: rest ∧ splitStart text = (".", '/' :: rest)) ∨
    splitStart text = ("", text) ∧ ∀ rest, text ≠ '/' :: rest := by
  unfold splitStart
  split
  · next rest => exact .inl ⟨rest, rfl, rfl⟩
  · exact .inr (.inl ⟨rfl, rfl⟩)
  · next rest => exact .inr (.inr (.inl ⟨rest, rfl, rfl⟩))
  · next notSlash _ _ =>
      refine .inr (.inr (.inr ⟨rfl, ?_⟩))
      rintro rest rfl
      exact notSlash rest rfl

theorem absolute_of_slash {rest : List Char} (slash : text.toList = '/' :: rest) :
    (ofText text).absolute = true := by
  have more := List.length_pos_iff.mpr (pieces_ne_nil rest)
  simp [ofText_eq, slash, more]

theorem absolute_of_head {first : String} {others : List String}
    (shape : pieces text.toList = first :: others) (solid : first.isEmpty = false) :
    (ofText text).absolute = false := by
  simp only [ofText_eq, shape]
  simp [solid]

theorem head_solid {text : List Char} (relative : ∀ rest, text ≠ '/' :: rest) {first : String}
    (others : List String) (more : others ≠ []) (shape : pieces text = first :: others) :
    first.isEmpty = false := by
  cases text with
  | nil =>
      rw [pieces_nil] at shape
      cases shape
      exact absurd rfl more
  | cons c rest =>
      have plain : c ≠ '/' := by
        rintro rfl
        exact relative rest rfl
      rcases List.exists_cons_of_ne_nil (pieces_ne_nil rest) with ⟨piece, pieces, cut⟩
      rw [pieces_cons plain, cut] at shape
      cases shape
      simp

/-- The parts of a text put together from pieces. -/
theorem filter_pieces_intercalate {kept : List String}
    (plain : ∀ piece ∈ kept, '/' ∉ piece.toList) :
    ((pieces ("/".intercalate kept).toList).filter fun piece => !piece.isEmpty) =
      kept.filter fun piece => !piece.isEmpty := by
  by_cases none : kept = []
  · subst none
    simp
  · rw [pieces_intercalate plain none]

theorem isAbove_of_pieces {kept skipped : List String}
    (absolute_eq : (ofText parent).absolute = (ofText text).absolute)
    (parts : (ofText parent).parts = kept.filter fun piece => !piece.isEmpty)
    (whole : pieces text.toList = kept ++ skipped)
    (more : ∃ piece ∈ skipped, piece.isEmpty = false) : IsAbove parent (ofText text) := by
  have longer : (ofText text).parts = (ofText parent).parts ++
      skipped.filter fun piece => !piece.isEmpty := by
    rw [parts, ← List.filter_append, ← whole, ofText_eq]
  refine ⟨absolute_eq, ⟨_, longer.symm⟩, ?_⟩
  intro same
  rw [longer] at same
  rcases more with ⟨piece, member, solid⟩
  have taken := List.filter_eq_nil_iff.mp (List.self_eq_append_right.mp same)
  exact taken piece member (by simp [solid])

section

variable {kept skipped : List String} {rest : List Char}
  (plain : ∀ piece ∈ kept, '/' ∉ piece.toList) (more : ∃ piece ∈ skipped, piece.isEmpty = false)

include plain more

theorem isAbove_of_slash (shape : text.toList = '/' :: rest)
    (whole : pieces rest = kept ++ skipped) :
    IsAbove ("/" ++ "/".intercalate kept) (ofText text) := by
  have slash : ("/" ++ "/".intercalate kept).toList = '/' :: ("/".intercalate kept).toList := by
    simp
  have cut : pieces text.toList = ("" :: kept) ++ skipped := by
    rw [shape, pieces_slash, whole, List.cons_append]
  refine isAbove_of_pieces ?_ ?_ cut more
  · rw [absolute_of_slash slash, absolute_of_slash shape]
  · simp only [ofText_eq, slash, pieces_slash]
    simpa using filter_pieces_intercalate plain

theorem isAbove_of_dot (shape : text.toList = '.' :: '/' :: rest)
    (whole : "" :: pieces rest = kept ++ skipped) :
    IsAbove ("." ++ "/".intercalate kept) (ofText text) := by
  have dot : pieces text.toList = ["."] ++ pieces rest := by
    rw [shape, pieces_cons (by decide), pieces_slash]
    rfl
  cases kept with
  | nil =>
      have alone : pieces ("." ++ "/".intercalate []).toList = ["."] := by
        simp
        rfl
      refine isAbove_of_pieces ?_ ?_ dot ?_
      · rw [absolute_of_head alone rfl, absolute_of_head dot rfl]
      · simp only [ofText_eq, alone]
      · rcases more with ⟨piece, member, solid⟩
        refine ⟨piece, ?_, solid⟩
        rw [← List.nil_append skipped, ← whole] at member
        rcases List.mem_cons.mp member with rfl | later
        · cases solid
        · exact later
  | cons first others =>
      rw [List.cons_append, List.cons.injEq] at whole
      rcases whole with ⟨rfl, whole⟩
      have dotted : ("." ++ "/".intercalate ("" :: others)).toList =
          '.' :: ("/".intercalate ("" :: others)).toList := by
        simp
      have joined : pieces ("." ++ "/".intercalate ("" :: others)).toList = "." :: others := by
        rw [dotted, pieces_cons (by decide), pieces_intercalate plain (List.cons_ne_nil _ _)]
        rfl
      have cut : pieces text.toList = ("." :: others) ++ skipped := by
        rw [dot, whole]
        rfl
      refine isAbove_of_pieces ?_ ?_ cut more
      · rw [absolute_of_head joined rfl, absolute_of_head cut rfl]
      · simp only [ofText_eq, joined]

theorem isAbove_of_relative (relative : ∀ rest, text.toList ≠ '/' :: rest) (someKept : kept ≠ [])
    (whole : pieces text.toList = kept ++ skipped) :
    IsAbove ("/".intercalate kept) (ofText text) := by
  have joined := pieces_intercalate plain someKept
  refine isAbove_of_pieces ?_ ?_ whole more
  · rcases List.exists_cons_of_ne_nil someKept with ⟨first, others, rfl⟩
    have solid : first.isEmpty = false := by
      rcases more with ⟨piece, member, -⟩
      apply head_solid relative (others ++ skipped)
      · simp [List.ne_nil_of_mem member]
      · exact whole
    rw [absolute_of_head joined solid, absolute_of_head whole solid]
  · simp only [ofText_eq, joined]

end

/-- The text of the directory that a path lies in names a directory above it. -/
theorem isAbove_of_parentText? (up : parentText? text = some parent)
    (named : parent.isEmpty = false) : IsAbove parent (ofText text) := by
  rcases parentText?_cases up with rfl | ⟨kept, skipped, whole, more, rfl⟩
  · simp at named
  have plain : ∀ piece ∈ kept, '/' ∉ piece.toList := by
    intro piece member
    apply not_mem_piece
    rw [whole]
    exact List.mem_append_left skipped member
  rcases splitStart_cases text.toList with
    ⟨rest, shape, start⟩ | ⟨-, start⟩ | ⟨rest, shape, start⟩ | ⟨start, relative⟩
  · rw [start] at whole ⊢
    exact isAbove_of_slash plain more shape whole
  · rw [start, pieces_nil] at whole
    rcases more with ⟨piece, member, solid⟩
    have blank : piece ∈ [""] := by
      rw [whole]
      exact List.mem_append_right kept member
    simp only [List.mem_singleton] at blank
    simp [blank] at solid
  · rw [start, pieces_slash] at whole
    rw [start]
    exact isAbove_of_dot plain more shape whole
  · rw [start] at whole named ⊢
    rw [String.empty_append] at named ⊢
    apply isAbove_of_relative plain more relative
    · rintro rfl
      simp at named
    · exact whole

/-- What lies above a directory above a path lies above the path. -/
theorem IsAbove.up (above : IsAbove text path) (up : parentText? text = some parent)
    (named : parent.isEmpty = false) : IsAbove parent path := by
  rcases isAbove_of_parentText? up named with ⟨absolute_eq, parts, proper⟩
  refine ⟨absolute_eq.trans above.absolute_eq, parts.trans above.parts, ?_⟩
  intro same
  apply proper
  apply parts.eq_of_length_le
  rw [same]
  exact above.parts.length_le

end TaskAgent.FilePath
