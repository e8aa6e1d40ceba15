import TaskAgent.Text.Blank
import TaskAgent.Text.Lines

/-!
# The words of a text and of its lines

Words are read character by character. They are the pieces of the text between blank characters that
are not empty (`Text.words_eq_tokens`). So a text that falls into two at a blank character has the
words of the first part and then those of the second (`Text.tokens_append_cons`). The characters
that end a line are blank, and therefore the words of a text are those of its lines, in order,
whatever ends the lines and whether or not the last one is ended (`Text.flatMap_tokens_lines`).
-/

namespace TaskAgent.Text

/-- The pieces of a text between blank characters, but for the empty ones. -/
def tokens (text : List Char) : List (List Char) :=
  (text.splitOnP isBlank).filter fun token => !token.isEmpty

theorem wordsFrom_eq (found : List (List Char)) (current text : List Char) :
    wordsFrom found current text = found.reverse ++
      (List.splitOnPPrepend isBlank text current).filter fun token => !token.isEmpty := by
  induction text generalizing found current with
  | nil =>
      rw [wordsFrom, closeWord, List.splitOnPPrepend_nil]
      cases current <;> simp
  | cons c rest ih =>
      rw [wordsFrom]
      split
      · next blank =>
          rw [ih, List.splitOnPPrepend_cons_pos blank, closeWord, List.splitOnPPrepend_nil_right]
          cases current <;> simp
      · next solid => rw [ih, List.splitOnPPrepend_cons_neg (by simpa using solid)]

theorem words_eq_tokens (text : List Char) : words text = tokens text := by
  rw [words, wordsFrom_eq, List.splitOnPPrepend_nil_right]
  rfl

@[simp]
theorem tokens_nil : tokens [] = [] := rfl

/-- A blank character keeps the words before it apart from those after it. -/
theorem tokens_append_cons {c : Char} (blank : isBlank c = true) (before after : List Char) :
    tokens (before ++ c :: after) = tokens before ++ tokens after := by
  rw [tokens, List.splitOnP_append_cons before after blank, List.filter_append]
  rfl

/-- A piece without blank characters is one word. -/
theorem tokens_of_solid {piece : List Char} (someChar : piece ≠ [])
    (solid : ∀ c ∈ piece, isBlank c = false) : tokens piece = [piece] := by
  rw [tokens, List.splitOnP_eq_singleton solid]
  simp [someChar]

/-- What is not blank stands in a word. -/
theorem exists_mem_tokens_iff {c : Char} {text : List Char} (solid : isBlank c = false) :
    (∃ token ∈ tokens text, c ∈ token) ↔ c ∈ text := by
  have pieces : c ∈ (text.splitOnP isBlank).flatten ↔ c ∈ text := by
    induction text with
    | nil => simp [List.splitOnP_nil]
    | cons d rest ih =>
        rw [List.splitOnP_cons_eq_if_modifyHead, List.mem_cons, ← ih]
        split
        · next blank =>
            have differs : c ≠ d := by
              rintro rfl
              simp [solid] at blank
            simp [differs]
        · rcases List.exists_cons_of_ne_nil (List.splitOnP_ne_nil isBlank rest) with
            ⟨piece, others, shape⟩
          simp [shape]
  rw [← pieces, List.mem_flatten]
  apply exists_congr
  intro token
  simp only [tokens, List.mem_filter, Bool.not_eq_true', List.isEmpty_eq_false_iff]
  constructor
  · rintro ⟨⟨member, -⟩, inside⟩
    exact ⟨member, inside⟩
  · rintro ⟨member, inside⟩
    exact ⟨⟨member, List.ne_nil_of_mem inside⟩, inside⟩

/-! ### Lines -/

/-- The lines of a text. -/
def lines (text : List Char) : List (List Char) := linesWith '\n' '\r' text

/-- The lines are the pieces between line feeds, but for the last piece if nothing is in it. -/
theorem linesWith_eq {α : Type} [BEq α] (lineFeed carriageReturn : α) (items : List α) :
    ∃ before last, items.splitOn lineFeed = before ++ [last] ∧
      linesWith lineFeed carriageReturn items =
        before.map (endedLine carriageReturn) ++ [last].filter fun piece => !piece.isEmpty := by
  have some := List.splitOn_ne_nil lineFeed items
  refine ⟨_, _, (List.dropLast_concat_getLast some).symm, ?_⟩
  rw [linesWith, List.getLast?_eq_some_getLast some]
  rfl

theorem tokens_intercalate (pieces : List (List Char)) :
    tokens (['\n'].intercalate pieces) = pieces.flatMap tokens := by
  induction pieces with
  | nil => rfl
  | cons piece rest ih =>
      cases rest with
      | nil => simp
      | cons next others =>
          have joined : ['\n'].intercalate (piece :: next :: others) =
              piece ++ '\n' :: ['\n'].intercalate (next :: others) := by
            simp [List.intercalate]
          rw [joined, tokens_append_cons rfl, ih]
          rfl

theorem tokens_endedLine (piece : List Char) : tokens (endedLine '\r' piece) = tokens piece := by
  rw [endedLine]
  split
  · next returned =>
      rcases List.getLast?_eq_some_iff.mp (eq_of_beq returned) with ⟨before, rfl⟩
      rw [List.dropLast_concat, tokens_append_cons rfl, tokens_nil, List.append_nil]
  · rfl

/-- Reading line by line finds the words of the whole text. -/
theorem flatMap_tokens_lines (text : List Char) : (lines text).flatMap tokens = tokens text := by
  rcases linesWith_eq '\n' '\r' text with ⟨before, last, pieces, cut⟩
  have ends : ([last].filter fun piece => !piece.isEmpty).flatMap tokens = tokens last := by
    cases last <;> simp
  calc (lines text).flatMap tokens
      = (before.map (endedLine '\r')).flatMap tokens ++ tokens last := by
        rw [lines, cut, List.flatMap_append, ends]
    _ = before.flatMap tokens ++ tokens last := by
        simp only [List.flatMap_map, tokens_endedLine]
    _ = (text.splitOn '\n').flatMap tokens := by
        rw [pieces, List.flatMap_append, List.flatMap_singleton]
    _ = tokens text := by
        rw [← tokens_intercalate, List.intercalate_splitOn]

end TaskAgent.Text
