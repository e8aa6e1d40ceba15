import Mathlib.Data.List.Forall2
import Mathlib.Tactic.SplitIfs
import TaskAgent.Json.Printer
import TaskAgent.Json.Reader

/-!
# Printed texts

A printed text is read back as it was (`readText_printedText`). Its characters come back as
pieces: a control character without a short escape as a unit of 16 bits, everything else as
itself. The units are too small to be halves of surrogate pairs, so joining the pieces gives the
characters again.
-/

namespace TaskAgent.Json

/-- What a piece of a text stands for when it stands for a character alone. -/
inductive Piece.StandsFor : Piece → Char → Prop where
  | char (c : Char) : StandsFor (.char c) c
  | control {c : Char} (small : c.toNat < 0x20) : StandsFor (.unit c.toNat) c

theorem unit?_hexDigit {value : Nat} (small : value < 0x20) :
    unit? '0' '0' (hexDigit (value / 16)) (hexDigit value) = some value := by
  revert value
  decide

theorem readPieces_of_plain {c : Char} (noQuote : c ≠ '"') (noBackslash : c ≠ '\\')
    (noControl : ¬ c.toNat < 0x20) (found : List Piece) (rest : List Char) :
    readPieces found (c :: rest) = readPieces (.char c :: found) rest := by
  have taken : ¬ (c.toNat < 0x20 ∨ c = '\\') := by simp [noControl, noBackslash]
  rw [readPieces, if_neg taken]
  · exact noQuote
  · intro _ _ _ _ _ same
    exact absurd same noBackslash
  · intro _ _ same
    exact absurd same noBackslash

/-- A printed character is read as one piece that stands for it. -/
theorem exists_readPieces_printedChar (c : Char) :
    ∃ piece, Piece.StandsFor piece c ∧ ∀ found rest,
      readPieces found (printedChar c ++ rest) = readPieces (piece :: found) rest := by
  unfold printedChar
  split_ifs with quote backslash newline carriage tab backspace feed control
  · exact ⟨.char '"', quote ▸ .char _, fun _ _ => rfl⟩
  · exact ⟨.char '\\', backslash ▸ .char _, fun _ _ => rfl⟩
  · exact ⟨.char '\n', newline ▸ .char _, fun _ _ => rfl⟩
  · exact ⟨.char '\r', carriage ▸ .char _, fun _ _ => rfl⟩
  · exact ⟨.char '\t', tab ▸ .char _, fun _ _ => rfl⟩
  · exact ⟨.char '\x08', backspace ▸ .char _, fun _ _ => rfl⟩
  · exact ⟨.char '\x0c', feed ▸ .char _, fun _ _ => rfl⟩
  · refine ⟨.unit c.toNat, .control control, fun found rest => ?_⟩
    simp only [List.cons_append, List.nil_append, readPieces, unit?_hexDigit control]
  · exact ⟨.char c, .char c, readPieces_of_plain quote backslash control⟩

theorem exists_readPieces_flatMap (text : List Char) :
    ∃ pieces, List.Forall₂ Piece.StandsFor pieces text ∧ ∀ found rest,
      readPieces found (text.flatMap printedChar ++ '"' :: rest) =
        some (found.reverse ++ pieces, rest) := by
  induction text with
  | nil => exact ⟨[], .nil, fun found rest => by simp [readPieces]⟩
  | cons c others ih =>
      rcases exists_readPieces_printedChar c with ⟨piece, stands, read⟩
      rcases ih with ⟨pieces, standing, readOthers⟩
      refine ⟨piece :: pieces, .cons stands standing, fun found rest => ?_⟩
      rw [List.flatMap_cons, List.append_assoc, read, readOthers]
      simp

theorem joinPieces_control {c : Char} (small : c.toNat < 0x20) (found : List Char)
    (pieces : List Piece) :
    joinPieces found (.unit c.toNat :: pieces) = joinPieces (c :: found) pieces := by
  have leading : isLeading c.toNat = false := by simp [isLeading]; omega
  have trailing : isTrailing c.toNat = false := by simp [isTrailing]; omega
  rcases pieces with _ | ⟨_ | _, pieces⟩ <;>
    simp [joinPieces, leading, trailing, Char.ofNat_toNat]

theorem joinPieces_of_standsFor {pieces : List Piece} {text : List Char}
    (stand : List.Forall₂ Piece.StandsFor pieces text) (found : List Char) :
    joinPieces found pieces = some (found.reverse ++ text) := by
  induction stand generalizing found with
  | nil => simp [joinPieces]
  | cons head _ ih =>
      cases head with
      | char c => rw [joinPieces, ih]; simp
      | control small => rw [joinPieces_control small, ih]; simp

/-- A printed text is read back, whatever stands after its closing quote. -/
theorem readText_printedText (text : String) (rest : List Char) :
    readText (text.toList.flatMap printedChar ++ '"' :: rest) = some (some text, rest) := by
  rcases exists_readPieces_flatMap text.toList with ⟨pieces, stand, read⟩
  simp [readText, read, joinPieces_of_standsFor stand]

end TaskAgent.Json
