import TaskAgent.Files.Lines
import TaskAgent.Proofs.Text.Words

/-!
# The lines of an encoded text

A byte below 128 stands in the encoding of a text only where the text has the character of that
number. The marks that end a line are such characters. So a file that holds an encoded text can be
cut into lines before it is decoded, and what every line decodes to is the line of the text
(`FileNode.lines_toUTF8`).
-/

namespace TaskAgent.FileNode

theorem loop_toList (content : ByteArray) (position : Nat) (found : List UInt8) :
    ByteArray.toList.loop content position found =
      found.reverse ++ content.data.toList.drop position := by
  fun_induction ByteArray.toList.loop content position found with
  | case1 position found inside ih =>
      have here : content.get! position = content.data.toList[position] :=
        getElem!_pos content.data position inside
      rw [ih, List.drop_eq_getElem_cons inside, here]
      simp
  | case2 position found outside =>
      rw [List.drop_eq_nil_of_le (by simpa using Nat.le_of_not_lt outside)]
      simp

theorem toList_eq (content : ByteArray) : content.toList = content.data.toList := by
  rw [ByteArray.toList, loop_toList]
  rfl

/-! ### Encoded texts -/

/-- The bytes that encode characters. -/
def encoded (text : List Char) : List UInt8 := text.flatMap String.utf8EncodeChar

theorem toList_toUTF8 (text : String) : text.toUTF8.toList = encoded text.toList := by
  rw [toList_eq, String.toUTF8, ← String.utf8Encode_toList, List.utf8Encode,
    List.toList_data_toByteArray]
  rfl

/-- In the encoding of a character, a byte below 128 stands for itself. -/
theorem toNat_eq_of_mem {c : Char} {byte : UInt8} (member : byte ∈ String.utf8EncodeChar c)
    (small : byte.toNat < 128) : c.toNat = byte.toNat := by
  have value : c.toNat = c.val.toNat := rfl
  rw [value]
  simp only [String.utf8EncodeChar] at member
  generalize c.val.toNat = point at member ⊢
  split at member
  · rw [List.mem_singleton.mp member, UInt8.toNat_ofNat']
    omega
  · -- Every other encoding sets the highest bit of all its bytes.
    exfalso
    split at member
    · simp only [List.mem_cons, List.not_mem_nil, or_false] at member
      rcases member with rfl | rfl <;> rw [UInt8.toNat_ofNat'] at small <;> omega
    · split at member
      · simp only [List.mem_cons, List.not_mem_nil, or_false] at member
        rcases member with rfl | rfl | rfl <;> rw [UInt8.toNat_ofNat'] at small <;> omega
      · simp only [List.mem_cons, List.not_mem_nil, or_false] at member
        rcases member with rfl | rfl | rfl | rfl <;> rw [UInt8.toNat_ofNat'] at small <;> omega

/-- The character is encoded by one byte below 128. -/
structure IsMark (mark : Char) (byte : UInt8) : Prop where
  encodes : String.utf8EncodeChar mark = [byte]
  small : byte.toNat < 128

theorem isMark_lineFeed : IsMark '\n' lineFeed := ⟨by decide, by decide⟩

theorem isMark_carriageReturn : IsMark '\r' carriageReturn := ⟨by decide, by decide⟩

variable {mark : Char} {byte : UInt8}

/-- No other character has the byte of a mark in its encoding. -/
theorem IsMark.eq_of_mem (isMark : IsMark mark byte) {c : Char}
    (member : byte ∈ String.utf8EncodeChar c) : c = mark := by
  have own : mark.toNat = byte.toNat := toNat_eq_of_mem (by simp [isMark.encodes]) isMark.small
  exact Char.toNat_inj.mp ((toNat_eq_of_mem member isMark.small).trans own.symm)

theorem splitOn_append {leading : List UInt8} (absent : byte ∉ leading) (rest : List UInt8) :
    (leading ++ rest).splitOn byte = (rest.splitOn byte).modifyHead (leading ++ ·) := by
  induction leading with
  | nil => cases cut : rest.splitOn byte <;> simp [cut]
  | cons item others ih =>
      rcases not_or.mp (mt List.mem_cons.mpr absent) with ⟨differs, absent⟩
      have apart : (item == byte) = false := beq_false_of_ne (Ne.symm differs)
      rw [List.cons_append, List.splitOn_cons_eq_if_modifyHead, apart, ih absent]
      cases rest.splitOn byte <;> rfl

theorem splitOn_encoded (isMark : IsMark mark byte) (text : List Char) :
    (encoded text).splitOn byte = (text.splitOn mark).map encoded := by
  induction text with
  | nil => rfl
  | cons c rest ih =>
      rw [encoded, List.flatMap_cons, ← encoded, List.splitOn_cons_eq_if_modifyHead]
      split
      · next marked =>
          rw [eq_of_beq marked, isMark.encodes, List.cons_append, List.nil_append,
            List.splitOn_cons_eq_if_modifyHead, if_pos (beq_self_eq_true byte), ih]
          rfl
      · next other =>
          have absent : byte ∉ String.utf8EncodeChar c := fun member =>
            other (beq_iff_eq.mpr (isMark.eq_of_mem member))
          rw [splitOn_append absent, ih]
          cases rest.splitOn mark <;> rfl

theorem endedLine_encoded (isMark : IsMark mark byte) (piece : List Char) :
    Text.endedLine byte (encoded piece) = encoded (Text.endedLine mark piece) := by
  rcases List.eq_nil_or_concat piece with rfl | ⟨before, c, rfl⟩
  · rfl
  · have whole : encoded (before ++ [c]) = encoded before ++ String.utf8EncodeChar c := by
      simp [encoded]
    rw [Text.endedLine, Text.endedLine, List.concat_eq_append, List.getLast?_concat, whole]
    by_cases marked : c = mark
    · subst marked
      rw [isMark.encodes]
      simp
    · have kept : (encoded before ++ String.utf8EncodeChar c).getLast? ≠ some byte := by
        rw [List.getLast?_append, List.getLast?_eq_some_getLast String.utf8EncodeChar_ne_nil]
        exact fun last => marked (isMark.eq_of_mem (Option.some.inj last ▸ List.getLast_mem _))
      rw [if_neg (by simpa using kept), if_neg (by simpa using marked), whole]

/-- Cutting into lines and encoding can be done in either order. -/
theorem linesWith_encoded (text : List Char) :
    Text.linesWith lineFeed carriageReturn (encoded text) = (Text.lines text).map encoded := by
  rw [Text.lines, Text.linesWith, Text.linesWith, splitOn_encoded isMark_lineFeed]
  simp only [List.map_append, ← List.map_dropLast, List.getLast?_map, List.map_map]
  congr 1
  · exact List.map_congr_left fun piece _ => endedLine_encoded isMark_carriageReturn piece
  · cases (text.splitOn '\n').getLast? with
    | none => rfl
    | some last =>
        have blank : (encoded last).isEmpty = last.isEmpty := by
          cases last <;> simp [encoded]
        cases empty : last.isEmpty <;> simp [blank, empty]

theorem lineText_encoded (line : List Char) :
    lineText (encoded line) = .ok (String.ofList line) := by
  have bytes : (⟨(encoded line).toArray⟩ : ByteArray) = (String.ofList line).toByteArray := by
    rw [String.toByteArray_ofList, List.utf8Encode]
    exact ByteArray.ext List.data_toByteArray.symm
  rw [lineText, bytes, String.fromUTF8?, dif_pos (String.ofList line).isValidUTF8]
  rfl

/-- The lines of a file that holds a text are the lines of the text. -/
theorem lines_toUTF8 (text : String) :
    (file text.toUTF8).lines =
      (Text.lines text.toList).map fun line => .ok (String.ofList line) := by
  rw [lines, lineBytes, toList_toUTF8, linesWith_encoded, List.map_map]
  exact List.map_congr_left fun line _ => lineText_encoded line

end TaskAgent.FileNode
