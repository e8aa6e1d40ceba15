import TaskAgent.Proofs.Job.NormalForm
import TaskAgent.Proofs.Json.Integer

/-!
# Reading written counts back

A file with counts is split at its line feeds, and each line at its comma. Nothing marks where a
word ends but the comma, and nothing where a line ends but the line feed: neither stands in the
normal form of a word. So what was written is read back, with no line left over
(`WordCount.ofText?_text`), and two tallies are never written alike.
-/

namespace TaskAgent.WordCount

open Text

variable {word : String} {line : List Char} {counts : Counts}

/-- The word and the count that a line holds on the two sides of its only comma. -/
def ofLine? (line : List Char) : Option (String × Nat) :=
  match line.splitOn ',' with
  | [word, digits] =>
    if !digits.isEmpty && digits.all Char.isDigit then
      some (String.ofList word, Nat.ofDigitChars 10 digits 0)
    else none
  | _ => none

/-- The entries that a text holds, one on each line; every line has to be ended. -/
def ofLines? (text : List Char) : Option (List (String × Nat)) :=
  match (text.splitOn '\n').reverse with
  | [] :: lines => lines.reverse.mapM ofLine?
  | _ => none

/-- The counts that a text holds. -/
def Counts.ofText? (text : String) : Option Counts := (ofLines? text.toList).map Ledger.ofList

/-- The counts that a file holds. -/
def Counts.ofFile? (content : ByteArray) : Option Counts :=
  (String.fromUTF8? content).bind Counts.ofText?

/-- Neither of the two marks of the format stands in the word. -/
structure IsUnmarked (word : String) : Prop where
  comma : ',' ∉ word.toList
  lineFeed : '\n' ∉ word.toList

/-! ### Lines -/

/-- What a line says before its line feed. -/
def row (entry : String × Nat) : List Char :=
  entry.1.toList ++ ',' :: Nat.toDigits 10 entry.2

theorem toList_text (counts : Counts) :
    counts.text.toList = (counts.entries.map row).flatMap (· ++ ['\n']) := by
  simp [Counts.text, WordCount.line, row, String.toList_join, List.flatMap_map]

theorem not_mem_toDigits {c : Char} (other : c.isDigit = false) (count : Nat) :
    c ∉ Nat.toDigits 10 count := by
  intro member
  simp [Json.isDigit_toDigits count c member] at other

theorem ofLine?_row (unmarked : IsUnmarked word) (count : Nat) :
    ofLine? (row (word, count)) = some (word, count) := by
  have cut : (row (word, count)).splitOn ',' = [word.toList, Nat.toDigits 10 count] := by
    rw [row, List.splitOn_append_cons_self_of_not_mem unmarked.comma,
      List.splitOn_eq_singleton (not_mem_toDigits (by decide) count)]
  have digits : (Nat.toDigits 10 count).all Char.isDigit = true :=
    List.all_eq_true.mpr (Json.isDigit_toDigits count)
  simp [ofLine?, cut, digits, Nat.ofDigitChars_ten_toDigits]

/-- Lines without line feeds of their own, each ended by one, are the pieces between the line feeds,
and nothing follows the last one. -/
theorem splitOn_flatMap {lines : List (List Char)} (clean : ∀ line ∈ lines, '\n' ∉ line) :
    (lines.flatMap (· ++ ['\n'])).splitOn '\n' = lines ++ [[]] := by
  induction lines with
  | nil => simp
  | cons line rest ih =>
      rw [List.flatMap_cons, List.append_assoc, List.singleton_append,
        List.splitOn_append_cons_self_of_not_mem (clean line List.mem_cons_self),
        ih fun other member => clean other (List.mem_cons_of_mem _ member)]
      rfl

theorem mapM_row {entries : List (String × Nat)}
    (unmarked : ∀ entry ∈ entries, IsUnmarked entry.1) :
    (entries.map row).mapM ofLine? = some entries := by
  induction entries with
  | nil => rfl
  | cons entry rest ih =>
      have first := ofLine?_row (unmarked entry List.mem_cons_self) entry.2
      have others := ih fun other member => unmarked other (List.mem_cons_of_mem _ member)
      simp [List.mapM_cons, first, others]

theorem ofLines?_text (unmarked : ∀ word ∈ counts.keys, IsUnmarked word) :
    ofLines? counts.text.toList = some counts.entries := by
  have each : ∀ entry ∈ counts.entries, IsUnmarked entry.1 :=
    fun entry member => unmarked entry.1 (List.mem_map_of_mem member)
  have clean : ∀ line ∈ counts.entries.map row, '\n' ∉ line := by
    simp only [List.forall_mem_map]
    intro entry member
    simp [row, (each entry member).lineFeed, not_mem_toDigits]
  rw [ofLines?, toList_text, splitOn_flatMap clean]
  simp [mapM_row each]

theorem ofText?_text (unmarked : ∀ word ∈ counts.keys, IsUnmarked word) :
    Counts.ofText? counts.text = some counts := by
  rw [Counts.ofText?, ofLines?_text unmarked, Option.map_some, Ledger.ofList_entries]

theorem ofFile?_toUTF8 (unmarked : ∀ word ∈ counts.keys, IsUnmarked word) :
    Counts.ofFile? counts.text.toUTF8 = some counts := by
  have decoded : String.fromUTF8? counts.text.toUTF8 = some counts.text := by
    rw [String.fromUTF8?, String.toUTF8_eq_toByteArray, dif_pos counts.text.isValidUTF8]
    rfl
  rw [Counts.ofFile?, decoded, Option.bind_some, ofText?_text unmarked]

/-! ### Counted words -/

theorem not_mem_of_mem_countedWords {text : String} {c : Char} (member : word ∈ countedWords text)
    (left : isKept c = false) (differs : c ≠ dotAbove) : c ∉ word.toList := by
  intro inside
  rcases isKept_or_eq_of_mem_countedWords member inside with kept | same
  · simp [left] at kept
  · exact differs same

theorem isUnmarked_of_mem_countedWords {text : String} (member : word ∈ countedWords text) :
    IsUnmarked word :=
  ⟨not_mem_of_mem_countedWords member (by decide) (by decide),
    not_mem_of_mem_countedWords member (by decide) (by decide)⟩

variable {watch : Nat → Bool} {input : String} {tree : FileTree}

theorem mem_keys_addAll_iff (counts : Counts) (words : List String) :
    word ∈ (counts.addAll words).keys ↔ word ∈ words ∨ word ∈ counts.keys := by
  simp only [Ledger.mem_keys, find?_addAll]
  by_cases member : word ∈ words <;> simp [member]

/-- Whatever was counted line by line was found in some line. -/
theorem exists_of_countLines {path : String} {lines : List (Except FileFault String)}
    {position : Nat} {counted : Counts}
    (counts_eq : countLines path watch position counts lines = .ok counted)
    (member : word ∈ counted.keys) :
    word ∈ counts.keys ∨ ∃ text, word ∈ countedWords text := by
  induction lines generalizing position counts with
  | nil =>
      cases counts_eq
      exact Or.inl member
  | cons line rest ih =>
      cases watched : watch position with
      | true =>
          rw [countLines_of_stop watched] at counts_eq
          cases counts_eq
      | false =>
          cases line with
          | error fault =>
              rw [countLines_of_error watched] at counts_eq
              cases counts_eq
          | ok text =>
              rw [countLines_of_ok watched] at counts_eq
              rcases ih counts_eq with before | found
              · rcases (mem_keys_addAll_iff counts _).mp before with here | earlier
                · exact Or.inr ⟨text, here⟩
                · exact Or.inl earlier
              · exact Or.inr found

theorem isUnmarked_of_read (made : read watch input tree = .ok counts) :
    ∀ word ∈ counts.keys, IsUnmarked word := by
  intro word member
  simp only [read] at made
  split at made
  · cases made
  · split at made
    · cases made
    · next counted countedLines =>
        split at made
        · cases made
        · cases made
          rcases exists_of_countLines countedLines member with atStart | ⟨text, counted⟩
          · cases atStart
          · exact isUnmarked_of_mem_countedWords counted

/-- Counts are read back from the file that they are written to, whatever words were counted and
wherever the file is. Other counts make another file. -/
theorem counts_are_read_back (made : read watch input tree = .ok counts) :
    Counts.ofText? counts.text = some counts ∧
    (∀ (shelf : FileTree) (output : String), shelf.IsWritable output →
      ∃ written content, shelf.writeWithDirectories output counts.text.toUTF8 = (.ok (), written) ∧
        written.find output = .ok (.file content) ∧ Counts.ofFile? content = some counts) ∧
    ∀ watchOther inputOther treeOther other,
      read watchOther inputOther treeOther = .ok other →
      other.text.toUTF8 = counts.text.toUTF8 → other = counts := by
  have unmarked := isUnmarked_of_read made
  refine ⟨ofText?_text unmarked, ?_, ?_⟩
  · intro shelf output writable
    rcases writable.holds counts.text.toUTF8 with ⟨written, wrote, found⟩
    exact ⟨written, _, wrote, found, ofFile?_toUTF8 unmarked⟩
  · intro watchOther inputOther treeOther other madeOther same
    have back := ofFile?_toUTF8 (isUnmarked_of_read madeOther)
    rw [same, ofFile?_toUTF8 unmarked] at back
    exact (Option.some.inj back).symm

/-- A word with a dot above it and one that ends where a comma stood. -/
theorem counts_are_read_back_dotted :
    ∃ counts, read (fun _ => false) "text" (shelved "İ,\nuno, dos UNO") = .ok counts ∧
      counts.text = "dos,1\ni\u0307,1\nuno,2\n" ∧ Counts.ofText? counts.text = some counts := by
  have made := read_eq (fun _ => rfl) (find_shelved "İ,\nuno, dos UNO")
  exact ⟨_, made, rfl, (counts_are_read_back made).1⟩

end TaskAgent.WordCount
