import Mathlib.Algebra.BigOperators.Group.List.Lemmas
import Mathlib.Algebra.GroupWithZero.Nat
import TaskAgent.Job.Computation
import TaskAgent.Proofs.Files.Lines
import TaskAgent.Proofs.Files.Writing
import TaskAgent.Proofs.Ledger
import TaskAgent.Proofs.Text.Lowercase

/-!
# What a word count writes

The words of the lines are those of the text, so what is counted line by line is what the whole text
holds (`WordCount.read_eq`). The counts, listed in the order of their keys, are a tally of the text:
every word once, with the number of times that it occurs (`WordCount.isTally_entries`). A word count
that is not called off writes this tally and gives its length (`WordCount.writes_tally`). All is
read before anything is written, and so the file that is read can be the one that is written.

The total of a tally is a `List.sum` of naturals. Its zero is the one that Mathlib's ℕ has as a
multiplicative monoid with zero, which is what `Mathlib.Algebra.GroupWithZero.Nat` is imported for.
-/

namespace TaskAgent.WordCount

variable {text input output : String} {tree : FileTree}

/-! ### Counting -/

theorem addAll_append (counts : Counts) (before after : List String) :
    counts.addAll (before ++ after) = (counts.addAll before).addAll after :=
  List.foldl_append ..

theorem find?_addAll (counts : Counts) (words : List String) (word : String) :
    (counts.addAll words).find? word =
      if word ∈ words then some ((counts.find? word).getD 0 + words.count word)
      else counts.find? word := by
  induction words generalizing counts with
  | nil => rfl
  | cons first rest ih =>
      have step : (counts.addAll (first :: rest)) = (counts.add first).addAll rest := rfl
      rw [step, ih, Counts.add, Ledger.find?_insert]
      by_cases same : first = word
      · subst same
        by_cases again : first ∈ rest
        · simp [again]
          omega
        · simp [again, List.count_eq_zero_of_not_mem again]
      · have differs : word ≠ first := fun equal => same equal.symm
        simp [same, differs]

theorem mem_entries_addAll (words : List String) (word : String) (count : Nat) :
    (word, count) ∈ (Counts.addAll ∅ words).entries ↔
      word ∈ words ∧ count = words.count word := by
  rw [← Ledger.find?_eq_some_iff, find?_addAll]
  have nothing : Ledger.find? (∅ : Counts) word = none := rfl
  by_cases member : word ∈ words
  · simp [member, nothing, eq_comm]
  · simp [member, nothing]

theorem sum_values_addAll (words : List String) :
    (Counts.addAll ∅ words).values.sum = words.length := by
  have same : (Counts.addAll ∅ words).keys.Perm words.dedup := by
    rw [List.perm_ext_iff_of_nodup (Ledger.nodup_keys _) (List.nodup_dedup words)]
    intro word
    simp [Ledger.keys, mem_entries_addAll]
  have counted : (Counts.addAll ∅ words).values =
      (Counts.addAll ∅ words).keys.map fun word => words.count word := by
    rw [Ledger.values, Ledger.keys, List.map_map]
    apply List.map_congr_left
    intro entry member
    exact ((mem_entries_addAll words entry.1 entry.2).mp member).2
  rw [counted, (same.map _).sum_eq, List.sum_map_count_dedup_eq_length]

/-! ### Reading -/

/-- The words that count in what lines hold together. -/
theorem flatMap_countedWords_lines (text : String) :
    ((Text.lines text.toList).flatMap fun line => countedWords (String.ofList line)) =
      countedWords text := by
  simp only [countedWords, String.toList_ofList, Text.words_eq_tokens]
  rw [← Text.flatMap_tokens_lines, List.map_flatMap, List.filter_flatMap]

variable {watch : Nat → Bool}

theorem countLines_of_stop {position : Nat} (stops : watch position = true) (path : String)
    (counts : Counts) (line : Except FileFault String) (rest : List (Except FileFault String)) :
    countLines path watch position counts (line :: rest) = .error (.readingInterrupted path) := by
  cases line <;> simp [countLines, stops]

theorem countLines_of_error {position : Nat} (goes : watch position = false) (path : String)
    (counts : Counts) (fault : FileFault) (rest : List (Except FileFault String)) :
    countLines path watch position counts (.error fault :: rest) = .error (.file fault) := by
  simp [countLines, goes]

theorem countLines_of_ok {position : Nat} (goes : watch position = false) (path : String)
    (counts : Counts) (text : String) (rest : List (Except FileFault String)) :
    countLines path watch position counts (.ok text :: rest) =
      countLines path watch (position + 1) (counts.addAll (countedWords text)) rest := by
  simp [countLines, goes]

theorem countLines_eq (quiet : ∀ position, watch position = false)
    (path : String) (position : Nat) (counts : Counts) (lines : List (List Char)) :
    countLines path watch position counts (lines.map fun line => .ok (String.ofList line)) =
      .ok (counts.addAll (lines.flatMap fun line => countedWords (String.ofList line))) := by
  induction lines generalizing position counts with
  | nil => rfl
  | cons line rest ih =>
      rw [List.map_cons, countLines_of_ok (quiet position), List.flatMap_cons, addAll_append]
      exact ih ..

/-- A file is counted as the whole text that it holds. -/
theorem read_eq (quiet : ∀ position, watch position = false)
    (holds : tree.find input = .ok (.file text.toUTF8)) :
    read watch input tree = .ok (Counts.addAll ∅ (countedWords text)) := by
  simp only [read, holds, FileNode.lines_toUTF8, countLines_eq quiet,
    flatMap_countedWords_lines, quiet]
  rfl

/-! ### The tally -/

/-- The word that a token stands for: its letters, numbers and underscores in small letters. -/
def wordOf (token : List Char) : String :=
  String.ofList (Text.lowercase (token.filter fun c => Text.isAlphanumeric c || c == '_'))

theorem normalForm_eq_wordOf (token : List Char) : normalForm token = wordOf token := rfl

/-- A token stands for a word as soon as it has something to be kept. -/
theorem wordOf_ne_empty_iff (token : List Char) :
    wordOf token ≠ "" ↔ ∃ c ∈ token, (Text.isAlphanumeric c || c == '_') = true := by
  rw [wordOf, ne_eq, String.ofList_eq_empty_iff, Text.lowercase_eq_nil_iff, List.filter_eq_nil_iff]
  simp only [not_forall, not_not, exists_prop]

/-- How many tokens of a text stand for a word. -/
def occurrences (text word : String) : Nat :=
  (Text.tokens text.toList).countP fun token => wordOf token == word

/-- The words of a text with the number of times that each occurs. -/
structure IsTally (text : String) (tally : List (String × Nat)) : Prop where
  /-- Each word stands once, in the order of the code points. -/
  ordered : (tally.map (·.1)).Pairwise (· < ·)
  mem_iff : ∀ word count, (word, count) ∈ tally ↔
    word ≠ "" ∧ 0 < count ∧ count = occurrences text word
  /-- Every token with a letter, a number or an underscore is counted once. -/
  total : (tally.map (·.2)).sum =
    (Text.tokens text.toList).countP fun token =>
      token.any fun c => Text.isAlphanumeric c || c == '_'

theorem not_mem_countedWords (text : String) : "" ∉ countedWords text := by
  simp [countedWords]

theorem count_countedWords {word : String} (solid : word ≠ "") :
    (countedWords text).count word = occurrences text word := by
  calc (countedWords text).count word
      = ((Text.words text.toList).map normalForm).count word :=
        List.count_filter (by simpa using solid)
    _ = occurrences text word := by
        rw [List.count_eq_countP, List.countP_map, Text.words_eq_tokens]
        refine List.countP_congr fun token _ => ?_
        simp [normalForm_eq_wordOf]

theorem isTally_entries (text : String) :
    IsTally text (Counts.addAll ∅ (countedWords text)).entries where
  ordered := by
    refine (Ledger.ordered_keys _).imp ?_
    intro before after smaller
    exact compareOfLessAndEq_eq_lt.mp smaller
  mem_iff := by
    intro word count
    rw [mem_entries_addAll]
    by_cases empty : word = ""
    · subst empty
      simp [not_mem_countedWords]
    · rw [← List.count_pos_iff, count_countedWords empty]
      constructor
      · rintro ⟨occurs, rfl⟩
        exact ⟨empty, occurs, rfl⟩
      · rintro ⟨-, occurs, rfl⟩
        exact ⟨occurs, rfl⟩
  total := by
    refine (sum_values_addAll (countedWords text)).trans ?_
    rw [countedWords, ← List.countP_eq_length_filter, List.countP_map, Text.words_eq_tokens]
    refine List.countP_congr fun token _ => ?_
    simpa [normalForm_eq_wordOf] using wordOf_ne_empty_iff token

/-- Lines ended in two ways, a blank one, and a last one that is not ended. -/
def notes : String := "Uno dos\r\n\nDOS, tres_3\n--"

example : (Counts.addAll ∅ (countedWords notes)).entries =
    [("dos", 2), ("tres_3", 1), ("uno", 1)] := rfl

/-- A word count that is not called off writes the tally of the text that it reads. -/
theorem writes_tally {context : TaskContext} {signal : Signal} {world : World} {arguments : Json}
    (reads : Arguments.paths arguments = .ok (input, output))
    (undisturbed : signal.isInterrupted = false)
    (holds : world.files.find input = .ok (.file text.toUTF8))
    (writable : world.files.IsWritable output) :
    ∃ tally move, IsTally text tally ∧
      (Computation.ofProgram (Builtin.wordCount.program arguments)).next? context signal world =
        some move ∧
      move.computation.outcome? = some (.ok (.object
        [("distinct_words", .ofNat tally.length), ("output_path", .string output)])) ∧
      move.world.files.find output = .ok (.file (String.join
        (tally.map fun entry => entry.1 ++ "," ++ toString entry.2 ++ "\n")).toUTF8) := by
  rcases writable.holds (Counts.addAll ∅ (countedWords text)).text.toUTF8 with ⟨files, wrote, found⟩
  refine ⟨_, ⟨⟨.giving _, []⟩, { world with files }, none⟩, isTally_entries text, ?_, rfl, found⟩
  have counted : read (fun _ => signal.isInterrupted) input world.files =
      .ok (Counts.addAll ∅ (countedWords text)) := read_eq (fun _ => undisturbed) holds
  simp only [Builtin.program, reads, Computation.ofProgram, Computation.next?,
    Computation.execute?, run, counted, wrote]
  rfl

/-- A world with the notes in its working directory. -/
def notebook : World :=
  ⟨[], ∅, ⟨.directory [("notes", .file notes.toUTF8)], []⟩, 0⟩

/-- The notes give way to their tally. -/
theorem writes_tally_ontoItself : ∃ tally move, IsTally notes tally ∧
    (Computation.ofProgram (Builtin.wordCount.program
      (.array [.string "notes", .string "notes"]))).next? ⟨⟨1, 1⟩, "scratch"⟩ .running notebook =
        some move ∧
    move.computation.outcome? = some (.ok (.object
      [("distinct_words", .ofNat tally.length), ("output_path", .string "notes")])) ∧
    move.world.files.find "notes" = .ok (.file (String.join
      (tally.map fun entry => entry.1 ++ "," ++ toString entry.2 ++ "\n")).toUTF8) := by
  have reads : Arguments.paths (.array [.string "notes", .string "notes"]) =
      .ok ("notes", "notes") := rfl
  have holds : notebook.files.find "notes" = .ok (.file notes.toUTF8) := rfl
  have emptied : notebook.files.writeWithDirectories "notes" .empty =
      (.ok (), ⟨.directory [("notes", .file .empty)], []⟩) := rfl
  exact writes_tally reads rfl holds ⟨_, emptied, nofun⟩

end TaskAgent.WordCount
