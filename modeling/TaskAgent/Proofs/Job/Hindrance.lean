import TaskAgent.Proofs.Files.Footprint
import TaskAgent.Proofs.Job.WordCount

/-!
# Word counts that come to nothing

A word count reads everything before it writes anything. If its arguments do not fit, the file
cannot be opened or read to its end, or the job is told to stop at a line or after the last one, the
files stay as they are. Otherwise it writes, and then only the file that it writes is different and
the directories that were missing on the way to it (`WordCount.hindered_count_leaves_files`).
-/

namespace TaskAgent.WordCount

variable {watch : Nat → Bool} {input output : String} {tree : FileTree}

/-- The job with its arguments; `watch` tells whether it has to stop when it comes to a line. -/
def job (watch : Nat → Bool) (arguments : Json) (tree : FileTree) :
    Except JobError Json × FileTree :=
  match Arguments.paths arguments with
  | .ok (input, output) => run watch input output tree
  | .error fault => (.error (.within Builtin.pathsActivity (.arguments fault)), tree)

/-- What a computation is about to do when its job came to this. -/
def ending : Except JobError Json → Control
  | .ok value => .giving value
  | .error error => .failing error

/-- A computation does the whole job in one step. -/
theorem next?_program (context : TaskContext) (signal : Signal) (world : World)
    (arguments : Json) :
    (Computation.ofProgram (Builtin.wordCount.program arguments)).next? context signal world =
      let (result, files) := job (fun _ => signal.isInterrupted) arguments world.files
      some ⟨⟨ending result, []⟩, { world with files }, none⟩ := by
  simp only [Builtin.program, job]
  cases Arguments.paths arguments with
  | error fault => rfl
  | ok paths =>
      simp only [Computation.ofProgram, Computation.next?, Computation.execute?]
      rcases run (fun _ => signal.isInterrupted) paths.1 paths.2 world.files with
        ⟨error | value, files⟩
      · rfl
      · rfl

/-- What keeps the job from reading its file to the end. -/
inductive IsHindered (watch : Nat → Bool) (input : String) (tree : FileTree) : Prop where
  | unopened {fault : FileFault} (fails : tree.find input = .error fault)
  | directory {entries : List (String × FileNode)}
      (found : tree.find input = .ok (.directory entries))
  | notText {content : ByteArray} {bytes : List UInt8}
      (found : tree.find input = .ok (.file content)) (line : bytes ∈ FileNode.lineBytes content)
      (invalid : String.fromUTF8? ⟨bytes.toArray⟩ = none)
  /-- It has to stop at one of the lines or after the last. -/
  | stopped {node : FileNode} {position : Nat} (found : tree.find input = .ok node)
      (within : position ≤ node.lines.length) (stops : watch position = true)

/-- Lines are counted unless one of them is faulty or the job has to stop at one of them. -/
theorem countLines_fails_iff (path : String) (position : Nat) (counts : Counts)
    (lines : List (Except FileFault String)) :
    (∃ error, countLines path watch position counts lines = .error error) ↔
      (∃ fault, .error fault ∈ lines) ∨
      ∃ later, position ≤ later ∧ later < position + lines.length ∧ watch later = true := by
  induction lines generalizing position counts with
  | nil =>
      simp only [countLines, List.not_mem_nil, List.length_nil]
      simp
      omega
  | cons line rest ih =>
      cases watched : watch position with
      | true =>
          rw [countLines_of_stop watched]
          simp only [List.length_cons]
          constructor
          · intro _
            right
            exact ⟨position, by omega, by omega, watched⟩
          · intro _
            exact ⟨_, rfl⟩
      | false =>
          have later_iff : (∃ later, position ≤ later ∧ later < position + (rest.length + 1) ∧
              watch later = true) ↔ ∃ later, position + 1 ≤ later ∧
              later < position + 1 + rest.length ∧ watch later = true := by
            apply exists_congr
            intro later
            constructor
            · rintro ⟨least, greatest, stops⟩
              have beyond : position ≠ later := by
                rintro rfl
                cases watched.symm.trans stops
              exact ⟨by omega, by omega, stops⟩
            · rintro ⟨least, greatest, stops⟩
              exact ⟨by omega, by omega, stops⟩
          cases line with
          | error fault =>
              rw [countLines_of_error watched]
              constructor
              · intro _
                left
                exact ⟨fault, List.mem_cons_self⟩
              · intro _
                exact ⟨_, rfl⟩
          | ok text =>
              rw [countLines_of_ok watched, ih, List.length_cons, later_iff]
              simp

theorem lines_fail_iff {node : FileNode} :
    (∃ fault, .error fault ∈ node.lines) ↔
      (∃ entries, node = .directory entries) ∨
      ∃ content bytes, node = .file content ∧ bytes ∈ FileNode.lineBytes content ∧
        String.fromUTF8? ⟨bytes.toArray⟩ = none := by
  cases node with
  | file content =>
      simp only [FileNode.lines, List.mem_map]
      constructor
      · rintro ⟨fault, bytes, line, fails⟩
        right
        refine ⟨content, bytes, rfl, line, ?_⟩
        cases read : String.fromUTF8? ⟨bytes.toArray⟩ with
        | none => rfl
        | some text => simp [FileNode.lineText, read] at fails
      · rintro (⟨entries, isDirectory⟩ | ⟨other, bytes, same, line, invalid⟩)
        · cases isDirectory
        · cases same
          refine ⟨.notText, bytes, line, ?_⟩
          simp [FileNode.lineText, invalid]
  | sink => simp [FileNode.lines]
  | directory entries => simp [FileNode.lines]

theorem isHindered_iff_of_found {node : FileNode} (found : tree.find input = .ok node) :
    IsHindered watch input tree ↔ (∃ fault, .error fault ∈ node.lines) ∨
      ∃ position ≤ node.lines.length, watch position = true := by
  rw [lines_fail_iff]
  constructor
  · intro hindered
    cases hindered with
    | unopened fails => cases found.symm.trans fails
    | directory foundDirectory =>
        cases found.symm.trans foundDirectory
        exact .inl (.inl ⟨_, rfl⟩)
    | notText foundFile line invalid =>
        cases found.symm.trans foundFile
        exact .inl (.inr ⟨_, _, rfl, line, invalid⟩)
    | stopped foundNode within stops =>
        cases found.symm.trans foundNode
        exact .inr ⟨_, within, stops⟩
  · rintro ((⟨entries, rfl⟩ | ⟨content, bytes, rfl, line, invalid⟩) | ⟨position, within, stops⟩)
    · exact .directory found
    · exact .notText found line invalid
    · exact .stopped found within stops

theorem read_fails_iff_of_found {node : FileNode} (found : tree.find input = .ok node) :
    (∃ error, read watch input tree = .error error) ↔
      (∃ error, countLines input watch 0 ∅ node.lines = .error error) ∨
      watch node.lines.length = true := by
  simp only [read, found]
  cases countLines input watch 0 ∅ node.lines with
  | error error => simp
  | ok counts => cases watch node.lines.length <;> simp

/-- A file is read to its end unless something hinders it. -/
theorem isHindered_iff :
    IsHindered watch input tree ↔ ∃ error, read watch input tree = .error error := by
  cases found : tree.find input with
  | error fault =>
      have fails : read watch input tree =
          .error (.within ("no se pudo leer " ++ input) (.file fault)) := by
        simp only [read, found]
      constructor
      · intro _
        exact ⟨_, fails⟩
      · intro _
        exact .unopened found
  | ok node =>
      rw [isHindered_iff_of_found found, read_fails_iff_of_found found, countLines_fails_iff,
        or_assoc]
      apply or_congr_right
      constructor
      · rintro ⟨position, within, stops⟩
        rcases Nat.lt_or_eq_of_le within with before | rfl
        · left
          exact ⟨position, by omega, by omega, stops⟩
        · right
          exact stops
      · rintro (⟨position, -, before, stops⟩ | stops)
        · exact ⟨position, by omega, stops⟩
        · exact ⟨_, Nat.le_refl _, stops⟩

theorem run_of_hindered (hindered : IsHindered watch input tree) (output : String) :
    ∃ error, run watch input output tree = (.error error, tree) := by
  rcases isHindered_iff.mp hindered with ⟨error, fails⟩
  refine ⟨error, ?_⟩
  simp only [run, fails]

theorem run_of_not_hindered (free : ¬IsHindered watch input tree) (output : String) :
    ∃ counts later, read watch input tree = .ok counts ∧
      (run watch input output tree = (.ok (result counts output), later) ∧
        FileTree.HasWritten tree later output counts.text.toUTF8 ∨
      ∃ fault, run watch input output tree =
          (.error (.within ("no se pudo escribir " ++ output) (.file fault)), later) ∧
        FileTree.Footprint (FilePath.ofText output) (fun _ => False) tree later) := by
  cases counted : read watch input tree with
  | error error => exact absurd (isHindered_iff.mpr ⟨error, counted⟩) free
  | ok counts =>
      rcases wrote : tree.writeWithDirectories output counts.text.toUTF8 with
        ⟨fault | done, later⟩
      · refine ⟨counts, later, rfl, .inr ⟨fault, ?_, FileTree.footprint_of_error wrote⟩⟩
        simp only [run, counted, wrote]
      · refine ⟨counts, later, rfl, .inl ⟨?_, FileTree.hasWritten_of_ok wrote⟩⟩
        simp only [run, counted, wrote]

/-- A word count whose arguments do not fit, or which is kept from reading its file to the end,
fails and leaves all files and directories as they are. One that reads its file to the end either
writes the counts or cannot write; then nothing but the file that it writes is different and the
directories on the way to it that were missing. In a computation the whole job is one step. -/
theorem hindered_count_leaves_files (watch : Nat → Bool) (arguments : Json) (tree : FileTree) :
    (∀ fault, Arguments.paths arguments = .error fault →
      ∃ error, job watch arguments tree = (.error error, tree)) ∧
    (∀ input output, Arguments.paths arguments = .ok (input, output) →
      (IsHindered watch input tree → ∃ error, job watch arguments tree = (.error error, tree)) ∧
      (¬IsHindered watch input tree → ∃ counts later, read watch input tree = .ok counts ∧
        (job watch arguments tree = (.ok (result counts output), later) ∧
          FileTree.HasWritten tree later output counts.text.toUTF8 ∨
        ∃ fault, job watch arguments tree =
            (.error (.within ("no se pudo escribir " ++ output) (.file fault)), later) ∧
          FileTree.Footprint (FilePath.ofText output) (fun _ => False) tree later))) ∧
    ∀ context signal world,
      (Computation.ofProgram (Builtin.wordCount.program arguments)).next? context signal world =
        let (result, files) := job (fun _ => signal.isInterrupted) arguments world.files
        some ⟨⟨ending result, []⟩, { world with files }, none⟩ := by
  refine ⟨?_, ?_, ?_⟩
  · intro fault refused
    simp only [job, refused]
    exact ⟨_, rfl⟩
  · intro input output given
    simp only [job, given]
    exact ⟨fun hindered => run_of_hindered hindered output,
      fun free => run_of_not_hindered free output⟩
  · intro context signal world
    exact next?_program context signal world arguments

/-- Two lines to count. -/
def desk : FileTree := ⟨.directory [("in", .file "b a\nb".toUTF8)], []⟩

/-- A stop after the last line leaves everything as it is; without it a directory is made for the
counts. -/
theorem hindered_count_leaves_files_lateStop :
    let arguments := Json.array [.string "in", .string "x/out"]
    (∃ error, job (fun position => position == 2) arguments desk = (.error error, desk)) ∧
    ∃ counts later, job (fun _ => false) arguments desk = (.ok (result counts "x/out"), later) ∧
      FileTree.HasWritten desk later "x/out" counts.text.toUTF8 := by
  intro arguments
  have given : Arguments.paths arguments = .ok ("in", "x/out") := rfl
  have found : desk.find "in" = .ok (.file "b a\nb".toUTF8) := rfl
  have twoLines : 2 ≤ (FileNode.file "b a\nb".toUTF8).lines.length := by
    rw [FileNode.lines_toUTF8]
    decide
  have stopped : IsHindered (fun position => position == 2) "in" desk := .stopped found twoLines rfl
  have counted : read (fun _ => false) "in" desk =
      .ok (Counts.addAll ∅ (countedWords "b a\nb")) := read_eq (fun _ => rfl) found
  have free : ¬IsHindered (fun _ => false) "in" desk := by
    intro hindered
    rcases isHindered_iff.mp hindered with ⟨error, fails⟩
    cases fails.symm.trans counted
  have emptied : desk.writeWithDirectories "x/out" .empty = (.ok (),
      ⟨.directory [("in", .file "b a\nb".toUTF8),
        ("x", .directory [("out", .file .empty)])], []⟩) :=
    rfl
  have writable : desk.IsWritable "x/out" := ⟨_, emptied, nofun⟩
  rcases hindered_count_leaves_files (fun position => position == 2) arguments desk with
    ⟨-, stops, -⟩
  rcases hindered_count_leaves_files (fun _ => false) arguments desk with ⟨-, goes, -⟩
  refine ⟨(stops _ _ given).1 stopped, ?_⟩
  rcases (goes _ _ given).2 free with ⟨counts, later, -, ⟨done, written⟩ | ⟨fault, failed, -⟩⟩
  · exact ⟨counts, later, done, written⟩
  · rcases writable.holds (Counts.addAll ∅ (countedWords "b a\nb")).text.toUTF8 with
      ⟨written, wrote, -⟩
    simp only [job, given, run, counted, wrote] at failed
    cases failed

end TaskAgent.WordCount
