import TaskAgent.Files.Tree

/-!
# What was written is found

Writing a node into a tree, at a place where no directory stands, leaves every directory where it
was and takes no name out of it (`FileNode.retains_put`). So a path that led somewhere before leads
there afterwards, and a path at which a file can be created holds, after a write, what was written
(`FileTree.IsWritable.holds`).
-/

namespace TaskAgent.FileNode

variable {root later node : FileNode}

theorem at?_append (before after : List String) (root : FileNode) :
    root.at? (before ++ after) = (root.at? before).bind (at? after) := by
  induction before generalizing root with
  | nil => rfl
  | cons name rest ih =>
      cases root with
      | directory entries =>
          simp only [List.cons_append, at?]
          cases Ledger.search name entries with
          | none => rfl
          | some child => exact ih child
      | file content => rfl
      | sink => rfl

theorem at?_concat {place : List String} {entries : List (String × FileNode)}
    (stands : root.at? place = some (.directory entries)) (name : String) :
    root.at? (place ++ [name]) = Ledger.search name entries := by
  rw [at?_append, stands]
  simp only [Option.bind_some, at?]
  cases Ledger.search name entries <;> rfl

/-- Every directory is still where it was, with all the names that were in it. -/
def Retains (later root : FileNode) : Prop :=
  ∀ place entries, root.at? place = some (.directory entries) →
    ∃ grown, later.at? place = some (.directory grown) ∧
      ∀ name, (Ledger.search name entries).isSome → (Ledger.search name grown).isSome

theorem Retains.refl (root : FileNode) : root.Retains root :=
  fun _ entries stands => ⟨entries, stands, fun _ known => known⟩

theorem Retains.trans {last : FileNode} (after : last.Retains later) (before : later.Retains root) :
    last.Retains root := by
  intro place entries stands
  rcases before place entries stands with ⟨grown, standsLater, kept⟩
  rcases after place grown standsLater with ⟨larger, standsLast, keptLater⟩
  refine ⟨larger, standsLast, ?_⟩
  intro name known
  apply keptLater
  apply kept
  exact known

/-- Writing under a name changes what is below that name and nothing else. -/
theorem retains_directory {name : String} {entries : List (String × FileNode)}
    (below : ∀ old, Ledger.search name entries = some old → node.Retains old) :
    (directory (Ledger.place name node entries)).Retains (directory entries) := by
  intro place held stands
  cases place with
  | nil =>
      cases stands
      refine ⟨_, rfl, fun other known => ?_⟩
      rw [Ledger.search_place]
      split
      · rfl
      · exact known
  | cons head rest =>
      simp only [at?, Ledger.search_place] at stands ⊢
      by_cases same : name = head
      · subst same
        cases found : Ledger.search name entries with
        | none => simp [found] at stands
        | some old =>
            rw [found] at stands
            simpa using below old found rest held stands
      · simp only [same, if_false]
        cases found : Ledger.search head entries with
        | none => simp [found] at stands
        | some child =>
            rw [found] at stands
            exact Retains.refl child rest held stands

theorem retains_put {target : List String}
    (free : ∀ entries, root.at? target ≠ some (.directory entries)) :
    (put node target root).Retains root := by
  induction target generalizing root with
  | nil =>
      intro place held stands
      cases place with
      | nil => exact absurd stands (free held)
      | cons head rest =>
          cases root with
          | directory entries => exact absurd rfl (free entries)
          | file content => cases stands
          | sink => cases stands
  | cons name rest ih =>
      cases root with
      | directory entries =>
          rw [put]
          split
          · next old found =>
              apply retains_directory
              intro other foundOther
              cases found.symm.trans foundOther
              apply ih
              intro below
              simpa [at?, found] using free below
          · next absent =>
              split
              · exact retains_directory fun old found => by cases absent.symm.trans found
              · exact Retains.refl _
      | file content => exact Retains.refl _
      | sink => exact Retains.refl _

theorem at?_put {place : List String} {entries : List (String × FileNode)}
    (stands : root.at? place = some (.directory entries)) (name : String) :
    (put node (place ++ [name]) root).at? (place ++ [name]) = some node := by
  induction place generalizing root with
  | nil =>
      cases stands
      simp only [List.nil_append, put]
      split
      · simp [at?, Ledger.search_place]
      · simp [at?, Ledger.search_place]
  | cons head rest ih =>
      cases root with
      | directory names =>
          cases found : Ledger.search head names with
          | none => simp [at?, found] at stands
          | some child =>
              simp only [at?, found] at stands
              simp [put, found, at?, Ledger.search_place, ih stands]
      | file content => cases stands
      | sink => cases stands

end TaskAgent.FileNode

namespace TaskAgent.FileTree

variable {root later : FileNode} {tree written : FileTree} {text name : String}
  {place : List String} {node : FileNode} {content : ByteArray}

/-- One part of a path leads from a directory to a place. -/
inductive Goes (root : FileNode) (start : List String) : String → List String → Prop where
  | stay {entries} (stands : root.at? start = some (.directory entries)) : Goes root start "." start
  | back {entries} (stands : root.at? start = some (.directory entries)) :
      Goes root start ".." start.dropLast
  | enter {entries part} (stands : root.at? start = some (.directory entries))
      (named : FilePath.isDots part = false) (short : part.utf8ByteSize ≤ FilePath.greatestPart)
      (known : (Ledger.search part entries).isSome) : Goes root start part (start ++ [part])

variable {start reached next parts : List String} {part : String}

theorem Goes.walk_cons (goes : Goes root start part next) (rest : List String) :
    walk root start (part :: rest) = walk root next rest := by
  cases goes with
  | stay stands => simp [walk, stands]
  | back stands => simp [walk, stands]
  | enter stands named short known =>
      rcases Option.isSome_iff_exists.mp known with ⟨child, found⟩
      simp only [FilePath.isDots, Bool.or_eq_false_iff] at named
      simp [walk, stands, named, found, Nat.not_lt.mpr short]

theorem goes_of_walk_cons {rest : List String}
    (walked : walk root start (part :: rest) = .ok reached) :
    ∃ next, Goes root start part next ∧ walk root next rest = .ok reached := by
  rw [walk] at walked
  split at walked
  · next entries stands =>
      split at walked
      · next dot =>
          cases eq_of_beq dot
          exact ⟨_, .stay stands, walked⟩
      · next notDot =>
          split at walked
          · next dots =>
              cases eq_of_beq dots
              exact ⟨_, .back stands, walked⟩
          · next notDots =>
              split at walked
              · cases walked
              · next short =>
                  split at walked
                  · next child found =>
                      have named : FilePath.isDots part = false := by
                        simp [FilePath.isDots, notDot, notDots]
                      exact ⟨_, .enter stands named (Nat.not_lt.mp short) (by simp [found]), walked⟩
                  · cases walked
  · cases walked
  · cases walked

theorem Goes.retained (goes : Goes root start part next) (retains : later.Retains root) :
    Goes later start part next := by
  cases goes with
  | stay stands =>
      rcases retains _ _ stands with ⟨grown, stands, -⟩
      exact .stay stands
  | back stands =>
      rcases retains _ _ stands with ⟨grown, stands, -⟩
      exact .back stands
  | enter stands named short known =>
      rcases retains _ _ stands with ⟨grown, stands, kept⟩
      exact .enter stands named short (kept part known)

theorem walk_append (walked : walk root start parts = .ok reached) (after : List String) :
    walk root start (parts ++ after) = walk root reached after := by
  induction parts generalizing start with
  | nil =>
      cases walked
      rfl
  | cons part rest ih =>
      rcases goes_of_walk_cons walked with ⟨next, goes, onward⟩
      rw [List.cons_append, goes.walk_cons, ih onward]

theorem walk_of_retains (retains : later.Retains root)
    (walked : walk root start parts = .ok reached) : walk later start parts = .ok reached := by
  induction parts generalizing start with
  | nil => exact walked
  | cons part rest ih =>
      rcases goes_of_walk_cons walked with ⟨next, goes, onward⟩
      rw [(goes.retained retains).walk_cons, ih onward]

/-- A text leads to a directory and to a name in it, whether or not anything has that name. -/
structure LeadsTo (tree : FileTree) (text : String) (place : List String) (name : String) :
    Prop where
  sound : FilePath.textFault? text = none
  walked : ∃ before, (FilePath.ofText text).parts = before ++ [name] ∧
    walk tree.root (tree.startOf (FilePath.ofText text)) before = .ok place
  stands : ∃ entries, tree.root.at? place = some (.directory entries)
  named : FilePath.isDots name = false

theorem locate_eq_iff :
    tree.locate text = .ok (place, some name) ↔ tree.LeadsTo text place name := by
  constructor
  · intro located
    rw [locate] at located
    split at located
    · cases located
    · next sound =>
        simp only at located
        split at located
        · cases located
        · next last before ends =>
            split at located
            · cases located
            · next reached walked =>
                split at located
                · next entries stands =>
                    cases named : FilePath.isDots last <;> simp [named] at located
                    rcases located with ⟨rfl, rfl⟩
                    refine ⟨sound, ⟨before.reverse, ?_, walked⟩, ⟨entries, stands⟩, named⟩
                    rw [← List.reverse_cons, ← ends, List.reverse_reverse]
                · cases located
                · cases located
  · rintro ⟨sound, ⟨before, ends, walked⟩, ⟨entries, stands⟩, named⟩
    simp [locate, sound, ends, walked, stands, named]

theorem LeadsTo.retained (leads : tree.LeadsTo text place name)
    (retains : later.Retains tree.root) : { tree with root := later }.LeadsTo text place name := by
  rcases leads with ⟨sound, ⟨before, ends, walked⟩, ⟨entries, stands⟩, named⟩
  rcases retains _ _ stands with ⟨grown, stands, -⟩
  exact ⟨sound, ⟨before, ends, walk_of_retains retains walked⟩, ⟨grown, stands⟩, named⟩

theorem LeadsTo.walk_eq (leads : tree.LeadsTo text place name)
    (short : name.utf8ByteSize ≤ FilePath.greatestPart)
    (there : tree.root.at? (place ++ [name]) = some node) :
    walk tree.root (tree.startOf (FilePath.ofText text)) (FilePath.ofText text).parts =
      .ok (place ++ [name]) := by
  rcases leads with ⟨sound, ⟨before, ends, walked⟩, ⟨entries, stands⟩, named⟩
  have known : Ledger.search name entries = some node := by
    rw [← FileNode.at?_concat stands, there]
  have goes : Goes tree.root place name (place ++ [name]) :=
    .enter stands named short (by simp [known])
  rw [ends, walk_append walked, goes.walk_cons, walk]

theorem LeadsTo.find_eq (leads : tree.LeadsTo text place name)
    (bare : (FilePath.ofText text).trailing = false)
    (short : name.utf8ByteSize ≤ FilePath.greatestPart)
    (there : tree.root.at? (place ++ [name]) = some node) : tree.find text = .ok node := by
  simp [find, leads.sound, leads.walk_eq short there, there, bare]

/-- An empty file can be created under the name, and what stands there then is no sink. -/
def IsWritable (tree : FileTree) (text : String) : Prop :=
  ∃ written, tree.writeWithDirectories text .empty = (.ok (), written) ∧
    written.find text ≠ .ok .sink

/-- Where an empty file could be written, any file can be and is found. -/
theorem find_of_writeFile {created : FileTree} (empty : tree.writeFile text .empty = .ok created)
    (notSink : created.find text ≠ .ok .sink) (content : ByteArray) :
    ∃ written, tree.writeFile text content = .ok written ∧
      written.find text = .ok (.file content) := by
  rw [writeFile] at empty
  split at empty
  · cases empty
  · cases empty
  · next place name located =>
      have leads := locate_eq_iff.mp located
      split at empty
      · cases empty
      · next bare =>
          have bare : (FilePath.ofText text).trailing = false := by simpa using bare
          split at empty
          · cases empty
          · next long =>
              have short : name.utf8ByteSize ≤ FilePath.greatestPart := Nat.not_lt.mp long
              split at empty
              · cases empty
              · next there =>
                  cases empty
                  exact absurd (leads.find_eq bare short there) notSink
              · next free swallows =>
                  have retains : (FileNode.put (.file content) (place ++ [name]) tree.root).Retains
                      tree.root := FileNode.retains_put free
                  rcases leads.stands with ⟨entries, stands⟩
                  refine ⟨{ tree with root := .put (.file content) (place ++ [name]) tree.root },
                    ?_, (leads.retained retains).find_eq bare short (FileNode.at?_put stands name)⟩
                  rw [writeFile, located]
                  simp only [bare, long]
                  rfl

/-- A file that can be created holds what is written to it. -/
theorem IsWritable.holds (writable : tree.IsWritable text) (content : ByteArray) :
    ∃ written, tree.writeWithDirectories text content = (.ok (), written) ∧
      written.find text = .ok (.file content) := by
  rcases writable with ⟨created, made, notSink⟩
  rw [writeWithDirectories] at made ⊢
  split at made
  · cases made
  · split at made
    · next empty =>
        cases made
        rcases find_of_writeFile empty notSink content with ⟨written, wrote, found⟩
        refine ⟨written, ?_, found⟩
        simp only [wrote]
    · cases made

end TaskAgent.FileTree
