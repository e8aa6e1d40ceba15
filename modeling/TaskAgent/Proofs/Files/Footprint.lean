import TaskAgent.Proofs.Files.Ancestry
import TaskAgent.Proofs.Files.Writing

/-!
# What a write leaves behind

Seen from outside, a place in a tree holds a file with its content, a sink, a directory, or nothing.
Writing a file changes what is seen at its own place, and else nothing but this: directories appear
that were missing on the way along the parts of its path (`FileTree.hasWritten_of_ok`). A write that
fails may have made some of them and has done nothing else (`FileTree.footprint_of_error`).
-/

namespace TaskAgent.FileNode

/-- What is seen of a node; of a directory nothing but that it is one. -/
inductive Sight where
  | file (content : ByteArray)
  | sink
  | directory

def sight : FileNode → Sight
  | file content => .file content
  | sink => .sink
  | directory _ => .directory

/-- What is seen at a place. -/
def look (root : FileNode) (place : List String) : Option Sight := (root.at? place).map sight

variable {root node : FileNode}

theorem look_cons (name : String) (rest : List String) (entries : List (String × FileNode)) :
    (directory entries).look (name :: rest) =
      (Ledger.search name entries).bind fun child => child.look rest := by
  simp only [look, at?]
  cases Ledger.search name entries <;> rfl

theorem put_singleton (name : String) (entries : List (String × FileNode)) :
    put node [name] (directory entries) = directory (Ledger.place name node entries) := by
  simp only [put]
  split
  · rfl
  · rfl

theorem put_cons {name : String} {entries : List (String × FileNode)} {child : FileNode}
    (found : Ledger.search name entries = some child) (rest : List String) :
    put node (name :: rest) (directory entries) =
      directory (Ledger.place name (put node rest child) entries) := by
  simp only [put, found]

/-- A node has no entries to be seen below it. -/
def IsBare (node : FileNode) : Prop := ∀ name rest, node.look (name :: rest) = none

theorem isBare_of_leaf (leaf : ∀ entries, node ≠ directory entries) : node.IsBare := by
  intro name rest
  cases node with
  | directory entries => exact absurd rfl (leaf entries)
  | file content => rfl
  | sink => rfl

theorem isBare_directory_nil : (directory []).IsBare :=
  fun _ _ => rfl

theorem isBare_file (content : ByteArray) : (file content).IsBare :=
  fun _ _ => rfl

theorem look_place {name : String} {entries : List (String × FileNode)} (bare : node.IsBare)
    (free : ∀ held, Ledger.search name entries ≠ some (directory held)) {other : List String}
    (differs : other ≠ [name]) :
    (directory (Ledger.place name node entries)).look other = (directory entries).look other := by
  cases other with
  | nil => rfl
  | cons head rest =>
      rw [look_cons, look_cons, Ledger.search_place]
      split
      · next same =>
          subst same
          cases rest with
          | nil => exact absurd rfl differs
          | cons next last =>
              rw [Option.bind_some, bare]
              cases found : Ledger.search name entries with
              | none => rfl
              | some old =>
                  have leaf : ∀ held, old ≠ directory held := by
                    rintro held rfl
                    exact free held found
                  exact (isBare_of_leaf leaf next last).symm
      · rfl

/-- Where something without entries is written and no directory stands, all other places look as
before. -/
theorem look_put {place other : List String} {name : String} {entries : List (String × FileNode)}
    (stands : root.at? place = some (.directory entries)) (bare : node.IsBare)
    (free : ∀ held, root.at? (place ++ [name]) ≠ some (.directory held))
    (differs : other ≠ place ++ [name]) :
    (put node (place ++ [name]) root).look other = root.look other := by
  induction place generalizing root other with
  | nil =>
      cases stands
      rw [List.nil_append, put_singleton]
      apply look_place bare
      · intro held found
        apply free held
        rw [at?_concat rfl, found]
      · exact differs
  | cons first place ih =>
      cases root with
      | directory names =>
          cases found : Ledger.search first names with
          | none => simp [at?, found] at stands
          | some child =>
              rw [List.cons_append, put_cons found]
              cases other with
              | nil => rfl
              | cons head rest =>
                  rw [look_cons, look_cons, Ledger.search_place]
                  split
                  · next same =>
                      subst same
                      simp only [List.cons_append, at?, found] at stands free
                      rw [found, Option.bind_some, Option.bind_some]
                      apply ih stands free
                      rintro rfl
                      exact differs rfl
                  · rfl
      | file content => cases stands
      | sink => cases stands

end TaskAgent.FileNode

namespace TaskAgent.FileTree

variable {tree later last : FileTree} {path : FilePath} {text : String} {place : List String}
  {content : ByteArray} {written : List String → Prop}

/-- There was nothing at the place, and now there is a directory on the way along the parts of a
path. -/
structure IsPaved (path : FilePath) (tree later : FileTree) (place : List String) : Prop where
  missing : tree.root.look place = none
  made : later.root.look place = some .directory
  above : ∃ before, before <+: path.parts ∧ before ≠ path.parts ∧
    walk later.root (later.startOf path) before = .ok place

/-- A tree that later differs only at certain places and in directories on the way along the parts
of a path. -/
structure Footprint (path : FilePath) (written : List String → Prop) (tree later : FileTree) :
    Prop where
  here_eq : later.here = tree.here
  retains : later.root.Retains tree.root
  elsewhere : ∀ place, ¬written place →
    later.root.look place = tree.root.look place ∨ IsPaved path tree later place

theorem Footprint.refl (path : FilePath) (written : List String → Prop) (tree : FileTree) :
    Footprint path written tree tree :=
  ⟨rfl, .refl _, fun _ _ => .inl rfl⟩

theorem Footprint.mono {larger : List String → Prop} (footprint : Footprint path written tree later)
    (covers : ∀ place, written place → larger place) : Footprint path larger tree later :=
  ⟨footprint.here_eq, footprint.retains,
    fun place outside => footprint.elsewhere place fun inside => outside (covers place inside)⟩

theorem startOf_congr (here_eq : later.here = tree.here) (path : FilePath) :
    later.startOf path = tree.startOf path := by
  simp only [startOf, here_eq]

theorem Footprint.trans (first : Footprint path written tree later)
    (second : Footprint path written later last) : Footprint path written tree last := by
  refine ⟨second.here_eq.trans first.here_eq, second.retains.trans first.retains, ?_⟩
  intro place unwritten
  rcases first.elsewhere place unwritten with same | paved
  · rcases second.elsewhere place unwritten with sameLater | pavedLater
    · left
      rw [sameLater, same]
    · right
      exact ⟨same ▸ pavedLater.missing, pavedLater.made, pavedLater.above⟩
  · right
    rcases second.elsewhere place unwritten with sameLater | pavedLater
    · rcases paved.above with ⟨before, leading, proper, walked⟩
      refine ⟨paved.missing, sameLater.trans paved.made, before, leading, proper, ?_⟩
      rw [startOf_congr second.here_eq]
      exact walk_of_retains second.retains walked
    · cases paved.made.symm.trans pavedLater.missing

variable {name : String} {node : FileNode}

theorem LeadsTo.footprint_put (leads : tree.LeadsTo text place name) (bare : node.IsBare)
    (free : ∀ held, tree.root.at? (place ++ [name]) ≠ some (.directory held)) :
    Footprint path (· = place ++ [name]) tree
      { tree with root := .put node (place ++ [name]) tree.root } := by
  rcases leads.stands with ⟨entries, stands⟩
  refine ⟨rfl, FileNode.retains_put free, ?_⟩
  intro other differs
  left
  exact FileNode.look_put stands bare free differs

theorem Footprint.of_paved (footprint : Footprint path (· = place) tree later)
    (paved : IsPaved path tree later place) : Footprint path written tree later := by
  refine ⟨footprint.here_eq, footprint.retains, ?_⟩
  intro other _
  by_cases same : other = place
  · right
    rw [same]
    exact paved
  · exact footprint.elsewhere other same

theorem exists_of_makeDirectory (made : tree.makeDirectory text = .ok later) :
    ∃ place name, tree.LeadsTo text place name ∧
      name.utf8ByteSize ≤ FilePath.greatestPart ∧ tree.root.at? (place ++ [name]) = none ∧
      later = { tree with root := .put (.directory []) (place ++ [name]) tree.root } := by
  rw [makeDirectory] at made
  split at made
  · cases made
  · cases made
  · next place name located =>
      split at made
      · cases made
      · next long =>
          split at made
          · cases made
          · next absent =>
              cases made
              exact ⟨place, name, locate_eq_iff.mp located, Nat.not_lt.mp long, absent, rfl⟩

theorem footprint_makeDirectory (above : FilePath.IsAbove text path)
    (made : tree.makeDirectory text = .ok later) : Footprint path written tree later := by
  rcases exists_of_makeDirectory made with ⟨place, name, leads, short, absent, rfl⟩
  rcases leads.stands with ⟨entries, stands⟩
  have footprint : Footprint path (· = place ++ [name]) tree _ :=
    leads.footprint_put FileNode.isBare_directory_nil (by simp [absent])
  have there : (FileNode.put (.directory []) (place ++ [name]) tree.root).at? (place ++ [name]) =
      some (.directory []) := FileNode.at?_put stands name
  have walked := (leads.retained footprint.retains).walk_eq short there
  apply footprint.of_paved
  refine ⟨?_, ?_, _, above.parts, above.proper, ?_⟩
  · simp [FileNode.look, absent]
  · simp [FileNode.look, there, FileNode.sight]
  · simpa [startOf, above.absolute_eq] using walked

theorem footprint_makeDirectories (depth : Nat)
    (above : text.isEmpty = false → FilePath.IsAbove text path) :
    Footprint path written tree (tree.makeDirectories text depth).2 := by
  induction depth generalizing tree text with
  | zero => exact .refl path written tree
  | succ depth ih =>
      rw [makeDirectories]
      split
      · exact .refl path written tree
      · next named =>
          have above := above (by simpa using named)
          split
          · next made => exact footprint_makeDirectory above made
          · split
            · exact .refl path written tree
            · next parent up =>
                have upper : Footprint path written tree (tree.makeDirectories parent depth).2 :=
                  ih fun named => above.up up named
                split
                · next fault built failed =>
                    rw [failed] at upper
                    exact upper
                · next built succeeded =>
                    rw [succeeded] at upper
                    -- What lies above is made; the text itself is tried once more.
                    split
                    · next made => exact upper.trans (footprint_makeDirectory above made)
                    · split
                      · exact upper
                      · exact upper
          · split
            · exact .refl path written tree
            · exact .refl path written tree

theorem exists_of_writeFile (wrote : tree.writeFile text content = .ok later) :
    ∃ place name, tree.LeadsTo text place name ∧
      (tree.root.at? (place ++ [name]) = some .sink ∧ later = tree ∨
      (∀ entries, tree.root.at? (place ++ [name]) ≠ some (.directory entries)) ∧
        later = { tree with root := .put (.file content) (place ++ [name]) tree.root }) := by
  rw [writeFile] at wrote
  split at wrote
  · cases wrote
  · cases wrote
  · next place name located =>
      refine ⟨place, name, locate_eq_iff.mp located, ?_⟩
      split at wrote
      · cases wrote
      · split at wrote
        · cases wrote
        · split at wrote
          · cases wrote
          · next there =>
              left
              exact ⟨there, (Except.ok.inj wrote).symm⟩
          · next free _ =>
              right
              exact ⟨free, (Except.ok.inj wrote).symm⟩

theorem footprint_writeFile (wrote : tree.writeFile text content = .ok later) :
    ∃ place name, later.LeadsTo text place name ∧
      (later.root.look (place ++ [name]) = some (.file content) ∧
        Footprint path (· = place ++ [name]) tree later ∨
      later.root.look (place ++ [name]) = some .sink ∧ later = tree) := by
  rcases exists_of_writeFile wrote with ⟨place, name, leads, ⟨there, rfl⟩ | ⟨free, rfl⟩⟩
  · refine ⟨place, name, leads, .inr ⟨?_, rfl⟩⟩
    simp [FileNode.look, there, FileNode.sight]
  · rcases leads.stands with ⟨entries, stands⟩
    have footprint : Footprint path (· = place ++ [name]) tree _ :=
      leads.footprint_put (FileNode.isBare_file content) free
    refine ⟨place, name, leads.retained footprint.retains, .inl ⟨?_, footprint⟩⟩
    simp [FileNode.look, FileNode.at?_put stands, FileNode.sight]

/-- Since the earlier tree, nothing has changed but this: the text names a file with the content,
or a sink, and directories were made on the way to it. -/
def HasWritten (tree later : FileTree) (text : String) (content : ByteArray) : Prop :=
  ∃ place name, later.LeadsTo text place name ∧
    (later.root.look (place ++ [name]) = some (.file content) ∧
      Footprint (FilePath.ofText text) (· = place ++ [name]) tree later ∨
    later.root.look (place ++ [name]) = some .sink ∧
      Footprint (FilePath.ofText text) (fun _ => False) tree later)

/-- The directories are made first, and then the file is written or nothing more happens. -/
theorem writeWithDirectories_cases (tree : FileTree) (text : String) (content : ByteArray)
    (written : List String → Prop) :
    ∃ built, Footprint (FilePath.ofText text) written tree built ∧
      ((∃ fault, tree.writeWithDirectories text content = (.error fault, built)) ∨
      ∃ later, built.writeFile text content = .ok later ∧
        tree.writeWithDirectories text content = (.ok (), later)) := by
  unfold writeWithDirectories
  cases up : FilePath.parentText? text with
  | none =>
      refine ⟨tree, .refl _ _ tree, ?_⟩
      dsimp only
      cases wrote : tree.writeFile text content with
      | error fault => exact .inl ⟨fault, rfl⟩
      | ok later => exact .inr ⟨later, rfl, rfl⟩
  | some parent =>
      dsimp only
      have above : Footprint (FilePath.ofText text) written tree
          (tree.makeDirectories parent (FilePath.ofText text).parts.length).2 :=
        footprint_makeDirectories _ (FilePath.isAbove_of_parentText? up)
      generalize tree.makeDirectories parent (FilePath.ofText text).parts.length = made at above ⊢
      rcases made with ⟨fault | done, built⟩
      · exact ⟨built, above, .inl ⟨fault, rfl⟩⟩
      · refine ⟨built, above, ?_⟩
        dsimp only
        cases wrote : built.writeFile text content with
        | error fault => exact .inl ⟨fault, rfl⟩
        | ok later => exact .inr ⟨later, rfl, rfl⟩

theorem hasWritten_of_ok (wrote : tree.writeWithDirectories text content = (.ok (), later)) :
    HasWritten tree later text content := by
  rcases writeWithDirectories_cases tree text content (fun _ => False) with
    ⟨built, footprint, ⟨fault, failed⟩ | ⟨last, wroteFile, wroteLast⟩⟩
  · cases wrote.symm.trans failed
  · cases wrote.symm.trans wroteLast
    rcases footprint_writeFile wroteFile with
      ⟨place, name, leads, ⟨holds, changed⟩ | ⟨swallows, rfl⟩⟩
    · exact ⟨place, name, leads, .inl ⟨holds, (footprint.mono fun _ => False.elim).trans changed⟩⟩
    · exact ⟨place, name, leads, .inr ⟨swallows, footprint⟩⟩

theorem footprint_of_error {fault : FileFault}
    (failed : tree.writeWithDirectories text content = (.error fault, later)) :
    Footprint (FilePath.ofText text) written tree later := by
  rcases writeWithDirectories_cases tree text content written with
    ⟨built, footprint, ⟨other, failedToo⟩ | ⟨last, -, wroteLast⟩⟩
  · cases failed.symm.trans failedToo
    exact footprint
  · cases failed.symm.trans wroteLast

end TaskAgent.FileTree
