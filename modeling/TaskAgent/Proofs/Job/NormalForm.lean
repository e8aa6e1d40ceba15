import TaskAgent.Proofs.Job.WordCount
import TaskAgent.Proofs.Text.Lowercase

/-!
# Words in their normal form

Only letters, numbers and underscores of a word are kept, and then what is kept is written in small
letters. That order matters for one character: the dotted capital is a letter, and the dot above
that is left of it is none. A word with such a dot is not in normal form: counted again it loses its
dots (`WordCount.normalForm_normalForm`). Every other word comes back as it is, so the words that
were counted in a text are those that are counted in their listing exactly if the text does not have
the dotted capital (`WordCount.words_come_back_undotted`).
-/

namespace TaskAgent.WordCount

open Text

variable {text word : String} {token : List Char} {c : Char}

theorem isBlank_eq_false_of_isKept (kept : isKept c = true) : isBlank c = false := by
  simp only [isKept, Bool.or_eq_true, beq_iff_eq] at kept
  rcases kept with alphanumeric | rfl
  · exact isBlank_eq_false alphanumeric
  · decide

theorem isKept_dotAbove : isKept dotAbove = false := by decide

/-- What becomes of a character that is kept: one character that is kept, or a letter and a dot. -/
theorem lowerBetween_of_isKept (kept : isKept c = true) (before after : List Char) :
    (c ≠ 'İ' ∧ ∃ small, lowerBetween before c after = [small] ∧ isKept small = true) ∨
    c = 'İ' ∧ lowerBetween before c after = ['i', dotAbove] := by
  rcases lowerBetween_cases before c after with ⟨notDotted, small, same, -, letter⟩ | dotted
  · refine Or.inl ⟨notDotted, ?_⟩
    simp only [isKept, Bool.or_eq_true, beq_iff_eq] at kept
    rcases kept with alphanumeric | rfl
    · exact ⟨small, same, by simp [isKept, letter alphanumeric]⟩
    · exact ⟨'_', lowerBetween_of_isSmall (by decide) before after, by decide⟩
  · exact Or.inr dotted

/-! ### The characters of a normal form -/

theorem mem_normalForm_iff : c ∈ (normalForm token).toList ↔
    ∃ front d back, token.filter isKept = front ++ d :: back ∧
      c ∈ lowerBetween front.reverse d back := by
  rw [normalForm, String.toList_ofList, mem_lowercase_iff]

theorem isKept_of_filter (front : List Char) {back : List Char} {d : Char}
    (cut : token.filter isKept = front ++ d :: back) : isKept d = true := by
  have member : d ∈ token.filter isKept := by simp [cut]
  exact (List.mem_filter.mp member).2

theorem isKept_or_eq_dotAbove (member : c ∈ (normalForm token).toList) :
    isKept c = true ∨ c = dotAbove := by
  rcases mem_normalForm_iff.mp member with ⟨front, d, back, cut, lowered⟩
  rcases lowerBetween_of_isKept (isKept_of_filter front cut) front.reverse back with
    ⟨-, small, same, kept⟩ | ⟨-, same⟩
  · simp only [same, List.mem_singleton] at lowered
    exact Or.inl (lowered ▸ kept)
  · simp only [same, List.mem_cons, List.not_mem_nil, or_false] at lowered
    rcases lowered with rfl | rfl
    · exact Or.inl (by decide)
    · exact Or.inr rfl

theorem dotAbove_mem_normalForm_iff : dotAbove ∈ (normalForm token).toList ↔ 'İ' ∈ token := by
  rw [mem_normalForm_iff]
  constructor
  · rintro ⟨front, d, back, cut, lowered⟩
    rcases lowerBetween_of_isKept (isKept_of_filter front cut) front.reverse back with
      ⟨-, small, same, kept⟩ | ⟨rfl, -⟩
    · simp only [same, List.mem_singleton] at lowered
      rw [← lowered, isKept_dotAbove] at kept
      cases kept
    · have member : 'İ' ∈ token.filter isKept := by simp [cut]
      exact (List.mem_filter.mp member).1
  · intro member
    have kept : 'İ' ∈ token.filter isKept := List.mem_filter.mpr ⟨member, by decide⟩
    rcases List.append_of_mem kept with ⟨front, back, cut⟩
    exact ⟨front, 'İ', back, cut, by simp [lowerBetween, dotAbove]⟩

/-- A normal form that is not empty has a character that is kept. -/
theorem exists_isKept (someWord : normalForm token ≠ "") :
    ∃ c ∈ (normalForm token).toList, isKept c = true := by
  cases kept : token.filter isKept with
  | nil => simp [normalForm, kept, lowercase, lowerFrom] at someWord
  | cons d back =>
      rcases lowerBetween_of_isKept (isKept_of_filter [] kept) [] back with
        ⟨-, small, same, smallKept⟩ | ⟨-, same⟩
      · exact ⟨small, mem_normalForm_iff.mpr ⟨[], d, back, kept, by simp [same]⟩, smallKept⟩
      · exact ⟨'i', mem_normalForm_iff.mpr ⟨[], d, back, kept, by simp [same]⟩, by decide⟩

/-! ### Normal forms of normal forms -/

/-- A word without the dots that stand above its letters. -/
def undotted (word : String) : String := String.ofList (word.toList.filter (· != dotAbove))

theorem undotted_eq_self_iff : undotted word = word ↔ dotAbove ∉ word.toList := by
  rw [undotted, ← String.toList_inj, String.toList_ofList, List.filter_eq_self]
  constructor
  · intro kept member
    simpa using kept dotAbove member
  · intro absent c member
    simp only [bne_iff_ne]
    exact fun same => absent (same ▸ member)

/-- A normal form is brought into normal form by leaving its dots out. -/
theorem normalForm_normalForm (token : List Char) :
    normalForm (normalForm token).toList = undotted (normalForm token) := by
  have same : (normalForm token).toList.filter isKept =
      (normalForm token).toList.filter (· != dotAbove) := by
    apply List.filter_congr
    intro c member
    rcases isKept_or_eq_dotAbove member with kept | rfl
    · have differs : c ≠ dotAbove := by
        rintro rfl
        simp [isKept_dotAbove] at kept
      simp [kept, differs]
    · simp [isKept_dotAbove]
  rw [normalForm, same, undotted, lowercase_eq_self]
  intro c member
  have inside := (List.mem_filter.mp member).1
  rw [normalForm, String.toList_ofList] at inside
  exact isSmall_of_mem_lowercase inside

theorem undotted_ne_empty (someWord : normalForm token ≠ "") :
    undotted (normalForm token) ≠ "" := by
  rcases exists_isKept someWord with ⟨c, member, kept⟩
  have differs : c ≠ dotAbove := by
    rintro rfl
    simp [isKept_dotAbove] at kept
  intro empty
  have inside : c ∈ (undotted (normalForm token)).toList := by
    rw [undotted, String.toList_ofList]
    exact List.mem_filter.mpr ⟨member, by simpa using differs⟩
  simp [empty] at inside

/-! ### The words of a text -/

theorem mem_countedWords_iff : word ∈ countedWords text ↔
    word ≠ "" ∧ ∃ token ∈ tokens text.toList, normalForm token = word := by
  simp [countedWords, words_eq_tokens, and_comm]

theorem exists_dotAbove_iff :
    (∃ word ∈ countedWords text, dotAbove ∈ word.toList) ↔ 'İ' ∈ text.toList := by
  rw [← exists_mem_tokens_iff (c := 'İ') (by decide)]
  constructor
  · rintro ⟨word, member, dotted⟩
    rcases mem_countedWords_iff.mp member with ⟨-, token, inside, rfl⟩
    exact ⟨token, inside, dotAbove_mem_normalForm_iff.mp dotted⟩
  · rintro ⟨token, inside, member⟩
    have dotted := dotAbove_mem_normalForm_iff.mpr member
    have someWord : normalForm token ≠ "" := by
      intro empty
      simp [empty] at dotted
    exact ⟨_, mem_countedWords_iff.mpr ⟨someWord, token, inside, rfl⟩, dotted⟩

theorem mem_keys_addAll (words : List String) :
    word ∈ (Counts.addAll ∅ words).keys ↔ word ∈ words := by
  simp [Ledger.keys, mem_entries_addAll]

/-- Words, each on a line of its own. -/
def listing (words : List String) : String := String.join (words.map (· ++ "\n"))

theorem tokens_listing {words : List String} (someChar : ∀ word ∈ words, word ≠ "")
    (solid : ∀ word ∈ words, ∀ c ∈ word.toList, isBlank c = false) :
    tokens (listing words).toList = words.map String.toList := by
  induction words with
  | nil => rfl
  | cons word rest ih =>
      have joined : (listing (word :: rest)).toList =
          word.toList ++ '\n' :: (listing rest).toList := by
        simp [listing, String.toList_join]
      rw [joined, tokens_append_cons (by decide), tokens_of_solid, ih]
      · rfl
      · exact fun other member => someChar other (List.mem_cons_of_mem _ member)
      · exact fun other member => solid other (List.mem_cons_of_mem _ member)
      · simpa using someChar word List.mem_cons_self
      · exact solid word List.mem_cons_self

/-- Counted again, the words of a text lose their dots. -/
theorem countedWords_listing {words : List String} (counted : words ⊆ countedWords text) :
    countedWords (listing words) = words.map undotted := by
  have normal : ∀ word ∈ words, word ≠ "" ∧ ∃ token, normalForm token = word := by
    intro word member
    rcases mem_countedWords_iff.mp (counted member) with ⟨someWord, token, -, same⟩
    exact ⟨someWord, token, same⟩
  have solid : ∀ word ∈ words, ∀ c ∈ word.toList, isBlank c = false := by
    intro word member c inside
    rcases normal word member with ⟨-, token, rfl⟩
    rcases isKept_or_eq_dotAbove inside with kept | rfl
    · exact isBlank_eq_false_of_isKept kept
    · decide
  rw [countedWords, words_eq_tokens,
    tokens_listing (fun word member => (normal word member).1) solid, List.map_map]
  have again : words.map (normalForm ∘ String.toList) = words.map undotted := by
    apply List.map_congr_left
    intro word member
    rcases normal word member with ⟨-, token, rfl⟩
    exact normalForm_normalForm token
  rw [again, List.filter_eq_self]
  intro word member
  rcases List.mem_map.mp member with ⟨first, inside, rfl⟩
  rcases normal first inside with ⟨someWord, token, rfl⟩
  simpa using undotted_ne_empty someWord

/-! ### Words with and without dots -/

theorem normalForm_of_mem_countedWords (member : word ∈ countedWords text) :
    normalForm word.toList = undotted word := by
  rcases mem_countedWords_iff.mp member with ⟨-, token, -, rfl⟩
  exact normalForm_normalForm token

theorem isKept_or_eq_of_mem_countedWords (member : word ∈ countedWords text)
    (inside : c ∈ word.toList) : isKept c = true ∨ c = dotAbove := by
  rcases mem_countedWords_iff.mp member with ⟨-, token, -, rfl⟩
  exact isKept_or_eq_dotAbove inside

theorem dotless_iff :
    (∀ word ∈ countedWords text, dotAbove ∉ word.toList) ↔ 'İ' ∉ text.toList := by
  rw [← exists_dotAbove_iff]
  simp

theorem isKept_iff :
    (∀ word ∈ countedWords text, ∀ c ∈ word.toList, isKept c = true) ↔ 'İ' ∉ text.toList := by
  rw [← dotless_iff]
  apply forall₂_congr
  intro word member
  constructor
  · intro kept dotted
    simpa [isKept_dotAbove] using kept dotAbove dotted
  · intro dotless c inside
    rcases isKept_or_eq_of_mem_countedWords member inside with kept | rfl
    · exact kept
    · exact absurd inside dotless

theorem normalForm_eq_self_iff :
    (∀ word ∈ countedWords text, normalForm word.toList = word) ↔ 'İ' ∉ text.toList := by
  rw [← dotless_iff]
  apply forall₂_congr
  intro word member
  rw [normalForm_of_mem_countedWords member, undotted_eq_self_iff]

/-- The words are the same without their dots exactly if they have none. -/
theorem mem_map_undotted_iff :
    (∀ word, word ∈ (countedWords text).map undotted ↔ word ∈ countedWords text) ↔
      'İ' ∉ text.toList := by
  rw [← dotless_iff]
  constructor
  · intro same word member dotted
    rcases List.mem_map.mp ((same word).mpr member) with ⟨first, -, rfl⟩
    simp [undotted] at dotted
  · intro dotless
    have unchanged : ∀ word ∈ countedWords text, undotted word = word :=
      fun word member => undotted_eq_self_iff.mpr (dotless word member)
    simp [List.map_congr_left unchanged]

/-! ### Counting the words again -/

variable {watch : Nat → Bool} {input : String} {tree : FileTree}

/-- Counted words are in normal form and come back when they are counted again, but for the dots
above letters that the dotted capital leaves. -/
theorem words_come_back_undotted (quiet : ∀ position, watch position = false)
    (holds : tree.find input = .ok (.file text.toUTF8)) :
    ∃ counts, read watch input tree = .ok counts ∧
      (∀ word ∈ counts.keys, (∀ c ∈ word.toList, isKept c = true ∨ c = dotAbove) ∧
        normalForm word.toList = undotted word) ∧
      ((∀ word ∈ counts.keys, ∀ c ∈ word.toList, isKept c = true) ↔ 'İ' ∉ text.toList) ∧
      ((∀ word ∈ counts.keys, normalForm word.toList = word) ↔ 'İ' ∉ text.toList) ∧
      ∀ other listed, other.find listed = .ok (.file (listing counts.keys).toUTF8) →
        ∃ again, read watch listed other = .ok again ∧
          (∀ word, word ∈ again.keys ↔ ∃ first ∈ counts.keys, undotted first = word) ∧
          ((∀ word, word ∈ again.keys ↔ word ∈ counts.keys) ↔ 'İ' ∉ text.toList) := by
  refine ⟨_, read_eq quiet holds, ?_⟩
  simp only [mem_keys_addAll]
  refine ⟨?_, isKept_iff, normalForm_eq_self_iff, ?_⟩
  · intro word member
    exact ⟨fun c inside => isKept_or_eq_of_mem_countedWords member inside,
      normalForm_of_mem_countedWords member⟩
  · intro other listed holdsListing
    have listedWords : (Counts.addAll ∅ (countedWords text)).keys ⊆ countedWords text :=
      fun word member => (mem_keys_addAll _).mp member
    refine ⟨_, read_eq quiet holdsListing, ?_⟩
    rw [countedWords_listing listedWords]
    simp [mem_keys_addAll, ← mem_map_undotted_iff]

/-- A tree with one file in its working directory. -/
def shelved (text : String) : FileTree := ⟨.directory [("text", .file text.toUTF8)], []⟩

theorem find_shelved (text : String) :
    (shelved text).find "text" = .ok (.file text.toUTF8) := by
  have sound : FilePath.textFault? "text" = none := rfl
  have path : FilePath.ofText "text" = ⟨false, ["text"], false⟩ := rfl
  have short : ¬FilePath.greatestPart < "text".utf8ByteSize := by decide
  simp [FileTree.find, sound, path, shelved, FileTree.startOf, FileTree.walk, FileNode.at?,
    Ledger.search, short]

/-- The word that is counted for the dotted capital is not in normal form. -/
theorem words_keep_dot_dottedCapital :
    ∃ counts, read (fun _ => false) "text" (shelved "İ") = .ok counts ∧
      counts.keys = ["i\u0307"] ∧ isKept '\u0307' = false ∧
      normalForm "i\u0307".toList = "i" ∧
      ∃ again, read (fun _ => false) "text" (shelved (listing counts.keys)) = .ok again ∧
        again.keys = ["i"] :=
  ⟨_, read_eq (fun _ => rfl) (find_shelved "İ"), rfl, rfl, rfl,
    _, read_eq (fun _ => rfl) (find_shelved _), rfl⟩

/-- The dotted capital beside a word with a final sigma. -/
theorem words_come_back_undotted_finalSigma :
    ∃ counts, read (fun _ => false) "text" (shelved "İ ΟΔΟΣ") = .ok counts ∧
      counts.keys = ["i\u0307", "οδος"] ∧
      (∀ word ∈ counts.keys, normalForm word.toList = undotted word) ∧
      ∃ again, read (fun _ => false) "text" (shelved (listing counts.keys)) = .ok again ∧
        (∀ word, word ∈ again.keys ↔ ∃ first ∈ counts.keys, undotted first = word) ∧
        ¬∀ word, word ∈ again.keys ↔ word ∈ counts.keys := by
  have quiet : ∀ position, (fun _ : Nat => false) position = false := fun _ => rfl
  have holds := find_shelved "İ ΟΔΟΣ"
  rcases words_come_back_undotted quiet holds with ⟨counts, counted, normal, -, -, back⟩
  have keys : counts.keys = ["i\u0307", "οδος"] := by
    cases counted.symm.trans (read_eq quiet holds)
    rfl
  rcases back _ "text" (find_shelved _) with ⟨again, countedAgain, undots, same⟩
  refine ⟨counts, counted, keys, fun word member => (normal word member).2, again, countedAgain,
    undots, ?_⟩
  rw [same]
  decide

end TaskAgent.WordCount
