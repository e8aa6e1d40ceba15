import Mathlib.Data.List.Perm.Subperm
import TaskAgent.Ledger

/-!
# Laws of ledgers

What is listed in a ledger is what its look-ups find. Each key is listed once, so a ledger has no
more entries than any list that all of its keys stand in, and the keys alone are a matter of which
look-ups find something (`Ledger.keys_eq_of_contains`).
-/

namespace TaskAgent.Ledger

universe u v w

variable {κ : Type u} {α : Type v} {β : Type w} [Ord κ] {ledger : Ledger κ α}

theorem length_keys (ledger : Ledger κ α) : ledger.keys.length = ledger.size :=
  List.length_map ..

theorem eq_of_entries_eq {other : Ledger κ α} (same : ledger.entries = other.entries) :
    ledger = other := by
  cases ledger
  cases other
  cases same
  rfl

theorem eq_empty_of_size_eq_zero (empty : ledger.size = 0) : ledger = ∅ := by
  rcases ledger with ⟨entries, ordered⟩
  cases List.eq_nil_of_length_eq_zero empty
  rfl

theorem ordered_keys (ledger : Ledger κ α) :
    ledger.keys.Pairwise fun before after => compare before after = .lt :=
  List.pairwise_map.mpr ledger.ordered

/-- The ledger with every value changed and every key kept. -/
def map (change : α → β) (ledger : Ledger κ α) : Ledger κ β :=
  ⟨ledger.entries.map fun entry => (entry.1, change entry.2),
    List.pairwise_map.mpr ledger.ordered⟩

theorem search_map (change : α → β) (key : κ) (entries : List (κ × α)) :
    search key (entries.map fun entry => (entry.1, change entry.2)) =
      (search key entries).map change := by
  induction entries with
  | nil => rfl
  | cons head rest ih =>
      simp only [List.map_cons, search, ih]
      split
      · rfl
      · rfl

@[simp]
theorem find?_map (change : α → β) (ledger : Ledger κ α) (key : κ) :
    (ledger.map change).find? key = (ledger.find? key).map change :=
  search_map change key ledger.entries

@[simp]
theorem keys_map (change : α → β) (ledger : Ledger κ α) :
    (ledger.map change).keys = ledger.keys := by
  simp [keys, map]

@[simp]
theorem values_map (change : α → β) (ledger : Ledger κ α) :
    (ledger.map change).values = ledger.values.map change := by
  simp [values, map]

/-- A key above all others has its place at the end. -/
theorem place_eq_concat [Std.OrientedOrd κ] {key : κ} {value : α} {entries : List (κ × α)}
    (larger : ∀ entry ∈ entries, compare entry.1 key = .lt) :
    place key value entries = entries ++ [(key, value)] := by
  induction entries with
  | nil => rfl
  | cons head rest ih =>
      have above : compare key head.1 = .gt :=
        Std.OrientedCmp.gt_of_lt (larger head List.mem_cons_self)
      simp only [place, above, List.cons_append]
      rw [ih fun entry inRest => larger entry (List.mem_cons_of_mem _ inRest)]

/-- Entries that stand in order are placed one after the other. -/
theorem foldl_place_eq_append [Std.OrientedOrd κ] {placed entries : List (κ × α)}
    (ordered : (placed ++ entries).Pairwise fun before after => compare before.1 after.1 = .lt) :
    entries.foldl (fun sorted entry => place entry.1 entry.2 sorted) placed =
      placed ++ entries := by
  induction entries generalizing placed with
  | nil => simp
  | cons entry rest ih =>
      have larger : ∀ before ∈ placed, compare before.1 entry.1 = .lt := fun before inPlaced =>
        (List.pairwise_append.mp ordered).2.2 before inPlaced entry List.mem_cons_self
      rw [List.foldl_cons, place_eq_concat larger, ih]
      · simp
      · simpa using ordered

variable [Std.LawfulEqOrd κ]

theorem mem_keys {key : κ} : key ∈ ledger.keys ↔ ∃ value, ledger.find? key = some value := by
  simp only [find?_eq_some_iff, keys, List.mem_map]
  constructor
  · rintro ⟨entry, member, rfl⟩
    exact ⟨entry.2, member⟩
  · rintro ⟨value, member⟩
    exact ⟨(key, value), member, rfl⟩

theorem mem_values {value : α} :
    value ∈ ledger.values ↔ ∃ key, ledger.find? key = some value := by
  simp only [find?_eq_some_iff, values, List.mem_map]
  constructor
  · rintro ⟨entry, member, rfl⟩
    exact ⟨entry.1, member⟩
  · rintro ⟨key, member⟩
    exact ⟨(key, value), member, rfl⟩

/-- Values that name their keys list the keys. -/
theorem map_values_eq_keys {keyOf : α → κ}
    (own : ∀ {key value}, ledger.find? key = some value → keyOf value = key) :
    ledger.values.map keyOf = ledger.keys := by
  rw [values, keys, List.map_map]
  apply List.map_congr_left
  intro entry member
  exact own (find?_eq_some_iff.mpr member)

theorem nodup_keys (ledger : Ledger κ α) : ledger.keys.Nodup := by
  refine List.pairwise_map.mpr (ledger.ordered.imp ?_)
  intro before after smaller same
  simp [same] at smaller

theorem size_le_of_keys_subset {listing : List κ} (listed : ledger.keys ⊆ listing) :
    ledger.size ≤ listing.length := by
  rw [← length_keys]
  exact (List.subperm_of_subset ledger.nodup_keys listed).length_le

variable [Std.TransOrd κ]

/-- A ledger is made of its entries. -/
theorem ofList_entries (ledger : Ledger κ α) : ofList ledger.entries = ledger := by
  have placed (entries : List (κ × α)) (before : Ledger κ α) :
      (entries.foldl (fun ledger entry => ledger.insert entry.1 entry.2) before).entries =
        entries.foldl (fun sorted entry => place entry.1 entry.2 sorted) before.entries := by
    induction entries generalizing before with
    | nil => rfl
    | cons entry rest ih => exact ih (before.insert entry.1 entry.2)
  apply eq_of_entries_eq
  exact (placed ledger.entries empty).trans (foldl_place_eq_append ledger.ordered)

/-- Ledgers that know the same keys list the same keys. -/
theorem keys_eq_of_contains {other : Ledger κ β}
    (same : ∀ key, ledger.contains key = other.contains key) : ledger.keys = other.keys := by
  have bare : (ledger.map fun _ => ()) = other.map fun _ => () := by
    apply ext_find?
    intro key
    have here := same key
    simp only [contains] at here
    rw [find?_map, find?_map]
    cases found : ledger.find? key <;> cases foundOther : other.find? key <;> simp_all
  rw [← keys_map fun _ => (), bare, keys_map]

/-- A key that has an entry keeps it, a key without one receives the first of the new values. -/
theorem find?_foldl_insertNew [DecidableEq κ] (keyOf : α → κ) (values : List α)
    (ledger : Ledger κ α) (key : κ) :
    (values.foldl (fun ledger value => ledger.insertNew (keyOf value) value) ledger).find? key =
      (ledger.find? key).or (values.find? fun value => decide (keyOf value = key)) := by
  induction values generalizing ledger with
  | nil => simp
  | cons value rest ih =>
      rw [List.foldl_cons, ih, find?_insertNew]
      by_cases same : keyOf value = key
      · subst same
        cases ledger.find? (keyOf value) <;> simp
      · simp [same]

end TaskAgent.Ledger
