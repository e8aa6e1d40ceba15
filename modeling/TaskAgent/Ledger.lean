/-!
# Ledgers

A ledger is a finite map whose entries stand in increasing order of their keys, each key once.
The order is part of the type, so a listing is sorted without sorting and two ledgers that
answer every look-up alike are equal (`Ledger.ext_find?`).

Writing comes in two forms: `insert` replaces what stands under the key, `insertNew` leaves it.
-/

namespace TaskAgent

universe u v

/-- A finite map from `κ` to `α`, listed in increasing order of keys. -/
structure Ledger (κ : Type u) [Ord κ] (α : Type v) where
  /-- The entries, each key once. -/
  entries : List (κ × α)
  /-- Every key is smaller than the keys after it. -/
  ordered : entries.Pairwise fun before after => compare before.1 after.1 = .lt

namespace Ledger

variable {κ : Type u} {α : Type v} [Ord κ]

instance [DecidableEq κ] [DecidableEq α] : DecidableEq (Ledger κ α) := fun first second =>
  decidable_of_iff (first.entries = second.entries) (by
    cases first; cases second; simp)

/-- The ledger without entries. -/
def empty : Ledger κ α := ⟨[], .nil⟩

instance : EmptyCollection (Ledger κ α) := ⟨empty⟩

instance : Inhabited (Ledger κ α) := ⟨empty⟩

/-- The number of entries. -/
def size (ledger : Ledger κ α) : Nat := ledger.entries.length

/-- The keys in increasing order. -/
def keys (ledger : Ledger κ α) : List κ := ledger.entries.map (·.1)

/-- The values in increasing order of their keys. -/
def values (ledger : Ledger κ α) : List α := ledger.entries.map (·.2)

/-- The first value listed under `key`. -/
def search (key : κ) : List (κ × α) → Option α
  | [] => none
  | entry :: rest => if compare key entry.1 = .eq then some entry.2 else search key rest

/-- The value under `key`, if there is one. -/
def find? (ledger : Ledger κ α) (key : κ) : Option α := search key ledger.entries

/-- Whether an entry stands under `key`. -/
def contains (ledger : Ledger κ α) (key : κ) : Bool := (ledger.find? key).isSome

/-- An ordered list of entries with `value` written under `key` at its place. -/
def place (key : κ) (value : α) : List (κ × α) → List (κ × α)
  | [] => [(key, value)]
  | entry :: rest =>
    match compare key entry.1 with
    | .lt => (key, value) :: entry :: rest
    | .eq => (key, value) :: rest
    | .gt => entry :: place key value rest

theorem mem_place {key : κ} {value : α} {entries : List (κ × α)} {entry : κ × α}
    (member : entry ∈ place key value entries) : entry = (key, value) ∨ entry ∈ entries := by
  induction entries with
  | nil => exact .inl (by simpa [place] using member)
  | cons head rest ih =>
    rw [place] at member
    split at member
    · simpa using member
    · rcases List.mem_cons.1 member with same | inRest
      · exact .inl same
      · exact .inr (List.mem_cons_of_mem _ inRest)
    · rcases List.mem_cons.1 member with same | inRest
      · exact .inr (same ▸ List.mem_cons_self)
      · exact (ih inRest).imp_right (List.mem_cons_of_mem _)

@[simp] theorem find?_empty (key : κ) : (empty : Ledger κ α).find? key = none := rfl

section Laws

variable [Std.TransOrd κ] [Std.LawfulEqOrd κ]

theorem place_ordered (key : κ) (value : α) {entries : List (κ × α)}
    (ordered : entries.Pairwise fun before after => compare before.1 after.1 = .lt) :
    (place key value entries).Pairwise fun before after => compare before.1 after.1 = .lt := by
  induction entries with
  | nil => simp [place]
  | cons head rest ih =>
    have ⟨headFirst, restOrdered⟩ := List.pairwise_cons.1 ordered
    rw [place]
    split
    next smaller =>
      refine List.pairwise_cons.2 ⟨fun entry member => ?_, ordered⟩
      rcases List.mem_cons.1 member with same | inRest
      · exact same ▸ smaller
      · exact Std.TransCmp.lt_trans smaller (headFirst entry inRest)
    next same =>
      have same : key = head.1 := Std.LawfulEqCmp.eq_of_compare same
      exact List.pairwise_cons.2 ⟨fun entry member => same ▸ headFirst entry member, restOrdered⟩
    next larger =>
      refine List.pairwise_cons.2 ⟨fun entry member => ?_, ih restOrdered⟩
      rcases mem_place member with same | inRest
      · exact same ▸ Std.OrientedCmp.lt_of_gt larger
      · exact headFirst entry inRest

/-- Writes `value` under `key`, in place of what stood there. -/
def insert (ledger : Ledger κ α) (key : κ) (value : α) : Ledger κ α :=
  ⟨place key value ledger.entries, place_ordered key value ledger.ordered⟩

/-- Writes `value` under `key` unless something stands there already. -/
def insertNew (ledger : Ledger κ α) (key : κ) (value : α) : Ledger κ α :=
  if ledger.contains key then ledger else ledger.insert key value

/-- Removes the entry under `key`. -/
def erase (ledger : Ledger κ α) (key : κ) : Ledger κ α :=
  ⟨ledger.entries.filter fun entry => compare key entry.1 != .eq, ledger.ordered.filter _⟩

/-- The ledger that holds the given pairs; of two with one key the later one stays. -/
def ofList (pairs : List (κ × α)) : Ledger κ α :=
  pairs.foldl (fun ledger pair => ledger.insert pair.1 pair.2) empty

omit [Std.TransOrd κ] in
theorem search_place [DecidableEq κ] (key other : κ) (value : α) (entries : List (κ × α)) :
    search other (place key value entries) =
      if key = other then some value else search other entries := by
  induction entries with
  | nil =>
    by_cases same : key = other
    · simp [place, search, same]
    · have : ¬ compare other key = .eq := fun equal =>
        same (Std.LawfulEqCmp.eq_of_compare equal).symm
      simp [place, search, same, this]
  | cons head rest ih =>
    by_cases same : key = other
    · subst same
      rw [place]
      split
      · simp [search]
      · simp [search]
      next larger =>
        have : ¬ compare key head.1 = .eq := by simp [larger]
        simp [search, this, ih]
    · have notEqual : ¬ compare other key = .eq := fun equal =>
        same (Std.LawfulEqCmp.eq_of_compare equal).symm
      rw [place]
      split
      · simp [search, notEqual, same]
      next equal =>
        have headKey : key = head.1 := Std.LawfulEqCmp.eq_of_compare equal
        have : ¬ compare other head.1 = .eq := headKey ▸ notEqual
        simp [search, notEqual, same, this]
      · simp only [search, ih, same, if_false]

/-- A written key answers with what was written, every other key as before. -/
theorem find?_insert [DecidableEq κ] (ledger : Ledger κ α) (key other : κ) (value : α) :
    (ledger.insert key value).find? other =
      if key = other then some value else ledger.find? other :=
  search_place key other value ledger.entries

omit [Std.TransOrd κ] in
theorem search_filter [DecidableEq κ] (key other : κ) (entries : List (κ × α)) :
    search other (entries.filter fun entry => compare key entry.1 != .eq) =
      if key = other then none else search other entries := by
  induction entries with
  | nil => simp [search]
  | cons head rest ih =>
    by_cases equal : compare key head.1 = .eq
    · have headKey : key = head.1 := Std.LawfulEqCmp.eq_of_compare equal
      by_cases same : key = other
      · subst same
        rw [List.filter_cons_of_neg (by simp [equal])]
        simpa using ih
      · have : ¬ compare other head.1 = .eq := fun equalOther =>
          same (headKey.trans (Std.LawfulEqCmp.eq_of_compare equalOther).symm)
        simp [equal, same, search, this, ih]
    · by_cases same : key = other
      · subst same
        simpa [equal, search] using ih
      · simp [equal, search, ih, same]

omit [Std.TransOrd κ] in
/-- An erased key has no entry, every other key answers as before. -/
theorem find?_erase [DecidableEq κ] (ledger : Ledger κ α) (key other : κ) :
    (ledger.erase key).find? other = if key = other then none else ledger.find? other :=
  search_filter key other ledger.entries

/-- A key that has an entry keeps it, a key without one receives `value`. -/
theorem find?_insertNew [DecidableEq κ] (ledger : Ledger κ α) (key other : κ) (value : α) :
    (ledger.insertNew key value).find? other =
      if key = other then some ((ledger.find? key).getD value) else ledger.find? other := by
  unfold insertNew contains
  split
  next held =>
    obtain ⟨old, found⟩ := Option.isSome_iff_exists.1 held
    split
    next same => simp [← same, found]
    · rfl
  next absent =>
    have absent : ledger.find? key = none := by simpa using absent
    simp [find?_insert, absent]

omit [Std.TransOrd κ] in
theorem search_eq_some_iff {key : κ} {value : α} {entries : List (κ × α)}
    (ordered : entries.Pairwise fun before after => compare before.1 after.1 = .lt) :
    search key entries = some value ↔ (key, value) ∈ entries := by
  induction entries with
  | nil => simp [search]
  | cons head rest ih =>
    have ⟨headFirst, restOrdered⟩ := List.pairwise_cons.1 ordered
    rw [search]
    by_cases equal : compare key head.1 = .eq
    · have headKey : key = head.1 := Std.LawfulEqCmp.eq_of_compare equal
      have notInRest : (key, value) ∉ rest := fun member => by
        have := headFirst _ member
        simp [← headKey] at this
      simp only [equal, if_true, Option.some.injEq, List.mem_cons, notInRest, or_false]
      constructor
      · intro same; cases head; simp_all
      · intro same; rw [← same]
    · have notHead : (key, value) ≠ head := fun same => equal (by simp [← same])
      simp [equal, ih restOrdered, notHead]

omit [Std.TransOrd κ] in
/-- Looking up finds exactly the entries. -/
theorem find?_eq_some_iff {ledger : Ledger κ α} {key : κ} {value : α} :
    ledger.find? key = some value ↔ (key, value) ∈ ledger.entries :=
  search_eq_some_iff ledger.ordered

theorem entries_eq_of_search_eq {first second : List (κ × α)}
    (firstOrdered : first.Pairwise fun before after => compare before.1 after.1 = .lt)
    (secondOrdered : second.Pairwise fun before after => compare before.1 after.1 = .lt)
    (agree : ∀ key, search key first = search key second) : first = second := by
  have members : ∀ entry, entry ∈ first ↔ entry ∈ second := fun entry => by
    have := agree entry.1
    rw [← Prod.eta entry, ← search_eq_some_iff firstOrdered,
      ← search_eq_some_iff secondOrdered, this]
  induction first generalizing second with
  | nil =>
    cases second with
    | nil => rfl
    | cons head rest => exact absurd ((members head).2 List.mem_cons_self) (by simp)
  | cons head rest ih =>
    cases second with
    | nil => exact absurd ((members head).1 List.mem_cons_self) (by simp)
    | cons other others =>
      have ⟨headFirst, restOrdered⟩ := List.pairwise_cons.1 firstOrdered
      have ⟨otherFirst, othersOrdered⟩ := List.pairwise_cons.1 secondOrdered
      have heads : head = other := by
        rcases List.mem_cons.1 ((members head).1 List.mem_cons_self) with same | inOthers
        · exact same
        · rcases List.mem_cons.1 ((members other).2 List.mem_cons_self) with same | inRest
          · exact same.symm
          · have before := headFirst other inRest
            have after := otherFirst head inOthers
            exact absurd (Std.TransCmp.lt_trans before after) (by simp)
      subst heads
      have notInRest : ∀ value, (head.1, value) ∉ rest := fun value member => by
        have := headFirst _ member
        simp at this
      have notInOthers : ∀ value, (head.1, value) ∉ others := fun value member => by
        have := otherFirst _ member
        simp at this
      have membersRest : ∀ entry, entry ∈ rest ↔ entry ∈ others := fun entry => by
        have := members entry
        rw [List.mem_cons, List.mem_cons] at this
        constructor
        · intro member
          rcases this.1 (.inr member) with same | inOthers
          · exact absurd (same ▸ member) (notInRest head.2)
          · exact inOthers
        · intro member
          rcases this.2 (.inr member) with same | inRest
          · exact absurd (same ▸ member) (notInOthers head.2)
          · exact inRest
      rw [ih restOrdered othersOrdered (fun key => ?_) membersRest]
      match found : search key rest, other : search key others with
      | none, none => rfl
      | some value, _ =>
        rw [search_eq_some_iff restOrdered, membersRest,
          ← search_eq_some_iff othersOrdered] at found
        rw [← other, found]
      | none, some value =>
        rw [search_eq_some_iff othersOrdered, ← membersRest,
          ← search_eq_some_iff restOrdered] at other
        rw [other] at found
        cases found

/-- Ledgers that answer every look-up alike are equal. -/
theorem ext_find? {first second : Ledger κ α}
    (agree : ∀ key, first.find? key = second.find? key) : first = second := by
  have := entries_eq_of_search_eq first.ordered second.ordered agree
  cases first; cases second; simp_all

end Laws

end Ledger

end TaskAgent
