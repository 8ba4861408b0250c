namespace LayeredAllocation

structure Table (α : Type) where
  entries : List (Nat × α)
  ascending : entries.Pairwise (fun a b => a.1 < b.1)

namespace Table

def empty : Table α := ⟨[], List.Pairwise.nil⟩

instance : Inhabited (Table α) := ⟨empty⟩

def lookup (key : Nat) : List (Nat × α) → Option α
  | [] => none
  | entry :: rest => if entry.1 = key then some entry.2 else lookup key rest

def insertEntry (key : Nat) (value : α) : List (Nat × α) → List (Nat × α)
  | [] => [(key, value)]
  | entry :: rest =>
    if key < entry.1 then (key, value) :: entry :: rest
    else if key = entry.1 then (key, value) :: rest
    else entry :: insertEntry key value rest

theorem mem_insertEntry {key : Nat} {value : α} {entry : Nat × α} :
    {entries : List (Nat × α)} → entry ∈ insertEntry key value entries →
      entry = (key, value) ∨ entry ∈ entries
  | [], member => by simpa [insertEntry] using member
  | first :: rest, member => by
    unfold insertEntry at member
    split at member
    · simpa using member
    · split at member
      · rcases List.mem_cons.1 member with rfl | inside
        · exact Or.inl rfl
        · exact Or.inr (List.mem_cons_of_mem _ inside)
      · rcases List.mem_cons.1 member with rfl | inside
        · exact Or.inr List.mem_cons_self
        · rcases mem_insertEntry inside with rfl | old
          · exact Or.inl rfl
          · exact Or.inr (List.mem_cons_of_mem _ old)

theorem ascending_insertEntry {key : Nat} {value : α} :
    {entries : List (Nat × α)} → entries.Pairwise (fun a b => a.1 < b.1) →
      (insertEntry key value entries).Pairwise (fun a b => a.1 < b.1)
  | [], _ => by simp [insertEntry]
  | first :: rest, ordered => by
    obtain ⟨above, tail⟩ := List.pairwise_cons.1 ordered
    unfold insertEntry
    split
    · next smaller =>
      refine List.pairwise_cons.2 ⟨?_, ordered⟩
      intro entry member
      rcases List.mem_cons.1 member with rfl | inside
      · exact smaller
      · exact Nat.lt_trans smaller (above entry inside)
    · next larger =>
      split
      · next equal =>
        refine List.pairwise_cons.2 ⟨?_, tail⟩
        intro entry inside
        rw [equal]
        exact above entry inside
      · next different =>
        refine List.pairwise_cons.2 ⟨?_, ascending_insertEntry tail⟩
        intro entry member
        rcases mem_insertEntry member with rfl | inside
        · exact Nat.lt_of_le_of_ne (Nat.le_of_not_lt larger) (Ne.symm different)
        · exact above entry inside

def find? (table : Table α) (key : Nat) : Option α := lookup key table.entries

def insert (table : Table α) (key : Nat) (value : α) : Table α :=
  ⟨insertEntry key value table.entries, ascending_insertEntry table.ascending⟩

def erase (table : Table α) (key : Nat) : Table α :=
  ⟨table.entries.filter (fun entry => entry.1 ≠ key), table.ascending.filter _⟩

def values (table : Table α) : List α := table.entries.map Prod.snd

def size (table : Table α) : Nat := table.entries.length

def isEmpty (table : Table α) : Bool := table.entries.isEmpty

theorem ext_entries {a b : Table α} (same : a.entries = b.entries) : a = b := by
  cases a
  cases b
  cases same
  rfl

theorem lookup_eq_some_iff {key : Nat} {value : α} :
    {entries : List (Nat × α)} → entries.Pairwise (fun a b => a.1 < b.1) →
      (lookup key entries = some value ↔ (key, value) ∈ entries)
  | [], _ => by simp [lookup]
  | first :: rest, ordered => by
    obtain ⟨above, tail⟩ := List.pairwise_cons.1 ordered
    unfold lookup
    split
    · next equal =>
      subst equal
      constructor
      · intro found
        cases found
        exact List.mem_cons_self
      · intro member
        rcases List.mem_cons.1 member with equal | inside
        · rw [← equal]
        · exact absurd (above _ inside) (Nat.lt_irrefl _)
    · next different =>
      rw [lookup_eq_some_iff tail, List.mem_cons]
      constructor
      · exact Or.inr
      · rintro (equal | inside)
        · exact absurd (by rw [← equal]) different
        · exact inside

theorem find?_eq_some_iff {table : Table α} {key : Nat} {value : α} :
    table.find? key = some value ↔ (key, value) ∈ table.entries :=
  lookup_eq_some_iff table.ascending

theorem lookup_insertEntry {key other : Nat} {value : α} :
    {entries : List (Nat × α)} → entries.Pairwise (fun a b => a.1 < b.1) →
      lookup other (insertEntry key value entries) =
        if other = key then some value else lookup other entries
  | [], _ => by
    simp only [insertEntry, lookup, eq_comm]
  | first :: rest, ordered => by
    obtain ⟨above, tail⟩ := List.pairwise_cons.1 ordered
    unfold insertEntry
    split
    · simp only [lookup, eq_comm (a := key)]
    · split
      · next equal =>
        simp only [lookup, eq_comm (a := key), ← equal]
        split <;> rfl
      · next different =>
        simp only [lookup, lookup_insertEntry tail]
        split
        · next here =>
          rw [if_neg (by rw [← here]; exact Ne.symm different)]
        · rfl

theorem find?_insert (table : Table α) (key other : Nat) (value : α) :
    (table.insert key value).find? other = if other = key then some value else table.find? other :=
  lookup_insertEntry table.ascending

theorem lookup_filter {key other : Nat} :
    (entries : List (Nat × α)) →
      lookup other (entries.filter (fun entry => entry.1 ≠ key)) =
        if other = key then none else lookup other entries
  | [] => by simp [lookup]
  | first :: rest => by
    rw [List.filter_cons]
    by_cases removed : first.1 = key
    · simp only [removed, ne_eq, not_true_eq_false, decide_false, Bool.false_eq_true, if_false,
        lookup_filter rest, lookup]
      by_cases same : other = key
      · simp [same]
      · simp [same, Ne.symm same]
    · simp only [removed, ne_eq, not_false_eq_true, decide_true, if_true, lookup,
        lookup_filter rest]
      by_cases here : first.1 = other
      · subst here
        simp [removed]
      · simp [here]

theorem find?_erase (table : Table α) (key other : Nat) :
    (table.erase key).find? other = if other = key then none else table.find? other :=
  lookup_filter table.entries

theorem find?_empty (key : Nat) : (empty : Table α).find? key = none := rfl

theorem ext_find? {a b : Table α} (same : ∀ key, a.find? key = b.find? key) : a = b := by
  apply ext_entries
  have members : ∀ entry, entry ∈ a.entries ↔ entry ∈ b.entries := by
    intro entry
    rw [← find?_eq_some_iff, ← find?_eq_some_iff, same]
  have sorted : ∀ {xs ys : List (Nat × α)}, xs.Pairwise (fun a b => a.1 < b.1) →
      ys.Pairwise (fun a b => a.1 < b.1) → (∀ entry, entry ∈ xs ↔ entry ∈ ys) → xs = ys := by
    intro xs
    induction xs with
    | nil =>
      intro ys _ _ equal
      cases ys with
      | nil => rfl
      | cons y rest => exact absurd ((equal y).2 List.mem_cons_self) (by simp)
    | cons x rest ih =>
      intro ys ordered other equal
      cases ys with
      | nil => exact absurd ((equal x).1 List.mem_cons_self) (by simp)
      | cons y others =>
        obtain ⟨aboveX, tailX⟩ := List.pairwise_cons.1 ordered
        obtain ⟨aboveY, tailY⟩ := List.pairwise_cons.1 other
        have first : x = y := by
          rcases List.mem_cons.1 ((equal x).1 List.mem_cons_self) with same | insideY
          · exact same
          · rcases List.mem_cons.1 ((equal y).2 List.mem_cons_self) with same | insideX
            · exact same.symm
            · exact absurd (Nat.lt_trans (aboveX y insideX) (aboveY x insideY)) (Nat.lt_irrefl _)
        subst first
        rw [ih tailX tailY]
        intro entry
        constructor
        · intro inside
          rcases List.mem_cons.1 ((equal entry).1 (List.mem_cons_of_mem _ inside)) with rfl | found
          · exact absurd (aboveX _ inside) (Nat.lt_irrefl _)
          · exact found
        · intro inside
          rcases List.mem_cons.1 ((equal entry).2 (List.mem_cons_of_mem _ inside)) with rfl | found
          · exact absurd (aboveY _ inside) (Nat.lt_irrefl _)
          · exact found
  exact sorted a.ascending b.ascending members

theorem insert_erase {table : Table α} {key : Nat} {value : α}
    (found : table.find? key = some value) : (table.erase key).insert key value = table := by
  apply ext_find?
  intro other
  rw [find?_insert, find?_erase]
  split
  · next equal => rw [equal, found]
  · rfl

-- A value takes the place of the one that had its key before.
theorem erase_insert (table : Table α) (key : Nat) (value : α) :
    (table.erase key).insert key value = table.insert key value := by
  apply ext_find?
  intro other
  rw [find?_insert, find?_insert, find?_erase]
  split <;> rfl

theorem insertEntry_perm {key : Nat} {value : α} :
    {entries : List (Nat × α)} → lookup key entries = none →
      (insertEntry key value entries).Perm ((key, value) :: entries)
  | [], _ => List.Perm.refl _
  | first :: rest, absent => by
    unfold lookup at absent
    split at absent
    · cases absent
    · next different =>
      unfold insertEntry
      split
      · exact List.Perm.refl _
      · rw [if_neg (Ne.symm different)]
        exact ((insertEntry_perm absent).cons first).trans (List.Perm.swap _ _ _)

theorem entries_insert {table : Table α} {key : Nat} (absent : table.find? key = none) (value : α) :
    (table.insert key value).entries.Perm ((key, value) :: table.entries) := insertEntry_perm absent

theorem entries_erase {table : Table α} {key : Nat} {value : α} (found : table.find? key = some value) :
    table.entries.Perm ((key, value) :: (table.erase key).entries) := by
  have absent : (table.erase key).find? key = none := by rw [find?_erase, if_pos rfl]
  have restored := entries_insert absent value
  rwa [insert_erase found] at restored

theorem values_insert {table : Table α} {key : Nat} (absent : table.find? key = none) (value : α) :
    (table.insert key value).values.Perm (value :: table.values) :=
  (entries_insert absent value).map Prod.snd

theorem values_insert_over (table : Table α) (key : Nat) (value : α) :
    (table.insert key value).values.Perm (value :: (table.erase key).values) := by
  have absent : (table.erase key).find? key = none := by rw [find?_erase, if_pos rfl]
  rw [← erase_insert]
  exact values_insert absent value

theorem values_erase {table : Table α} {key : Nat} {value : α} (found : table.find? key = some value) :
    table.values.Perm (value :: (table.erase key).values) := (entries_erase found).map Prod.snd

theorem mem_values {table : Table α} {key : Nat} {value : α} (found : table.find? key = some value) :
    value ∈ table.values := List.mem_map.2 ⟨_, find?_eq_some_iff.1 found, rfl⟩

-- Every value is on record under a key of its own.
def Keyed (key : α → Nat) (table : Table α) : Prop :=
  ∀ k value, table.find? k = some value → key value = k

section
variable {key : α → Nat} {table : Table α} {value : α} {k : Nat}

theorem Keyed.empty : (empty : Table α).Keyed key := by
  intro k value found
  rw [find?_empty] at found
  cases found

theorem Keyed.insert (keyed : table.Keyed key) (value : α) :
    (table.insert (key value) value).Keyed key := by
  intro k other found
  rw [find?_insert] at found
  split at found
  · next same =>
    cases found
    exact same.symm
  · exact keyed k other found

theorem Keyed.erase (keyed : table.Keyed key) (k : Nat) : (table.erase k).Keyed key := by
  intro k' other found
  rw [find?_erase] at found
  split at found
  · cases found
  · exact keyed k' other found

theorem Keyed.values_erase (keyed : table.Keyed key) (k : Nat) :
    (table.erase k).values = table.values.filter (key · ≠ k) := by
  change (table.entries.filter (·.1 ≠ k)).map Prod.snd = (table.entries.map Prod.snd).filter _
  rw [List.filter_map]
  apply congrArg
  apply List.filter_congr
  intro entry member
  have same := keyed entry.1 entry.2 (find?_eq_some_iff.2 member)
  simp only [Function.comp_apply, same]

theorem Keyed.absent (keyed : table.Keyed key) (elsewhere : ∀ value ∈ table.values, key value ≠ k) :
    table.find? k = none := by
  cases found : table.find? k with
  | none => rfl
  | some value => exact absurd (keyed k value found) (elsewhere value (mem_values found))

-- A value that is put back under its own key is where it was before.
theorem Keyed.restore (keyed : table.Keyed key) (found : table.find? k = some value) :
    (table.erase k).insert (key value) value = table := by
  rw [keyed k value found, insert_erase found]

end

end LayeredAllocation.Table
