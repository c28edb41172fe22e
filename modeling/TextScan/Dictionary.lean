import TextScan.Text

/-!
# Dictionaries

A dictionary maps names to values.  Its entries stand in the order of their names, each name
once, so two dictionaries with the same entries are equal and reports come out sorted.
-/

namespace TextScan

/-- Values under names, in the order of the names. -/
structure Dictionary (α : Type) where
  entries : List (Text × α)
  ordered : entries.Pairwise fun left right => left.1 < right.1
  deriving DecidableEq

namespace Dictionary

variable {α : Type}

def empty : Dictionary α :=
  ⟨[], .nil⟩

instance : Inhabited (Dictionary α) :=
  ⟨empty⟩

def insertEntry (name : Text) (value : α) : List (Text × α) → List (Text × α)
  | [] => [(name, value)]
  | entry :: rest =>
    if name < entry.1 then (name, value) :: entry :: rest
    else if entry.1 < name then entry :: insertEntry name value rest
    else (name, value) :: rest

/-- An entry after an insertion is the new one or an old one. -/
theorem mem_insertEntry {name : Text} {value : α} {entries : List (Text × α)} {e : Text × α}
    (h : e ∈ insertEntry name value entries) : e = (name, value) ∨ e ∈ entries := by
  induction entries with
  | nil => simpa [insertEntry] using h
  | cons entry rest ih =>
    rw [insertEntry] at h
    split at h
    · simpa using h
    · split at h
      · rcases List.mem_cons.1 h with rfl | h
        · simp
        · rcases ih h with h | h <;> simp [h]
      · rcases List.mem_cons.1 h with h | h <;> simp [h]

/-- Insertion keeps the order of the names. -/
theorem pairwise_insertEntry {name : Text} {value : α} {entries : List (Text × α)}
    (h : entries.Pairwise fun left right => left.1 < right.1) :
    (insertEntry name value entries).Pairwise fun left right => left.1 < right.1 := by
  induction entries with
  | nil => simp [insertEntry]
  | cons entry rest ih =>
    obtain ⟨hentry, hrest⟩ := List.pairwise_cons.1 h
    rw [insertEntry]
    split
    · rename_i hlt
      refine List.pairwise_cons.2 ⟨fun e he => ?_, h⟩
      rcases List.mem_cons.1 he with rfl | he
      · exact hlt
      · exact List.lt_trans hlt (hentry e he)
    · split
      · rename_i hlt
        refine List.pairwise_cons.2 ⟨fun e he => ?_, ih hrest⟩
        rcases mem_insertEntry he with rfl | he
        · exact hlt
        · exact hentry e he
      · rename_i hnot hnot'
        have hname : name = entry.1 := List.le_antisymm hnot' hnot
        exact List.pairwise_cons.2 ⟨fun e he => hname ▸ hentry e he, hrest⟩

/-- Puts a value under a name, in place of the value that was there. -/
def insert (dictionary : Dictionary α) (name : Text) (value : α) : Dictionary α :=
  ⟨insertEntry name value dictionary.entries, pairwise_insertEntry dictionary.ordered⟩

def get? (dictionary : Dictionary α) (name : Text) : Option α :=
  dictionary.entries.lookup name

/-- An entry is what is found under its name, if no name stands twice. -/
theorem mem_iff_lookup {entries : List (Text × α)}
    (hdistinct : entries.Pairwise fun left right => left.1 ≠ right.1)
    {name : Text} {value : α} : (name, value) ∈ entries ↔ entries.lookup name = some value := by
  induction entries with
  | nil => simp
  | cons entry rest ih =>
    obtain ⟨hentry, hrest⟩ := List.pairwise_cons.1 hdistinct
    obtain ⟨first, found⟩ := entry
    rw [List.mem_cons, List.lookup_cons]
    by_cases hname : name = first
    · subst hname
      have hlater : (name, value) ∉ rest := fun hmem => hentry (name, value) hmem rfl
      simp [hlater, eq_comm]
    · simp [hname, beq_false_of_ne hname, ih hrest]

/-- No name stands twice, since the names are in order. -/
theorem distinct (dictionary : Dictionary α) :
    dictionary.entries.Pairwise fun left right => left.1 ≠ right.1 := by
  refine dictionary.ordered.imp ?_
  intro left right hlt heq
  exact List.lt_irrefl _ (heq ▸ hlt)

/-- The entries say what stands under a name. -/
theorem mem_entries_iff {dictionary : Dictionary α} {name : Text} {value : α} :
    (name, value) ∈ dictionary.entries ↔ dictionary.get? name = some value :=
  mem_iff_lookup dictionary.distinct

/-- What the entries after an insertion hold under a name. -/
theorem lookup_insertEntry (name other : Text) (value : α) (entries : List (Text × α)) :
    (insertEntry name value entries).lookup other =
      if other = name then some value else entries.lookup other := by
  induction entries with
  | nil =>
    by_cases h : other = name
    · simp [insertEntry, h]
    · simp [insertEntry, List.lookup_cons, h, beq_false_of_ne h]
  | cons entry rest ih =>
    rw [insertEntry]
    split
    · by_cases h : other = name
      · simp [h]
      · simp [List.lookup_cons, h, beq_false_of_ne h]
    · rename_i hnot
      split
      · rename_i hlt
        rw [List.lookup_cons, List.lookup_cons, ih]
        by_cases h : other = name
        · have hne : other ≠ entry.1 := fun he => List.lt_irrefl _ (he ▸ h ▸ hlt)
          simp [h, beq_false_of_ne (h ▸ hne)]
        · simp [h]
      · rename_i hnot'
        have hname : name = entry.1 := List.le_antisymm hnot' hnot
        rw [List.lookup_cons, List.lookup_cons, ← hname]
        by_cases h : other = name
        · simp [h]
        · simp [h, beq_false_of_ne h]

/-- After an insertion the name has the new value and all others have what they had. -/
theorem get?_insert (dictionary : Dictionary α) (name other : Text) (value : α) :
    (dictionary.insert name value).get? other =
      if other = name then some value else dictionary.get? other :=
  lookup_insertEntry name other value dictionary.entries

/-- The dictionary of the given pairs.  Of several values under one name the last stays. -/
def ofList (pairs : List (Text × α)) : Dictionary α :=
  pairs.foldl (fun dictionary pair => dictionary.insert pair.1 pair.2) empty

end Dictionary

end TextScan
