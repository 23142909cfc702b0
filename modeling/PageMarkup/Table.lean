/-!
# Tables

A table gives values to distinct keys and keeps the order in which the keys first came. Writing a
key again changes its value and leaves it in its place.
-/

namespace PageMarkup

/-- Values by key, in the order of the first writing of each key. -/
structure Table (α : Type) where
  /-- The keys with their values. -/
  entries : List (String × α)
  /-- No key occurs twice. -/
  distinct : (entries.map Prod.fst).Nodup
deriving DecidableEq

namespace Table

variable {α : Type}

/-- The table without entries. -/
def empty : Table α := ⟨[], List.nodup_nil⟩

instance : EmptyCollection (Table α) := ⟨empty⟩

instance : Inhabited (Table α) := ⟨empty⟩

/-- The keys in order. -/
def keys (table : Table α) : List String := table.entries.map Prod.fst

/-- Whether there are no entries. -/
def isEmpty (table : Table α) : Bool := table.entries.isEmpty

/-- The value of a key, if it has one. -/
def get? (table : Table α) (key : String) : Option α := table.entries.lookup key

/-- Writes a value into a list of entries: in place of the value the key has, or else at the
end. -/
def put (key : String) (value : α) : List (String × α) → List (String × α)
  | [] => [(key, value)]
  | (other, old) :: rest =>
    if other = key then (other, value) :: rest else (other, old) :: put key value rest

/-- Writing changes the keys only by a new one at the end. -/
theorem map_fst_put (key : String) (value : α) (entries : List (String × α)) :
    (put key value entries).map Prod.fst =
      if key ∈ entries.map Prod.fst then entries.map Prod.fst
      else entries.map Prod.fst ++ [key] := by
  induction entries with
  | nil => simp [put]
  | cons entry rest ih =>
    obtain ⟨other, old⟩ := entry
    by_cases h : other = key
    · simp [put, h]
    · have h' : key ≠ other := fun e => h e.symm
      by_cases hmem : key ∈ rest.map Prod.fst <;> simp_all [put]

/-- What is written into a table was there before, or is the new entry. -/
theorem mem_put {key : String} {value : α} {entries : List (String × α)}
    {entry : String × α} (h : entry ∈ put key value entries) :
    entry ∈ entries ∨ entry = (key, value) := by
  induction entries with
  | nil => exact .inr (List.mem_singleton.mp h)
  | cons first rest ih =>
    obtain ⟨other, old⟩ := first
    unfold put at h
    split at h
    · next hkey =>
      subst hkey
      rcases List.mem_cons.mp h with rfl | hrest
      · exact .inr rfl
      · exact .inl (List.mem_cons_of_mem _ hrest)
    · rcases List.mem_cons.mp h with rfl | hrest
      · exact .inl List.mem_cons_self
      · exact (ih hrest).imp_left (List.mem_cons_of_mem _)

/-- Writing keeps keys distinct. -/
theorem nodup_put (key : String) (value : α) {entries : List (String × α)}
    (h : (entries.map Prod.fst).Nodup) : ((put key value entries).map Prod.fst).Nodup := by
  rw [map_fst_put]
  split
  · exact h
  · next hmem =>
    exact List.nodup_append.mpr ⟨h, by simp, by
      rintro a ha b hb rfl
      exact hmem (List.mem_singleton.mp hb ▸ ha)⟩

/-- The table after writing a value. -/
def insert (table : Table α) (key : String) (value : α) : Table α :=
  ⟨put key value table.entries, nodup_put key value table.distinct⟩

/-- The table after writing pairs one after the other. -/
def ofPairs (pairs : List (String × α)) : Table α :=
  pairs.foldl (fun table pair => table.insert pair.1 pair.2) empty

/-- Puts an entry before the first one with a greater key. -/
def place (entry : String × α) : List (String × α) → List (String × α)
  | [] => [entry]
  | other :: rest =>
    if entry.1 < other.1 then entry :: other :: rest else other :: place entry rest

/-- Placing an entry only chooses where it stands. -/
theorem perm_place (entry : String × α) (entries : List (String × α)) :
    (place entry entries).Perm (entry :: entries) := by
  induction entries with
  | nil => exact .refl _
  | cons other rest ih =>
    unfold place
    split
    · exact .refl _
    · exact (ih.cons other).trans (.swap entry other rest)

/-- Placing entries one after the other only reorders them. -/
theorem perm_foldr_place (entries : List (String × α)) :
    (entries.foldr place []).Perm entries := by
  induction entries with
  | nil => exact .refl _
  | cons entry rest ih => exact (perm_place entry _).trans (ih.cons entry)

/-- The same entries in the order of their keys. -/
def sorted (table : Table α) : Table α :=
  ⟨table.entries.foldr place [],
    ((perm_foldr_place table.entries).map Prod.fst).nodup_iff.mpr table.distinct⟩

@[simp]
theorem entries_empty : (empty : Table α).entries = [] := rfl

@[simp]
theorem entries_insert (table : Table α) (key : String) (value : α) :
    (table.insert key value).entries = put key value table.entries := rfl

/-- Writing a value adds no key but its own. -/
theorem mem_keys_insert {table : Table α} {key other : String} {value : α}
    (h : other ∈ (table.insert key value).keys) : other ∈ table.keys ∨ other = key := by
  obtain ⟨entry, hentry, rfl⟩ := List.mem_map.mp h
  rcases mem_put hentry with hold | rfl
  · exact .inl (List.mem_map_of_mem hold)
  · exact .inr rfl

/-- A key that was written has its new value. -/
theorem get?_insert_self (table : Table α) (key : String) (value : α) :
    (table.insert key value).get? key = some value := by
  obtain ⟨entries, distinct⟩ := table
  simp only [get?, insert]
  clear distinct
  induction entries with
  | nil => simp [put]
  | cons entry rest ih =>
    obtain ⟨other, old⟩ := entry
    by_cases h : other = key
    · simp [put, h]
    · have h' : (key == other) = false := by simpa using fun e => h e.symm
      simp [put, h, List.lookup_cons, h', ih]

/-- Tables with the same entries are equal. -/
@[ext]
theorem ext {first second : Table α} (h : first.entries = second.entries) : first = second := by
  cases first
  cases second
  cases h
  rfl

/-- The keys after a writing: a new key comes last. -/
theorem keys_insert (table : Table α) (key : String) (value : α) :
    (table.insert key value).keys = if key ∈ table.keys then table.keys else table.keys ++ [key] :=
  map_fst_put key value table.entries

/-- The other keys keep their values. -/
theorem get?_insert_of_ne (table : Table α) {key other : String} (value : α) (h : other ≠ key) :
    (table.insert key value).get? other = table.get? other := by
  have hkey : (other == key) = false := by simpa using h
  simp only [get?, entries_insert]
  induction table.entries with
  | nil => rw [put, List.lookup_cons, hkey]
  | cons entry rest ih =>
    obtain ⟨first, old⟩ := entry
    by_cases hfirst : first = key
    · subst hfirst
      rw [put, if_pos rfl, List.lookup_cons, List.lookup_cons, hkey]
    · rw [put, if_neg hfirst, List.lookup_cons, List.lookup_cons, ih]

/-- Writing the value that a key has changes nothing. -/
theorem insert_eq_self {table : Table α} {key : String} {value : α}
    (h : table.get? key = some value) : table.insert key value = table := by
  obtain ⟨entries, distinct⟩ := table
  refine ext ?_
  simp only [get?, entries_insert] at h ⊢
  clear distinct
  induction entries with
  | nil => cases h
  | cons entry rest ih =>
    obtain ⟨other, old⟩ := entry
    by_cases hkey : other = key
    · have hold : old = value := by simpa [List.lookup_cons, hkey] using h
      rw [put, if_pos hkey, hold]
    · have hne : (key == other) = false := by simpa using fun e => hkey e.symm
      rw [List.lookup_cons, hne] at h
      rw [put, if_neg hkey, ih h]

end Table

end PageMarkup
