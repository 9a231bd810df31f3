/-!
# Tables

Finite maps from names to values. A name stands in a table at most once; the order of the entries
is the order of their first insertion and means nothing. The lemmas say what every operation does
to `get?`.
-/

namespace FaultPlane

/-- A finite map from names to values. -/
structure Table (α : Type) where
  entries : List (String × α)
  /-- No name stands in the table twice. -/
  nodup : (entries.map Prod.fst).Nodup

namespace Table

variable {α : Type}

def empty : Table α := ⟨[], List.nodup_nil⟩

/-- The value under a name. -/
def get? (table : Table α) (name : String) : Option α := table.entries.lookup name

def keys (table : Table α) : List String := table.entries.map Prod.fst

def values (table : Table α) : List α := table.entries.map Prod.snd

def size (table : Table α) : Nat := table.entries.length

/-! ### Inserting -/

/-- Puts a value in the place of the first entry with its name, or at the end. -/
def insertEntry (name : String) (a : α) : List (String × α) → List (String × α)
  | [] => [(name, a)]
  | (k, b) :: rest => if k = name then (name, a) :: rest else (k, b) :: insertEntry name a rest

theorem fst_insertEntry (name : String) (a : α) (entries : List (String × α)) :
    (insertEntry name a entries).map Prod.fst =
      if name ∈ entries.map Prod.fst then entries.map Prod.fst
      else entries.map Prod.fst ++ [name] := by
  induction entries with
  | nil => rfl
  | cons e rest ih =>
    obtain ⟨k, b⟩ := e
    by_cases h : k = name
    · simp [insertEntry, h]
    · have h' : ¬ name = k := fun same => h same.symm
      by_cases member : name ∈ rest.map Prod.fst
      · rw [if_pos member] at ih
        rw [List.map_cons, if_pos (List.mem_cons_of_mem _ member)]
        simp only [insertEntry, if_neg h, List.map_cons, ih]
      · rw [if_neg member] at ih
        rw [List.map_cons, if_neg fun inside => (List.mem_cons.1 inside).elim h' member]
        simp only [insertEntry, if_neg h, List.map_cons, ih, List.cons_append]

theorem nodup_insertEntry (name : String) (a : α) {entries : List (String × α)}
    (h : (entries.map Prod.fst).Nodup) : ((insertEntry name a entries).map Prod.fst).Nodup := by
  rw [fst_insertEntry]
  split
  · exact h
  · next fresh =>
    refine List.nodup_append.2 ⟨h, by simp, fun k hk k' hk' same => fresh ?_⟩
    rw [← List.mem_singleton.1 hk', ← same]
    exact hk

/-- Puts a value under a name, in place of a former one. -/
def insert (table : Table α) (name : String) (a : α) : Table α :=
  ⟨insertEntry name a table.entries, nodup_insertEntry name a table.nodup⟩

/-- A new name comes after the others. -/
theorem keys_insert (table : Table α) {name : String} (a : α) (h : name ∉ table.keys) :
    (table.insert name a).keys = table.keys ++ [name] :=
  (fst_insertEntry name a table.entries).trans (if_neg h)

/-- A name that is there already keeps its place. -/
theorem keys_insert_of_mem (table : Table α) {name : String} (a : α) (h : name ∈ table.keys) :
    (table.insert name a).keys = table.keys :=
  (fst_insertEntry name a table.entries).trans (if_pos h)

theorem ext {t t' : Table α} (h : t.entries = t'.entries) : t = t' := by
  cases t
  cases t'
  cases h
  rfl

/-- The last value that is put under a name replaces the one before. -/
theorem insertEntry_insertEntry (name : String) (a b : α) (entries : List (String × α)) :
    insertEntry name b (insertEntry name a entries) = insertEntry name b entries := by
  induction entries with
  | nil => simp [insertEntry]
  | cons e rest ih =>
    obtain ⟨k, c⟩ := e
    by_cases h : k = name
    · simp [insertEntry, h]
    · simp only [insertEntry, if_neg h, ih]

theorem insert_insert (table : Table α) (name : String) (a b : α) :
    (table.insert name a).insert name b = table.insert name b :=
  ext (insertEntry_insertEntry name a b table.entries)

/-- Values under different names may be put in any order, unless both names are new. -/
theorem insertEntry_comm {name name' : String} (h : name ≠ name') (a b : α)
    {entries : List (String × α)} (inside : name ∈ entries.map Prod.fst) :
    insertEntry name a (insertEntry name' b entries) =
      insertEntry name' b (insertEntry name a entries) := by
  induction entries with
  | nil => cases inside
  | cons e rest ih =>
    obtain ⟨k, c⟩ := e
    by_cases hk : k = name
    · subst hk
      simp [insertEntry, h]
    · by_cases hk' : k = name'
      · subst hk'
        simp [insertEntry, hk]
      · have hrest : name ∈ rest.map Prod.fst := by
          simpa [Ne.symm hk] using inside
        simp only [insertEntry, if_neg hk, if_neg hk', ih hrest]

theorem insert_comm (table : Table α) {name name' : String} (h : name ≠ name') (a b : α)
    (inside : name ∈ table.keys) :
    (table.insert name' b).insert name a = (table.insert name a).insert name' b :=
  ext (insertEntry_comm h a b inside)

/-- The table of some pairs; of several pairs with one name the last counts. -/
def ofList (pairs : List (String × α)) : Table α :=
  pairs.foldl (fun table (name, a) => table.insert name a) empty

theorem insertEntry_of_not_mem {name : String} (a : α) {entries : List (String × α)}
    (h : name ∉ entries.map Prod.fst) : insertEntry name a entries = entries ++ [(name, a)] := by
  induction entries with
  | nil => rfl
  | cons e rest ih =>
    obtain ⟨k, b⟩ := e
    rw [List.map_cons, List.mem_cons, not_or] at h
    rw [insertEntry, if_neg (Ne.symm h.1), ih h.2, List.cons_append]

theorem entries_foldl_insert (pairs : List (String × α)) (table : Table α)
    (h : ((table.entries ++ pairs).map Prod.fst).Nodup) :
    (pairs.foldl (fun table (name, a) => table.insert name a) table).entries =
      table.entries ++ pairs := by
  induction pairs generalizing table with
  | nil => rw [List.append_nil, List.foldl_nil]
  | cons e pairs ih =>
    obtain ⟨name, a⟩ := e
    have fresh : name ∉ table.entries.map Prod.fst := by
      rw [List.map_append, List.nodup_append] at h
      exact fun inside => h.2.2 name inside name List.mem_cons_self rfl
    have hentries : (table.insert name a).entries = table.entries ++ [(name, a)] :=
      insertEntry_of_not_mem a fresh
    have hfirst : (table.insert name a).entries ++ pairs = table.entries ++ (name, a) :: pairs := by
      rw [hentries, List.append_assoc, List.singleton_append]
    rw [List.foldl_cons, ih _ (by rw [hfirst]; exact h), hfirst]

/-- Pairs with different names are the entries of their table. -/
theorem entries_ofList {pairs : List (String × α)} (h : (pairs.map Prod.fst).Nodup) :
    (ofList pairs).entries = pairs :=
  entries_foldl_insert pairs empty h

/-! ### Removing -/

/-- Keeps the entries that fulfil a condition. -/
def filter (p : String → α → Bool) (table : Table α) : Table α :=
  ⟨table.entries.filter fun e => p e.1 e.2, table.nodup.sublist (List.filter_sublist.map _)⟩

/-- Removes a name and its value. -/
def erase (table : Table α) (name : String) : Table α := table.filter fun k _ => k ≠ name

/-! ### Reading after writing -/

theorem lookup_insertEntry (name k : String) (a : α) (entries : List (String × α)) :
    (insertEntry name a entries).lookup k = if k = name then some a else entries.lookup k := by
  induction entries with
  | nil =>
    by_cases h : k = name
    · simp [insertEntry, h]
    · have : (k == name) = false := by simpa using h
      simp [insertEntry, List.lookup_cons, h, this]
  | cons e rest ih =>
    obtain ⟨k', b⟩ := e
    by_cases hk : k' = name
    · by_cases h : k = name
      · simp [insertEntry, hk, h]
      · have : (k == name) = false := by simpa using h
        simp [insertEntry, List.lookup_cons, hk, h, this]
    · by_cases h : k = k'
      · have hn : k ≠ name := h ▸ hk
        simp [insertEntry, hk, h]
      · have : (k == k') = false := by simpa using h
        simp [insertEntry, List.lookup_cons, hk, this, ih]

/-- Among entries with different names, the one that a look-up finds is the only one. -/
theorem lookup_eq_some_iff {entries : List (String × α)} (h : (entries.map Prod.fst).Nodup)
    {k : String} {a : α} : entries.lookup k = some a ↔ (k, a) ∈ entries := by
  induction entries with
  | nil => simp
  | cons e rest ih =>
    obtain ⟨k', b⟩ := e
    obtain ⟨fresh, h⟩ := List.nodup_cons.1 h
    by_cases same : k = k'
    · subst same
      have absent : (k, a) ∉ rest := fun inside => fresh (List.mem_map.2 ⟨_, inside, rfl⟩)
      simp [absent, eq_comm]
    · have : (k == k') = false := by simpa using same
      simp [List.lookup_cons, this, ih h, same]

theorem mem_entries_iff (table : Table α) {k : String} {a : α} :
    (k, a) ∈ table.entries ↔ table.get? k = some a :=
  (lookup_eq_some_iff table.nodup).symm

theorem mem_keys_iff (table : Table α) {k : String} :
    k ∈ table.keys ↔ ∃ a, table.get? k = some a := by
  constructor
  · intro h
    obtain ⟨⟨k, a⟩, inside, rfl⟩ := List.mem_map.1 h
    exact ⟨a, table.mem_entries_iff.1 inside⟩
  · rintro ⟨a, h⟩
    exact List.mem_map.2 ⟨(k, a), table.mem_entries_iff.2 h, rfl⟩

theorem mem_values_iff (table : Table α) {a : α} :
    a ∈ table.values ↔ ∃ k, table.get? k = some a := by
  constructor
  · intro h
    obtain ⟨⟨k, a⟩, inside, rfl⟩ := List.mem_map.1 h
    exact ⟨k, table.mem_entries_iff.1 inside⟩
  · rintro ⟨k, h⟩
    exact List.mem_map.2 ⟨(k, a), table.mem_entries_iff.2 h, rfl⟩

/-- Looking up every name in turn gives all values. -/
theorem map_get?_keys (table : Table α) : table.keys.map table.get? = table.values.map some := by
  rw [keys, values, List.map_map, List.map_map]
  exact List.map_congr_left fun e inside => table.mem_entries_iff.1 inside

/-- The names that values carry are the names they stand under, if that is so for each of them. -/
theorem map_values {nameOf : α → String} (table : Table α)
    (h : ∀ k a, table.get? k = some a → nameOf a = k) : table.values.map nameOf = table.keys := by
  rw [values, keys, List.map_map]
  exact List.map_congr_left fun e inside => h e.1 e.2 (table.mem_entries_iff.1 inside)

/-- Among values that carry the names they stand under, a search by name is a look-up. -/
theorem find?_values {nameOf : α → String} (table : Table α)
    (h : ∀ k a, table.get? k = some a → nameOf a = k) (k : String) :
    (table.values.find? fun a => nameOf a == k) = table.get? k := by
  have named : ∀ e ∈ table.entries, nameOf e.2 = e.1 :=
    fun e inside => h e.1 e.2 (table.mem_entries_iff.1 inside)
  show ((table.entries.map Prod.snd).find? fun a => nameOf a == k) = table.entries.lookup k
  generalize table.entries = entries at named ⊢
  induction entries with
  | nil => rfl
  | cons e rest ih =>
    obtain ⟨k', a⟩ := e
    have hname : nameOf a = k' := named _ List.mem_cons_self
    have hrest := ih fun e inside => named e (List.mem_cons_of_mem _ inside)
    rw [List.map_cons, List.lookup_cons]
    by_cases same : k = k'
    · subst same
      rw [List.find?_cons_of_pos (by simp [hname])]
      simp
    · have hne : (k == k') = false := by simpa using same
      rw [List.find?_cons_of_neg (by simpa [hname] using Ne.symm same), hrest, hne]

@[simp] theorem get?_empty (k : String) : (empty : Table α).get? k = none := rfl

theorem get?_insert (table : Table α) (name k : String) (a : α) :
    (table.insert name a).get? k = if k = name then some a else table.get? k :=
  lookup_insertEntry name k a table.entries

theorem get?_filter (p : String → α → Bool) (table : Table α) (k : String) :
    (table.filter p).get? k = (table.get? k).filter (p k) := by
  apply Option.ext
  intro a
  rw [← mem_entries_iff, Option.filter_eq_some_iff, ← mem_entries_iff]
  exact List.mem_filter

/-- Nothing is removed from a table if all of it is to be kept. -/
theorem filter_eq_self {p : String → α → Bool} {table : Table α}
    (h : ∀ k a, table.get? k = some a → p k a = true) : table.filter p = table :=
  ext (List.filter_eq_self.2 fun e inside => h e.1 e.2 (table.mem_entries_iff.1 inside))

theorem filter_congr {p q : String → α → Bool} {table : Table α}
    (h : ∀ k a, table.get? k = some a → p k a = q k a) : table.filter p = table.filter q :=
  ext (List.filter_congr fun e inside => h e.1 e.2 (table.mem_entries_iff.1 inside))

theorem get?_erase (table : Table α) (name k : String) :
    (table.erase name).get? k = if k = name then none else table.get? k := by
  rw [erase, get?_filter]
  by_cases h : k = name <;> cases table.get? k <;> simp [h]

end Table

end FaultPlane
