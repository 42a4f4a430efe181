/-
Tables: finite maps from texts, kept in key order.

Labels, annotations, pools and gauges are all maps from texts, and whenever one of them
becomes text again its keys appear in ascending order of their UTF-8 octets, which is
the order of their code points. So the order is part of the type: a table is a list of
entries whose keys strictly ascend, and two tables with the same entries are equal.
-/
set_option autoImplicit false

namespace WorkerGroup

/-- A finite map from texts, its keys strictly ascending. -/
structure Table (α : Type) where
  /-- The entries in key order. -/
  entries : List (String × α)
  ordered : entries.Pairwise (fun a b => a.1 < b.1)
deriving DecidableEq

namespace Table

variable {α : Type}

/-! ## Entries in order -/

/-- Puts an entry where its key belongs, in place of one with the same key. -/
def insertEntry (key : String) (item : α) : List (String × α) → List (String × α)
  | [] => [(key, item)]
  | (k, x) :: rest =>
    if key < k then (key, item) :: (k, x) :: rest
    else if key = k then (key, item) :: rest
    else (k, x) :: insertEntry key item rest

theorem mem_insertEntry {key : String} {item : α} {e : String × α} :
    {l : List (String × α)} → e ∈ insertEntry key item l → e = (key, item) ∨ e ∈ l
  | [], h => by simpa [insertEntry] using h
  | (k, x) :: rest, h => by
    simp only [insertEntry] at h
    split at h
    · simpa using h
    · split at h
      · rcases List.mem_cons.1 h with h | h
        · exact .inl h
        · exact .inr (List.mem_cons_of_mem _ h)
      · rcases List.mem_cons.1 h with h | h
        · exact .inr (h ▸ List.mem_cons_self)
        · rcases mem_insertEntry h with h | h
          · exact .inl h
          · exact .inr (List.mem_cons_of_mem _ h)

/-- Two texts are in order, equal, or in order the other way. -/
theorem lt_or_eq_or_gt (a b : String) : a < b ∨ a = b ∨ b < a := by
  by_cases h : a < b
  · exact .inl h
  · by_cases h' : b < a
    · exact .inr (.inr h')
    · exact .inr (.inl (String.le_antisymm (String.not_lt.1 h') (String.not_lt.1 h)))

theorem ordered_insertEntry (key : String) (item : α) :
    {l : List (String × α)} → l.Pairwise (fun a b => a.1 < b.1) →
      (insertEntry key item l).Pairwise (fun a b => a.1 < b.1)
  | [], _ => by simp [insertEntry]
  | (k, x) :: rest, h => by
    have hk := List.pairwise_cons.1 h
    simp only [insertEntry]
    split
    · rename_i lt
      refine List.pairwise_cons.2 ⟨fun e he => ?_, h⟩
      rcases List.mem_cons.1 he with he | he
      · exact he ▸ lt
      · exact String.lt_trans lt (hk.1 e he)
    · split
      · rename_i eq
        exact List.pairwise_cons.2 ⟨fun e he => eq ▸ hk.1 e he, hk.2⟩
      · rename_i nlt neq
        have gt : k < key := by
          rcases lt_or_eq_or_gt key k with h | h | h
          · exact absurd h nlt
          · exact absurd h neq
          · exact h
        refine List.pairwise_cons.2 ⟨fun e he => ?_, ordered_insertEntry key item hk.2⟩
        rcases mem_insertEntry he with he | he
        · exact he ▸ gt
        · exact hk.1 e he

/-! ## The operations -/

/-- The table without entries. -/
def empty : Table α :=
  ⟨[], .nil⟩

instance : EmptyCollection (Table α) := ⟨empty⟩

instance : Inhabited (Table α) := ⟨empty⟩

/-- The item under a key. -/
def find? (t : Table α) (key : String) : Option α :=
  t.entries.lookup key

/-- The table with an item under a key, whatever stood there before. -/
def insert (t : Table α) (key : String) (item : α) : Table α :=
  ⟨insertEntry key item t.entries, ordered_insertEntry key item t.ordered⟩

/-- The table without what stood under a key. -/
def erase (t : Table α) (key : String) : Table α :=
  ⟨t.entries.filter (fun e => e.1 ≠ key), t.ordered.sublist List.filter_sublist⟩

/-- The table with further entries put in one after another, so the last one under a
key stays. -/
def insertAll (t : Table α) (items : List (String × α)) : Table α :=
  items.foldl (fun t e => t.insert e.1 e.2) t

/-- The table of a list of entries; of several under one key the last one stays. -/
def ofList (items : List (String × α)) : Table α :=
  empty.insertAll items

/-- The keys in ascending order. -/
def keys (t : Table α) : List String :=
  t.entries.map (·.1)

/-- Whether the table has no entries. -/
def isEmpty (t : Table α) : Bool :=
  t.entries.isEmpty

end Table

end WorkerGroup
