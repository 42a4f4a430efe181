/-
What is found in a table.

Every operation on a table is settled by what it does to look-ups, and that is what the
lemmas here say: an entry is found under the key it was put under and nowhere else, an
erased key is found no more, and the keys are the texts under which something is found.

None of them needs the keys to be in order. The insertion stops at the first key that is
not before its own, so it lands ahead of an entry under the same key wherever that entry
may stand, and a look-up stops at the first.
-/
import WorkerGroup.Table

set_option autoImplicit false

namespace WorkerGroup.Table

variable {α : Type}

/-- A table is its entries; that they are in order is no further data. -/
theorem entries_inj {t t' : Table α} : t.entries = t'.entries ↔ t = t' := by
  cases t
  cases t'
  rw [mk.injEq]

/-- A look-up passes over an entry under another key. -/
theorem lookup_cons_of_ne {k key : String} (h : k ≠ key) (item : α) (l : List (String × α)) :
    ((key, item) :: l).lookup k = l.lookup k := by
  have apart : (k == key) = false := beq_eq_false_iff_ne.2 h
  rw [List.lookup_cons, apart]

/-- The entry that was put in is the first under its key. -/
theorem lookup_insertEntry_self (key : String) (item : α) (l : List (String × α)) :
    (insertEntry key item l).lookup key = some item := by
  induction l with
  | nil => exact List.lookup_cons_self
  | cons e rest ih =>
    obtain ⟨k', x⟩ := e
    rw [insertEntry]
    split
    · exact List.lookup_cons_self
    · split
      · exact List.lookup_cons_self
      · rename_i neq
        rw [lookup_cons_of_ne neq, ih]

/-- The look-ups of other keys pass over the entry that was put in, and over the one it
stands in for. -/
theorem lookup_insertEntry_of_ne {k key : String} (h : k ≠ key) (item : α)
    (l : List (String × α)) : (insertEntry key item l).lookup k = l.lookup k := by
  induction l with
  | nil => exact lookup_cons_of_ne h item []
  | cons e rest ih =>
    obtain ⟨k', x⟩ := e
    rw [insertEntry]
    split
    · rw [lookup_cons_of_ne h]
    · split
      · rename_i eq
        -- The entry that went was under the same key, so it was passed over as well.
        rw [lookup_cons_of_ne h, lookup_cons_of_ne (eq ▸ h)]
      · rw [List.lookup_cons, List.lookup_cons, ih]

/-- An item is found under the key it was put under, and all else as before. -/
theorem find?_insert (t : Table α) (key : String) (item : α) (k : String) :
    (t.insert key item).find? k = if k = key then some item else t.find? k := by
  by_cases h : k = key
  · rw [if_pos h, h]
    exact lookup_insertEntry_self key item t.entries
  · rw [if_neg h]
    exact lookup_insertEntry_of_ne h item t.entries

@[simp] theorem find?_empty (k : String) : (∅ : Table α).find? k = none := rfl

/-- A look-up does not see that entries under other keys were left out. -/
theorem lookup_filter_of_ne {k key : String} (h : k ≠ key) (l : List (String × α)) :
    (l.filter fun e => e.1 ≠ key).lookup k = l.lookup k := by
  induction l with
  | nil => rfl
  | cons e rest ih =>
    obtain ⟨k', x⟩ := e
    rw [List.filter_cons]
    split
    · rw [List.lookup_cons, List.lookup_cons, ih]
    · rename_i out
      have gone : k' = key := by simpa using out
      rw [ih, lookup_cons_of_ne (gone ▸ h)]

theorem lookup_filter_self (key : String) (l : List (String × α)) :
    (l.filter fun e => e.1 ≠ key).lookup key = none := by
  rw [List.lookup_eq_none_iff]
  intro e he
  have stays : e.1 ≠ key := by simpa using (List.mem_filter.1 he).2
  exact bne_iff_ne.2 stays.symm

/-- Nothing is found under an erased key, and all else as before. -/
theorem find?_erase (t : Table α) (key k : String) :
    (t.erase key).find? k = if k = key then none else t.find? k := by
  by_cases h : k = key
  · rw [if_pos h, h]
    exact lookup_filter_self key t.entries
  · rw [if_neg h]
    exact lookup_filter_of_ne h t.entries

theorem isSome_lookup_iff {l : List (String × α)} {k : String} :
    (l.lookup k).isSome ↔ k ∈ l.map (·.1) := by
  induction l with
  | nil => simp
  | cons e rest ih =>
    obtain ⟨k', x⟩ := e
    rw [List.map_cons, List.mem_cons]
    by_cases h : k = k'
    · rw [h, List.lookup_cons_self]
      exact iff_of_true rfl (.inl rfl)
    · rw [lookup_cons_of_ne h, ih, or_iff_right h]

/-- The keys are the texts under which something is found. -/
theorem mem_keys_iff {t : Table α} {k : String} : k ∈ t.keys ↔ (t.find? k).isSome :=
  isSome_lookup_iff.symm

end WorkerGroup.Table
