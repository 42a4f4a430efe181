/-
A table is made of its own entries.

Data is written in the order of a table's keys and read by putting one entry after another
into an empty table. Each of these lands behind those before it, since its key is behind
theirs (`insertEntry_of_forall_lt`), so the entries come out as they went in. Of two items that
are put under one key nothing is left but the second (`insert_insert`). So a table whose
entries are put into another is laid over it: what it has under a key is found, and where it
has nothing, what was there (`find?_insertAll`).

Because the keys are in order, an entry is found under its key wherever it stands
(`mem_entries_iff`), and look-ups say all there is to say of a table: two in which the same
is found under every key are one (`ext_find?`).
-/
import WorkerGroup.Proofs.Table.Lookup
import Mathlib.Data.List.Sort

set_option autoImplicit false

namespace WorkerGroup.Table

variable {α : Type}

/-- An entry whose key is behind all others is put at the end. -/
theorem insertEntry_of_forall_lt {key : String} {l : List (String × α)}
    (h : ∀ e ∈ l, e.1 < key) (item : α) : insertEntry key item l = l ++ [(key, item)] := by
  induction l with
  | nil => rfl
  | cons e rest ih =>
    obtain ⟨k, x⟩ := e
    obtain ⟨before, behind⟩ := List.forall_mem_cons.1 h
    have not_before : ¬ key < k := fun lt => String.lt_irrefl k (String.lt_trans before lt)
    have not_same : key ≠ k := fun same => String.lt_irrefl k (same ▸ before)
    rw [insertEntry, if_neg not_before, if_neg not_same, ih behind, List.cons_append]

/-- Entries in order come behind those that are there, if their keys do. -/
theorem entries_insertAll {l : List (String × α)} {t : Table α}
    (h : (t.entries ++ l).Pairwise fun a b => a.1 < b.1) :
    (t.insertAll l).entries = t.entries ++ l := by
  induction l generalizing t with
  | nil => exact (List.append_nil _).symm
  | cons e rest ih =>
    have last : ∀ f ∈ t.entries, f.1 < e.1 :=
      fun f hf => (List.pairwise_append.1 h).2.2 f hf e List.mem_cons_self
    have put : (t.insert e.1 e.2).entries = t.entries ++ [e] := insertEntry_of_forall_lt last e.2
    have all := ih (t := t.insert e.1 e.2) (by rw [put, List.append_assoc]; exact h)
    rw [put, List.append_assoc] at all
    exact all

/-- **A table is made of its own entries.** -/
theorem ofList_entries (t : Table α) : ofList t.entries = t := by
  have all : ((empty : Table α).insertAll t.entries).entries = [] ++ t.entries :=
    entries_insertAll t.ordered
  exact entries_inj.1 all

/-- An item takes the place of the one under its key. -/
theorem insertEntry_cons_self (key : String) (old item : α) (l : List (String × α)) :
    insertEntry key item ((key, old) :: l) = (key, item) :: l := by
  rw [insertEntry, if_neg (String.lt_irrefl key), if_pos rfl]

/-- The second of two items under one key stands in the place of the first. -/
theorem insertEntry_insertEntry (key : String) (first second : α) (l : List (String × α)) :
    insertEntry key second (insertEntry key first l) = insertEntry key second l := by
  induction l with
  | nil => exact insertEntry_cons_self key first second []
  | cons e rest ih =>
    obtain ⟨k, x⟩ := e
    rcases lt_or_eq_or_gt key k with before | rfl | behind
    · have put (item : α) :
          insertEntry key item ((k, x) :: rest) = (key, item) :: (k, x) :: rest := by
        rw [insertEntry, if_pos before]
      rw [put, put, insertEntry_cons_self]
    · simp only [insertEntry_cons_self]
    · have not_before : ¬ key < k := fun before =>
        String.lt_irrefl key (String.lt_trans before behind)
      have other : key ≠ k := fun same => String.lt_irrefl k (same ▸ behind)
      have pass (item : α) (l : List (String × α)) :
          insertEntry key item ((k, x) :: l) = (k, x) :: insertEntry key item l := by
        rw [insertEntry, if_neg not_before, if_neg other]
      rw [pass, pass, pass, ih]

/-- **The second of two items under one key stands.** -/
theorem insert_insert (t : Table α) (key : String) (first second : α) :
    (t.insert key first).insert key second = t.insert key second :=
  entries_inj.1 (insertEntry_insertEntry key first second t.entries)

/-! ## Laid over another table -/

theorem pairwise_lt_keys (t : Table α) : t.keys.Pairwise (· < ·) :=
  List.pairwise_map.2 t.ordered

theorem nodup_keys (t : Table α) : t.keys.Nodup := by
  refine (pairwise_lt_keys t).imp ?_
  rintro a b before rfl
  exact String.lt_irrefl a before

/-- **Entries that are put in are found before what was there**, if no two have one key. -/
theorem find?_insertAll {l : List (String × α)} (distinct : (l.map (·.1)).Nodup) (t : Table α)
    (k : String) : (t.insertAll l).find? k = (l.lookup k).or (t.find? k) := by
  induction l generalizing t with
  | nil => rfl
  | cons e rest ih =>
    obtain ⟨key, item⟩ := e
    obtain ⟨once, later⟩ := List.nodup_cons.1 distinct
    have first : (t.insertAll ((key, item) :: rest)).find? k =
        (rest.lookup k).or ((t.insert key item).find? k) := ih later (t.insert key item)
    rw [first, find?_insert]
    by_cases same : k = key
    · subst same
      have behind : rest.lookup k = none := by
        rw [← Option.not_isSome_iff_eq_none, isSome_lookup_iff]
        exact once
      rw [behind, if_pos rfl, List.lookup_cons_self]
      rfl
    · rw [if_neg same, lookup_cons_of_ne same]

/-- The keys of a table of some entries are theirs. -/
theorem keys_ofList_perm {l : List (String × α)} (distinct : (l.map (·.1)).Nodup) :
    (ofList l).keys.Perm (l.map (·.1)) := by
  rw [List.perm_ext_iff_of_nodup (nodup_keys _) distinct]
  intro k
  have found : (ofList l).find? k = (l.lookup k).or none := find?_insertAll distinct ∅ k
  rw [mem_keys_iff, found, Option.or_none, isSome_lookup_iff]

/-! ## What is found says which table it is -/

/-- Among entries of which no two have one key the one that is found under a key is the one
that has it. -/
theorem lookup_eq_some_iff_mem {l : List (String × α)} (distinct : (l.map (·.1)).Nodup)
    {k : String} {item : α} : l.lookup k = some item ↔ (k, item) ∈ l := by
  induction l with
  | nil => simp
  | cons e rest ih =>
    obtain ⟨key, x⟩ := e
    obtain ⟨once, later⟩ := List.nodup_cons.1 distinct
    rw [List.mem_cons, Prod.mk.injEq]
    by_cases same : k = key
    · subst same
      have absent : (k, item) ∉ rest := fun listed => once (List.mem_map.2 ⟨_, listed, rfl⟩)
      rw [List.lookup_cons_self, Option.some.injEq, or_iff_left absent, and_iff_right rfl, eq_comm]
    · rw [lookup_cons_of_ne same, ih later, or_iff_right fun h => same h.1]

/-- The entries are what is found, under the key it is found under. -/
theorem mem_entries_iff {t : Table α} {k : String} {item : α} :
    (k, item) ∈ t.entries ↔ t.find? k = some item :=
  (lookup_eq_some_iff_mem t.nodup_keys).symm

/-- Lists of entries in order that have the same entries are one. -/
theorem eq_of_mem_iff {l l' : List (String × α)} (h : l.Pairwise fun a b => a.1 < b.1)
    (h' : l'.Pairwise fun a b => a.1 < b.1) (same : ∀ e, e ∈ l ↔ e ∈ l') : l = l' := by
  have irrefl : Std.Irrefl fun a b : String × α => a.1 < b.1 := ⟨fun a => String.lt_irrefl a.1⟩
  have antisymm : Std.Antisymm fun a b : String × α => a.1 < b.1 :=
    ⟨fun a b hab hba => absurd (String.lt_trans hab hba) (String.lt_irrefl a.1)⟩
  exact List.Pairwise.eq_of_mem_iff h h' same

/-- **Tables in which the same is found are one.** -/
theorem ext_find? {t t' : Table α} (h : ∀ k, t.find? k = t'.find? k) : t = t' := by
  refine entries_inj.1 (eq_of_mem_iff t.ordered t'.ordered fun e => ?_)
  rw [mem_entries_iff, mem_entries_iff, h]

/-- No other entry stands under the key of one. -/
theorem filter_entries {t : Table α} {k : String} {item : α} (h : t.find? k = some item) :
    t.entries.filter (fun e => e.1 = k) = [(k, item)] := by
  refine eq_of_mem_iff (t.ordered.sublist List.filter_sublist) (List.pairwise_singleton _ _)
    fun e => ?_
  rw [List.mem_filter, mem_entries_iff, decide_eq_true_iff, List.mem_singleton]
  constructor
  · rintro ⟨found, rfl⟩
    rw [← Option.some.inj (found.symm.trans h)]
  · rintro rfl
    exact ⟨h, rfl⟩

end WorkerGroup.Table
