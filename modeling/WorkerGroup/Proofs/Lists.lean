/-
Ways to go through a list.

What is written under a name more than once is settled by the last time, and what was
written item by item is read item by item. Both come up for offerings, writes, fields,
entries and lines alike, so what is left of such a walk is said here once: the last item of
a kind is the one behind which there are no others (`getLast?_filter_eq_some_iff`), and a
reader that is right about every item is right about the list (`mapM_map_eq_some`). One that
reads items of a kind stops where an item of another kind follows
(`takeWhile_append_of_stop`), which is how a list is cut at the first place of an item
(`takeWhile_ne_append_cons`).

Another way is to put a list in order first. Where no two items are equal in the order there
is one way to do that (`eq_mergeSort_of_perm`), so neither where the items stood before nor
what becomes of the other items has any influence on it (`mergeSort_filter`). What is cut
off the front stays the same as long as only items behind it go
(`drop_filter_of_forall_mem_take`). Lists as items are compared behind what they begin with
alike (`append_lt_append_iff`).
-/
set_option autoImplicit false

namespace WorkerGroup.Lists

variable {α β γ : Type}

/-- The last item of a kind is of it, and none behind it is. -/
theorem getLast?_filter_eq_some_iff {p : α → Bool} {l : List α} {a : α} :
    (l.filter p).getLast? = some a ↔
      p a = true ∧ ∃ before behind, l = before ++ a :: behind ∧ ∀ b ∈ behind, ¬ p b = true := by
  rw [List.getLast?_filter, List.find?_eq_some_iff_append]
  refine and_congr_right fun _ => ?_
  constructor
  · rintro ⟨behind, before, split, others⟩
    refine ⟨before.reverse, behind.reverse, ?_, fun b hb => ?_⟩
    · rw [← List.reverse_reverse l, split]
      simp
    · simpa using others b (List.mem_reverse.1 hb)
  · rintro ⟨before, behind, rfl, others⟩
    refine ⟨behind.reverse, before.reverse, by simp, fun b hb => ?_⟩
    simpa using others b (List.mem_reverse.1 hb)

/-- What every item is read as, the list of what was written for them is read as. -/
theorem mapM_map_eq_some {write : α → β} {read : β → Option γ} {f : α → γ} {l : List α}
    (h : ∀ a ∈ l, read (write a) = some (f a)) : (l.map write).mapM read = some (l.map f) := by
  induction l with
  | nil => rfl
  | cons a l ih =>
    obtain ⟨first, later⟩ := List.forall_mem_cons.1 h
    rw [List.map_cons, List.mapM_cons, first, ih later]
    rfl

section

variable {p : α → Bool} {front rest : List α} (all : ∀ a ∈ front, p a = true)
  (stop : ∀ a ∈ rest.head?, p a = false)
include all stop

/-- A reader of items of a kind stops where no such item follows. -/
theorem takeWhile_append_of_stop : (front ++ rest).takeWhile p = front := by
  rw [List.takeWhile_append_of_pos all]
  cases rest with
  | nil => exact List.append_nil front
  | cons a rest =>
    rw [List.takeWhile_cons_of_neg (by rw [stop a rfl]; decide), List.append_nil]

/-- What follows the items that are read is what followed those that were written. -/
theorem dropWhile_append_of_stop : (front ++ rest).dropWhile p = rest := by
  rw [List.dropWhile_append_of_pos all]
  cases rest with
  | nil => rfl
  | cons a rest => exact List.dropWhile_cons_of_neg (by rw [stop a rfl]; decide)

end

section

variable [DecidableEq α] {a : α} {front : List α} (h : a ∉ front)
include h

theorem ne_of_mem_of_notMem : ∀ b ∈ front, decide (b ≠ a) = true := by
  intro b listed
  apply decide_eq_true
  rintro rfl
  exact h listed

/-- Up to the first place where an item occurs stands what it does not occur in. -/
theorem takeWhile_ne_append_cons (back : List α) :
    (front ++ a :: back).takeWhile (· ≠ a) = front := by
  refine takeWhile_append_of_stop (ne_of_mem_of_notMem h) ?_
  rintro b ⟨⟩
  exact decide_eq_false (not_not_intro rfl)

theorem dropWhile_ne_append_cons (back : List α) :
    (front ++ a :: back).dropWhile (· ≠ a) = a :: back := by
  refine dropWhile_append_of_stop (ne_of_mem_of_notMem h) ?_
  rintro b ⟨⟩
  exact decide_eq_false (not_not_intro rfl)

/-- Where an item does not occur the search for it ends at the end. -/
theorem dropWhile_ne_of_notMem : front.dropWhile (· ≠ a) = [] := by
  have nothing : (front ++ []).dropWhile (· ≠ a) = [] :=
    List.dropWhile_append_of_pos (ne_of_mem_of_notMem h)
  rwa [List.append_nil] at nothing

end

/-- A common front has no say in the order of lists. -/
theorem append_lt_append_iff [LT α] (irrefl : ∀ a : α, ¬ a < a) {front l l' : List α} :
    front ++ l < front ++ l' ↔ l < l' := by
  induction front with
  | nil => exact Iff.rfl
  | cons a front ih =>
    rw [List.cons_append, List.cons_append, List.cons_lt_cons_iff, or_iff_right (irrefl a),
      and_iff_right rfl, ih]

section

variable {le : α → α → Bool} (trans : ∀ a b c, le a b = true → le b c = true → le a c = true)
  (total : ∀ a b, (le a b || le b a) = true)
  (antisymm : ∀ a b, le a b = true → le b a = true → a = b)
include trans total antisymm

/-- **A list in order is the sorted form of every arrangement of it.** -/
theorem eq_mergeSort_of_perm {l l' : List α} (perm : l.Perm l')
    (sorted : l.Pairwise fun a b => le a b = true) : l = l'.mergeSort le :=
  List.Perm.eq_of_pairwise (fun a b _ _ => antisymm a b) sorted
    (List.pairwise_mergeSort trans total l') (perm.trans (List.mergeSort_perm l' le).symm)

/-- Sorting forgets how a list was arranged. -/
theorem mergeSort_eq_of_perm {l l' : List α} (perm : l.Perm l') :
    l.mergeSort le = l'.mergeSort le :=
  eq_mergeSort_of_perm trans total antisymm ((List.mergeSort_perm l le).trans perm)
    (List.pairwise_mergeSort trans total l)

/-- What is sorted out before sorting can as well be sorted out afterwards. -/
theorem mergeSort_filter (p : α → Bool) (l : List α) :
    (l.filter p).mergeSort le = (l.mergeSort le).filter p :=
  (eq_mergeSort_of_perm trans total antisymm ((List.mergeSort_perm l le).filter p)
    ((List.pairwise_mergeSort trans total l).filter p)).symm

end

/-- Where nothing is sorted out of the front part of a list, what is behind it stays behind. -/
theorem drop_filter_of_forall_mem_take {p : α → Bool} {n : Nat} {l : List α}
    (front : ∀ a ∈ l.take n, p a = true) : (l.filter p).drop n = (l.drop n).filter p := by
  induction l generalizing n with
  | nil => simp
  | cons a l ih =>
    cases n with
    | zero => rfl
    | succ n =>
      rw [List.take_succ_cons, List.forall_mem_cons] at front
      rw [List.filter_cons_of_pos front.1, List.drop_succ_cons, List.drop_succ_cons]
      exact ih front.2

end WorkerGroup.Lists
