/-
Texts put together from pieces.

Resource names, labels, taints and flags are written by putting pieces one after another
with a character between them, and what such a text still says is decided by where that
character stands. Taken apart at the character a text gives its `pieces`, and they give
the text again, so two texts are one exactly when their pieces are (`pieces_inj`). A reader
that looks for two parts cuts at the first place only, where a front without the character ends
(`exists_cut`). The pieces of two texts with the character between them are those of the one
and then those of the other (`pieces_append`), which is also why such a text need not say where
the first of the two ends: the character may stand inside of either.

Where it does not, nothing is lost. Two parts are told apart again
(`append_inj_of_notMem`), and so are the members of a list (`intercalate_inj`), provided
that none is empty: a list of one empty text is written like a list of none. Without any such
character it is what texts start with that keeps them apart (`append_ne_append`).
-/
import Mathlib.Data.List.Basic

set_option autoImplicit false

namespace WorkerGroup.Text

variable {c : Char} {sep : String}

/-! ## Taking a text apart -/

/-- A text has a character unless it is the empty one. -/
theorem toList_ne_nil_iff {s : String} : s.toList ≠ [] ↔ s ≠ "" :=
  not_congr String.toList_eq_nil_iff

/-- Two texts with a character between them, as characters. -/
theorem toList_append_append (h : sep.toList = [c]) (s t : String) :
    (s ++ sep ++ t).toList = s.toList ++ c :: t.toList := by
  rw [String.toList_append, String.toList_append, h, List.append_assoc, List.singleton_append]

/-- What stands before, between and after the places where a character occurs. -/
def pieces (c : Char) (s : String) : List String :=
  (s.toList.splitOn c).map String.ofList

/-- The pieces as they stand in the list of characters. -/
theorem map_toList_pieces (c : Char) (s : String) :
    (pieces c s).map String.toList = s.toList.splitOn c := by
  rw [pieces, List.map_map]
  have same : String.toList ∘ String.ofList = id := funext fun _ => String.toList_ofList
  rw [same, List.map_id]

/-- **The pieces of a text say which text it is.** -/
theorem pieces_inj {s t : String} : pieces c s = pieces c t ↔ s = t := by
  constructor
  · intro h
    have split : s.toList.splitOn c = t.toList.splitOn c := by
      rw [← map_toList_pieces, h, map_toList_pieces]
    have joined (u : String) : [c].intercalate (u.toList.splitOn c) = u.toList :=
      List.intercalate_splitOn c
    rw [← String.toList_inj, ← joined s, split, joined t]
  · rintro rfl
    rfl

/-- **The pieces of two texts joined are those of the one and those of the other.** -/
theorem pieces_append (h : sep.toList = [c]) (s t : String) :
    pieces c (s ++ sep ++ t) = pieces c s ++ pieces c t := by
  rw [pieces, toList_append_append h, List.splitOn_append_cons_self, List.map_append]
  rfl

/-- A text in which the character does not occur is one piece. -/
theorem pieces_of_notMem {s : String} (h : c ∉ s.toList) : pieces c s = [s] := by
  have whole : ([c].intercalate [s.toList]).splitOn c = [s.toList] :=
    List.splitOn_intercalate c (fun l hl => List.mem_singleton.1 hl ▸ h) (List.cons_ne_nil _ _)
  rw [List.intercalate_singleton] at whole
  rw [pieces, whole, List.map_singleton, String.ofList_toList]

/-- **The lines of a text that was written line by line** are these lines, each without what
ends it, and behind the last end there is nothing. -/
theorem pieces_join_ended (h : sep.toList = [c]) {lines : List String}
    (whole : ∀ line ∈ lines, c ∉ line.toList) :
    pieces c (String.join (lines.map (· ++ sep))) = lines ++ [""] := by
  induction lines with
  | nil => rfl
  | cons line lines ih =>
    obtain ⟨first, later⟩ := List.forall_mem_cons.1 whole
    rw [List.map_cons, String.join_cons, pieces_append h, pieces_of_notMem first, ih later]
    rfl

/-- A text is its pieces with the character between them. -/
theorem intercalate_pieces (h : sep.toList = [c]) (s : String) :
    sep.intercalate (pieces c s) = s := by
  rw [← String.toList_inj, String.toList_intercalate, map_toList_pieces, h]
  exact List.intercalate_splitOn c

/-- To write something behind every member of a list is to write it between them and once
more at the end. -/
theorem join_map_append {l : List String} (some : l ≠ []) :
    String.join (l.map (· ++ sep)) = sep.intercalate l ++ sep := by
  induction l with
  | nil => exact absurd rfl some
  | cons x l ih =>
    rw [List.map_cons, String.join_cons]
    by_cases last : l = []
    · rw [last, List.map_nil, String.join_nil, String.append_empty, String.intercalate_singleton]
    · rw [ih last, String.intercalate_cons_of_ne_nil last]
      simp only [String.append_assoc]

/-- A text with the character behind it is its pieces, each with the character behind it. -/
theorem join_pieces_ended (h : sep.toList = [c]) (s : String) :
    String.join ((pieces c s).map (· ++ sep)) = s ++ sep := by
  have some_piece : pieces c s ≠ [] := mt List.map_eq_nil_iff.1 (List.splitOn_ne_nil c s.toList)
  rw [join_map_append some_piece, intercalate_pieces h]

/-- A text in which a character occurs is cut at the first place. -/
theorem exists_cut (h : sep.toList = [c]) {s : String} (somewhere : c ∈ s.toList) :
    ∃ front back, s = front ++ sep ++ back ∧ c ∉ front.toList := by
  obtain ⟨front, back, cut, first⟩ := List.eq_append_cons_of_mem somewhere
  refine ⟨String.ofList front, String.ofList back, ?_, ?_⟩
  · rw [← String.toList_inj, toList_append_append h, String.toList_ofList, String.toList_ofList,
      cut]
  · rwa [String.toList_ofList]

/-! ## Texts with different starts -/

/-- A text that starts with something another text does not start with is not that text. -/
theorem append_ne_of_not_isPrefixOf {start text : String} (h : ¬ start.toList <+: text.toList)
    (rest : String) : start ++ rest ≠ text := by
  rintro rfl
  apply h
  rw [String.toList_append]
  exact List.prefix_append start.toList rest.toList

/-- Texts that start differently differ, whatever follows. -/
theorem append_ne_append {start start' : String} (h : ¬ start.toList <+: start'.toList)
    (h' : ¬ start'.toList <+: start.toList) (s t : String) : start ++ s ≠ start' ++ t := by
  apply append_ne_of_not_isPrefixOf
  intro front
  have front' : start'.toList <+: (start' ++ t).toList := by
    rw [String.toList_append]
    exact List.prefix_append _ _
  exact (List.prefix_or_prefix_of_prefix front front').elim h h'

theorem append_injective (start : String) : Function.Injective (start ++ ·) :=
  fun _ _ same => (String.append_right_inj start).1 same

/-! ## Telling two parts apart -/

/-- Around a character that stands in neither of them two parts are told apart, whatever
the parts are that they are compared with. -/
theorem append_inj_of_notMem (h : sep.toList = [c]) {a b a' b' : String} (ha : c ∉ a.toList)
    (hb : c ∉ b.toList) : a ++ sep ++ b = a' ++ sep ++ b' ↔ a = a' ∧ b = b' := by
  rw [← String.toList_inj, toList_append_append h, toList_append_append h,
    List.append_cons_inj_of_notMem ha hb, String.toList_inj, String.toList_inj]
  exact and_congr_right fun _ => and_iff_right rfl

/-! ## Telling the members of a list apart -/

/-- Texts that stay apart when a character is put between them: none is empty and none
has the character in it. -/
def Separable (c : Char) (xs : List String) : Prop :=
  ∀ x ∈ xs, x ≠ "" ∧ c ∉ x.toList

/-- The pieces of a list written with a character between its members are the members;
a list without members is written as the empty text, which is one piece. -/
theorem pieces_intercalate (h : sep.toList = [c]) {xs : List String} (hx : Separable c xs) :
    pieces c (sep.intercalate xs) = if xs = [] then [""] else xs := by
  split
  · rename_i none
    rw [none]
    rfl
  · rename_i some
    have parts : ∀ l ∈ xs.map String.toList, c ∉ l := by
      intro l hl
      obtain ⟨x, listed, rfl⟩ := List.mem_map.1 hl
      exact (hx x listed).2
    have same : String.ofList ∘ String.toList = id := funext fun _ => String.ofList_toList
    rw [pieces, String.toList_intercalate, h,
      List.splitOn_intercalate c parts (by simpa using some), List.map_map, same, List.map_id]

/-- **Lists of separable texts are told apart by how they are written.** -/
theorem intercalate_inj (h : sep.toList = [c]) {xs ys : List String} (hx : Separable c xs)
    (hy : Separable c ys) : sep.intercalate xs = sep.intercalate ys ↔ xs = ys := by
  refine ⟨fun written => ?_, fun same => same ▸ rfl⟩
  have same := pieces_intercalate h hx
  rw [written, pieces_intercalate h hy] at same
  -- Of two lists with one written form either both have members, and these are the pieces,
  -- or the empty text is a member of one that has some.
  split at same
  · rename_i no_ys
    split at same
    · rename_i no_xs
      rw [no_xs, no_ys]
    · exact absurd rfl (hx "" (same ▸ List.mem_singleton.2 rfl)).1
  · split at same
    · exact absurd rfl (hy "" (same ▸ List.mem_singleton.2 rfl)).1
    · exact same.symm

/-- A character that stands neither in the members nor between them stands nowhere. -/
theorem notMem_intercalate {d : Char} (h : d ∉ sep.toList) {xs : List String}
    (hx : ∀ x ∈ xs, d ∉ x.toList) : d ∉ (sep.intercalate xs).toList := by
  induction xs with
  | nil => simp
  | cons x xs ih =>
    rw [List.forall_mem_cons] at hx
    by_cases last : xs = []
    · rw [last, String.intercalate_singleton]
      exact hx.1
    · rw [String.intercalate_cons_of_ne_nil last, String.toList_append, String.toList_append,
        List.mem_append, List.mem_append]
      rintro ((first | between) | later)
      · exact hx.1 first
      · exact h between
      · exact ih hx.2 later

end WorkerGroup.Text
