/-
Parts of a text by offsets.

A place in a text can be given as the number of octets in front of it. Not every number is a
place: there is none beyond the end and none inside a character, so a part that is asked for by
two numbers may have to be refused. It is given exactly when the text is that part with whole
texts around it whose octets the numbers count (`slice_eq_ok_iff`).

What a search finds is a place: the first character of a kind stands behind the octets of the
characters before it (`offset?_eq_some_iff`). So the longest run of a kind at the front of a
text ends where the first character of another kind is found, or else at the end
(`getD_offset?_not`), and a text that is cut there is cut between two characters.
-/
import WorkerGroup.Proofs.Lists
import Mathlib.Data.List.TakeWhile

set_option autoImplicit false

namespace WorkerGroup.Text

variable {p : Char → Bool} {s t : String} {start stop n : Nat}

/-! ## Parts -/

/-- Two numbers are places in a text, the second not before the first. -/
structure IsSpan (s : String) (start stop : Nat) : Prop where
  start_valid : (String.Pos.Raw.mk start).IsValid s
  stop_valid : (String.Pos.Raw.mk stop).IsValid s
  ordered : start ≤ stop

instance (s : String) (start stop : Nat) : Decidable (IsSpan s start stop) :=
  decidable_of_iff
    ((String.Pos.Raw.mk start).IsValid s ∧ (String.Pos.Raw.mk stop).IsValid s ∧ start ≤ stop)
    ⟨fun h => ⟨h.1, h.2.1, h.2.2⟩, fun h => ⟨h.start_valid, h.stop_valid, h.ordered⟩⟩

/-- A part of a text that there is not. -/
structure BadSlice where
  text : String
  start : Nat
  stop : Nat
deriving DecidableEq, Repr

/-- The part of a text between two places. -/
def slice (s : String) (start stop : Nat) : Except BadSlice String :=
  if h : IsSpan s start stop then
    .ok (s.slice (s.pos ⟨start⟩ h.start_valid) (s.pos ⟨stop⟩ h.stop_valid) h.ordered).copy
  else .error ⟨s, start, stop⟩

/-- **A part is given exactly when it is one**, from where some front of the text ends to where
that front and the part end. -/
theorem slice_eq_ok_iff :
    slice s start stop = .ok t ↔
      ∃ front back, s = front ++ t ++ back ∧ front.utf8ByteSize = start ∧
        (front ++ t).utf8ByteSize = stop := by
  constructor
  · intro given
    rw [slice] at given
    split at given
    · rename_i span
      obtain ⟨front, back, at_start, at_stop⟩ :=
        String.copy_slice_eq_iff_splits.1 ⟨span.ordered, Except.ok.inj given⟩
      refine ⟨front, back, at_stop.eq_append, ?_, ?_⟩
      · exact (congrArg String.Pos.Raw.byteIdx at_start.offset_eq_rawEndPos).symm
      · exact (congrArg String.Pos.Raw.byteIdx at_stop.offset_eq_rawEndPos).symm
    · cases given
  · rintro ⟨front, back, rfl, rfl, rfl⟩
    have start_valid : front.rawEndPos.IsValid (front ++ t ++ back) := by
      rw [String.append_assoc]
      exact String.Pos.Raw.isValid_rawEndPos.append_right (t ++ back)
    have stop_valid : (front ++ t).rawEndPos.IsValid (front ++ t ++ back) :=
      String.Pos.Raw.isValid_rawEndPos.append_right back
    have ordered : front.utf8ByteSize ≤ (front ++ t).utf8ByteSize := by
      rw [String.utf8ByteSize_append]
      exact Nat.le_add_right _ _
    have span : IsSpan (front ++ t ++ back) front.utf8ByteSize (front ++ t).utf8ByteSize :=
      ⟨start_valid, stop_valid, ordered⟩
    have at_start : ((front ++ t ++ back).pos _ start_valid).Splits front (t ++ back) :=
      ⟨String.append_assoc, rfl⟩
    have at_stop : ((front ++ t ++ back).pos _ stop_valid).Splits (front ++ t) back := ⟨rfl, rfl⟩
    obtain ⟨_, copied⟩ := String.copy_slice_eq_iff_splits.2 ⟨front, back, at_start, at_stop⟩
    rw [slice, dif_pos span]
    exact congrArg Except.ok copied

/-- Inside a character there is no place, and beyond the end there is none. -/
example :
    (slice "é5" 0 2).isOk = true ∧ (slice "é5" 0 1).isOk = false ∧
      (slice "é5" 2 4).isOk = false := by
  decide

/-- A front of a text is the part up to its own size. -/
theorem slice_front (front back : String) :
    slice (front ++ back) 0 front.utf8ByteSize = .ok front :=
  slice_eq_ok_iff.2 ⟨"", back, by rw [String.empty_append], rfl, by rw [String.empty_append]⟩

/-- What is behind a front of a text is the part from there to the end. -/
theorem slice_back (front back : String) :
    slice (front ++ back) front.utf8ByteSize (front ++ back).utf8ByteSize = .ok back :=
  slice_eq_ok_iff.2 ⟨front, "", by rw [String.append_empty], rfl, rfl⟩

/-! ## Searching -/

/-- The offset of the first character of a kind. -/
def offset? (p : Char → Bool) (s : String) : Option Nat :=
  (s.find? p).map (·.offset.byteIdx)

theorem offset?_eq_none_iff : offset? p s = none ↔ ∀ c ∈ s.toList, p c = false := by
  rw [offset?, Option.map_eq_none_iff, String.find?_eq_find?_toSlice, Option.map_eq_none_iff,
    String.Slice.find?_eq_none_iff, String.Slice.contains_bool_eq, String.copy_toSlice,
    List.any_eq_false]
  simp only [Bool.not_eq_true]

/-- **What is found is the first of its kind**, behind the octets of what is before it. -/
theorem offset?_eq_some_iff :
    offset? p s = some n ↔
      ∃ front c back, s = front ++ String.singleton c ++ back ∧ p c = true ∧
        (∀ d ∈ front.toList, p d = false) ∧ front.utf8ByteSize = n := by
  rw [offset?, Option.map_eq_some_iff]
  constructor
  · rintro ⟨place, found, rfl⟩
    obtain ⟨front, c, back, here, kind, others⟩ := String.find?_bool_eq_some_iff_splits.1 found
    refine ⟨front, c, back, ?_, kind, others, ?_⟩
    · rw [here.eq_append, String.append_assoc]
    · exact (congrArg String.Pos.Raw.byteIdx here.offset_eq_rawEndPos).symm
  · rintro ⟨front, c, back, cut, kind, others, rfl⟩
    rw [String.append_assoc] at cut
    have here := String.Pos.splits_ofEqAppend cut
    refine ⟨.ofEqAppend cut, ?_, congrArg String.Pos.Raw.byteIdx here.offset_eq_rawEndPos⟩
    exact String.find?_bool_eq_some_iff_splits.2 ⟨front, c, back, here, kind, others⟩

/-! ## Runs of a kind -/

/-- A text is its longest run of a kind and what is behind it. -/
theorem ofList_takeWhile_append_dropWhile (p : Char → Bool) (s : String) :
    String.ofList (s.toList.takeWhile p) ++ String.ofList (s.toList.dropWhile p) = s := by
  rw [← String.ofList_append, List.takeWhile_append_dropWhile, String.ofList_toList]

/-- **The longest run of a kind ends where the first character of another kind is found**, or
at the end of the text. -/
theorem getD_offset?_not (p : Char → Bool) (s : String) :
    (offset? (!p ·) s).getD s.utf8ByteSize =
      (String.ofList (s.toList.takeWhile p)).utf8ByteSize := by
  cases found : offset? (!p ·) s with
  | none =>
    have all : ∀ c ∈ s.toList, p c = true := by
      intro c listed
      simpa using offset?_eq_none_iff.1 found c listed
    rw [List.takeWhile_eq_self_iff.2 all, String.ofList_toList]
    rfl
  | some n =>
    obtain ⟨front, c, back, rfl, other, run, rfl⟩ := offset?_eq_some_iff.1 found
    have all : ∀ d ∈ front.toList, p d = true := by
      intro d listed
      simpa using run d listed
    have stop : ∀ d ∈ (c :: back.toList).head?, p d = false := by
      rintro d ⟨⟩
      simpa using other
    have run_only : (front ++ String.singleton c ++ back).toList.takeWhile p = front.toList := by
      rw [String.append_assoc, String.toList_append, String.toList_append, String.toList_singleton]
      exact Lists.takeWhile_append_of_stop all stop
    rw [run_only, String.ofList_toList]
    rfl

end WorkerGroup.Text
