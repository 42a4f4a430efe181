/-
The octets of a text.

A text is carried as the octets of its UTF-8 form, and of that form three things are used.
It is no more than the text: each octet is below 256, and the octets are those of this text
alone (`textOf?_octetsOf`, `octetsOf_of_textOf?`). It is put together character by character,
one to four octets each (`charOctets_eq`). And it sorts like the text: of two characters the
one with the greater number is already greater at the first octet in which the two differ,
whatever follows (`charOctets_append_lt`), so texts are in the order of their octets exactly
when they are in the order of their characters (`octetsOf_lt_iff`).
-/
import WorkerGroup.Text.Base64

set_option autoImplicit false

namespace WorkerGroup.Text.Base64

/-! ## There and back -/

/-- An octet is a number below 256. -/
theorem lt_of_mem_octetsOf {s : String} : ∀ o ∈ octetsOf s, o < 256 := by
  intro o ho
  obtain ⟨b, -, rfl⟩ := List.mem_map.1 ho
  exact b.toNat_lt

/-- **The octets of a text stand for the text.** -/
theorem textOf?_octetsOf (s : String) : textOf? (octetsOf s) = some s := by
  have same : UInt8.ofNat ∘ UInt8.toNat = id := funext fun b => UInt8.ofNat_toNat
  rw [textOf?, octetsOf, List.map_map, same, List.map_id]
  exact dif_pos s.isValidUTF8

/-- **Octets that stand for a text are the octets of that text.** -/
theorem octetsOf_of_textOf? {octets : List Nat} {s : String} (small : ∀ o ∈ octets, o < 256)
    (h : textOf? octets = some s) : octetsOf s = octets := by
  have same : (octets.map UInt8.ofNat).map UInt8.toNat = octets := by
    rw [List.map_map]
    exact (List.map_congr_left fun o ho => Nat.mod_eq_of_lt (small o ho)).trans (List.map_id _)
  rw [textOf?, String.fromUTF8?] at h
  split at h
  · cases h
    exact same
  · cases h

/-! ## Character by character -/

/-- The octets of one character. -/
def charOctets (c : Char) : List Nat :=
  (String.utf8EncodeChar c).map UInt8.toNat

theorem octetsOf_eq_flatMap (s : String) : octetsOf s = s.toList.flatMap charOctets := by
  rw [octetsOf, ← String.utf8Encode_toList, List.utf8Encode, List.toList_data_toByteArray,
    List.map_flatMap]
  rfl

/-- The first octet of a character says how many follow it, and those that follow have six
bits of it each. -/
theorem charOctets_eq (c : Char) :
    charOctets c =
      if c.toNat < 128 then [c.toNat]
      else if c.toNat < 2048 then [192 + c.toNat / 64, 128 + c.toNat % 64]
      else if c.toNat < 65536 then
        [224 + c.toNat / 4096, 128 + c.toNat / 64 % 64, 128 + c.toNat % 64]
      else
        [240 + c.toNat / 262144, 128 + c.toNat / 4096 % 64, 128 + c.toNat / 64 % 64,
          128 + c.toNat % 64] := by
  have most : c.toNat < 1114112 := by
    rcases c.valid with low | high
    · exact Nat.lt_trans low (by decide)
    · exact high.2
  rw [charOctets]
  -- The remainders in the definition of the form cut nothing off: a number that takes so
  -- many octets has no more bits than they hold.
  fun_cases String.utf8EncodeChar c with
  | case1 v one =>
    have number : v = c.toNat := rfl
    rw [if_pos (by omega)]
    simp only [List.map_cons, List.map_nil, UInt8.toNat_ofNat', List.cons.injEq, and_true]
    omega
  | case2 v one two =>
    have number : v = c.toNat := rfl
    rw [if_neg (by omega), if_pos (by omega)]
    simp only [List.map_cons, List.map_nil, UInt8.toNat_ofNat', List.cons.injEq, and_true]
    omega
  | case3 v one two three =>
    have number : v = c.toNat := rfl
    rw [if_neg (by omega), if_neg (by omega), if_pos (by omega)]
    simp only [List.map_cons, List.map_nil, UInt8.toNat_ofNat', List.cons.injEq, and_true]
    omega
  | case4 v one two three =>
    have number : v = c.toNat := rfl
    rw [if_neg (by omega), if_neg (by omega), if_neg (by omega)]
    simp only [List.map_cons, List.map_nil, UInt8.toNat_ofNat', List.cons.injEq, and_true]
    omega

/-- **The greater character has the greater octets**, whatever follows either of them. -/
theorem charOctets_append_lt {c d : Char} (h : c < d) (x y : List Nat) :
    charOctets c ++ x < charOctets d ++ y := by
  have number : c.toNat < d.toNat := h
  rw [charOctets_eq, charOctets_eq]
  -- A character that takes fewer octets has the smaller first one; of two that take equally
  -- many the numbers are compared six bits at a time.
  repeat' split
  all_goals
    simp only [List.cons_append, List.nil_append, List.cons_lt_cons_iff]
    omega

/-- Lists of characters are in the order of their octets. -/
theorem flatMap_charOctets_lt {cs ds : List Char} (h : cs < ds) :
    cs.flatMap charOctets < ds.flatMap charOctets := by
  induction h with
  | @nil d ds =>
    have some_octets : charOctets d ≠ [] := by
      rw [charOctets, ne_eq, List.map_eq_nil_iff]
      exact String.utf8EncodeChar_ne_nil
    obtain ⟨o, os, octets⟩ := List.exists_cons_of_ne_nil some_octets
    rw [List.flatMap_cons, octets]
    exact List.nil_lt_cons _ _
  | rel less =>
    rw [List.flatMap_cons, List.flatMap_cons]
    exact charOctets_append_lt less _ _
  | cons _ ih =>
    rw [List.flatMap_cons, List.flatMap_cons]
    exact List.append_left_lt ih

/-- **Texts are in the order of their octets** when they are in the order of their
characters. -/
theorem octetsOf_lt_iff {s t : String} : octetsOf s < octetsOf t ↔ s < t := by
  have upward {a b : String} (h : a < b) : octetsOf a < octetsOf b := by
    rw [octetsOf_eq_flatMap, octetsOf_eq_flatMap]
    exact flatMap_charOctets_lt h
  -- Both orders are total, so one direction gives the other.
  refine ⟨fun h => String.not_le.1 fun le => ?_, upward⟩
  by_cases same : s = t
  · exact List.lt_irrefl _ (same ▸ h)
  · have less : t < s := String.not_le.1 fun ge => same (String.le_antisymm ge le)
    exact List.lt_asymm h (upward less)

end WorkerGroup.Text.Base64
