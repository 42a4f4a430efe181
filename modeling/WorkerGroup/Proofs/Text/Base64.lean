/-
Base64 is read exactly as it is written.

The four characters of a full group and the octets they stand for are two ways to cut the
same twenty-four bits, and a group of one or two octets is a full one with bits and
characters left out. So the two directions of the round trip are the same arithmetic, done
once from octets to characters (`decode?_encode`) and once from characters to octets
(`encode_of_decode?`). The second direction is where strictness counts: bits that were left
out must have been zero, or the characters that are read would not be the ones that are
written for the octets they give.

Together they say that a text is base64 of something in one way only
(`decodeText?_eq_some_iff`).
-/
import WorkerGroup.Proofs.Text.Octets
import WorkerGroup.Text.Blank

set_option autoImplicit false

namespace WorkerGroup.Text.Base64

/-! ## The alphabet -/

example : (List.range 64).map symbol =
    "ABCDEFGHIJKLMNOPQRSTUVWXYZabcdefghijklmnopqrstuvwxyz0123456789+/".toList := by decide

theorem symbolValue?_symbol {v : Nat} (h : v < 64) : symbolValue? (symbol v) = some v :=
  (by decide : ∀ v < 64, symbolValue? (symbol v) = some v) v h

theorem symbol_of_symbolValue? {c : Char} {v : Nat} (h : symbolValue? c = some v) :
    v < 64 ∧ symbol v = c := by
  have number (n : Nat) (same : n = c.toNat) : Char.ofNat n = c := same ▸ Char.ofNat_toNat c
  rw [symbolValue?] at h
  split at h
  · cases h
    rw [symbol, if_pos (by omega)]
    exact ⟨by omega, number _ (by omega)⟩
  split at h
  · cases h
    rw [symbol, if_neg (by omega), if_pos (by omega)]
    exact ⟨by omega, number _ (by omega)⟩
  split at h
  · cases h
    rw [symbol, if_neg (by omega), if_neg (by omega), if_pos (by omega)]
    exact ⟨by omega, number _ (by omega)⟩
  split at h
  · rename_i plus
    cases h
    exact ⟨by decide, plus.symm⟩
  split at h
  · rename_i slash
    cases h
    exact ⟨by decide, slash.symm⟩
  · cases h

/-- Padding is no character of the alphabet. -/
theorem symbol_ne_pad {v : Nat} (h : v < 64) : symbol v ≠ '=' :=
  (by decide : ∀ v < 64, symbol v ≠ '=') v h

theorem isBlank_symbol {v : Nat} (h : v < 64) : isBlank (symbol v) = false :=
  (by decide : ∀ v < 64, isBlank (symbol v) = false) v h

/-! ## Groups -/

section

variable {v w x y : Nat} (hw : w < 64)
include hw

/-- Two characters and padding for one octet: the four bits that are left over are zero. -/
theorem encode_one (unused : w % 16 = 0) :
    encode [v * 4 + w / 16] = [symbol v, symbol w, '=', '='] := by
  have first : (v * 4 + w / 16) / 4 = v := by omega
  have second : (v * 4 + w / 16) % 4 * 16 = w := by omega
  rw [encode, first, second]

/-- Three characters and padding for two octets: the two bits that are left over are zero. -/
theorem encode_two (hx : x < 64) (unused : x % 4 = 0) :
    encode [v * 4 + w / 16, w % 16 * 16 + x / 4] = [symbol v, symbol w, symbol x, '='] := by
  have first : (v * 4 + w / 16) / 4 = v := by omega
  have second : (v * 4 + w / 16) % 4 * 16 + (w % 16 * 16 + x / 4) / 16 = w := by omega
  have third : (w % 16 * 16 + x / 4) % 16 * 4 = x := by omega
  rw [encode, first, second, third]

/-- Four characters for three octets. -/
theorem encode_three (hx : x < 64) (hy : y < 64) (octets : List Nat) :
    encode ((v * 4 + w / 16) :: (w % 16 * 16 + x / 4) :: (x % 4 * 64 + y) :: octets) =
      symbol v :: symbol w :: symbol x :: symbol y :: encode octets := by
  have first : (v * 4 + w / 16) / 4 = v := by omega
  have second : (v * 4 + w / 16) % 4 * 16 + (w % 16 * 16 + x / 4) / 16 = w := by omega
  have third : (w % 16 * 16 + x / 4) % 16 * 4 + (x % 4 * 64 + y) / 64 = x := by omega
  have fourth : (x % 4 * 64 + y) % 64 = y := by omega
  rw [encode, first, second, third, fourth]

end

/-! ## There and back -/

/-- **What is written for octets is read as these octets.** -/
theorem decode?_encode {octets : List Nat} (small : ∀ o ∈ octets, o < 256) :
    decode? (encode octets) = some octets := by
  fun_induction encode octets with
  | case1 => rfl
  | case2 a =>
    rw [List.forall_mem_singleton] at small
    rw [decode?, symbolValue?_symbol (by omega), symbolValue?_symbol (by omega)]
    simp only [Option.bind_eq_bind, Option.bind_some, and_self, if_true]
    rw [if_pos (by omega)]
    simp only [Option.some.injEq, List.cons.injEq, and_true]
    omega
  | case3 a b =>
    obtain ⟨small_a, small_b⟩ := List.forall_mem_cons.1 small
    rw [List.forall_mem_singleton] at small_b
    rw [decode?, symbolValue?_symbol (by omega), symbolValue?_symbol (by omega)]
    simp only [Option.bind_eq_bind, Option.bind_some, and_self, if_true]
    rw [if_neg (symbol_ne_pad (by omega)), symbolValue?_symbol (by omega), Option.bind_some,
      if_pos (by omega)]
    simp only [Option.some.injEq, List.cons.injEq, and_true]
    omega
  | case4 a b c rest ih =>
    obtain ⟨small_a, later⟩ := List.forall_mem_cons.1 small
    obtain ⟨small_b, later⟩ := List.forall_mem_cons.1 later
    obtain ⟨small_c, later⟩ := List.forall_mem_cons.1 later
    rw [decode?, symbolValue?_symbol (by omega), symbolValue?_symbol (by omega)]
    simp only [Option.bind_eq_bind, Option.bind_some]
    -- A full group does not end in padding, be it the last one or not.
    rw [if_neg fun last => symbol_ne_pad (by omega) last.1, symbolValue?_symbol (by omega),
      symbolValue?_symbol (by omega), ih later]
    simp only [Option.bind_some, Option.some.injEq, List.cons.injEq, and_true]
    omega

/-- **What is read as octets is what is written for them.** -/
theorem encode_of_decode? {cs : List Char} {octets : List Nat} (h : decode? cs = some octets) :
    encode octets = cs ∧ ∀ o ∈ octets, o < 256 := by
  fun_induction decode? cs generalizing octets with
  | case1 =>
    cases h
    exact ⟨rfl, nofun⟩
  | case2 p q r s rest ih =>
    simp only [Option.bind_eq_bind, Option.bind_eq_some_iff] at h
    obtain ⟨v, at_p, w, at_q, h⟩ := h
    obtain ⟨hv, rfl⟩ := symbol_of_symbolValue? at_p
    obtain ⟨hw, rfl⟩ := symbol_of_symbolValue? at_q
    -- Padding in the fourth place is read only at the end; anywhere else it has no value.
    split at h
    · rename_i last
      obtain ⟨rfl, rfl⟩ := last
      split at h
      · rename_i pad
        obtain ⟨unused, ⟨⟩⟩ := Option.ite_none_right_eq_some.1 h
        rw [encode_one hw unused, pad, List.forall_mem_singleton]
        exact ⟨rfl, by omega⟩
      · obtain ⟨x, at_r, read⟩ := Option.bind_eq_some_iff.1 h
        obtain ⟨hx, rfl⟩ := symbol_of_symbolValue? at_r
        obtain ⟨unused, ⟨⟩⟩ := Option.ite_none_right_eq_some.1 read
        rw [encode_two hw hx unused, List.forall_mem_cons, List.forall_mem_singleton]
        exact ⟨rfl, by omega, by omega⟩
    · simp only [Option.bind_eq_some_iff] at h
      obtain ⟨x, at_r, y, at_s, later, at_rest, ⟨⟩⟩ := h
      obtain ⟨hx, rfl⟩ := symbol_of_symbolValue? at_r
      obtain ⟨hy, rfl⟩ := symbol_of_symbolValue? at_s
      obtain ⟨written, small⟩ := ih at_rest
      rw [encode_three hw hx hy, written, List.forall_mem_cons, List.forall_mem_cons,
        List.forall_mem_cons]
      exact ⟨rfl, by omega, by omega, by omega, small⟩
  | case3 => cases h

/-- **A text is base64 of another in one way**: as it is written for that one's octets. -/
theorem decodeText?_eq_some_iff {t s : String} : decodeText? t = some s ↔ t = encodeText s := by
  rw [decodeText?, Option.bind_eq_some_iff]
  constructor
  · rintro ⟨octets, read, stands⟩
    obtain ⟨written, small⟩ := encode_of_decode? read
    rw [encodeText, octetsOf_of_textOf? small stands, written, String.ofList_toList]
  · rintro rfl
    refine ⟨octetsOf s, ?_, textOf?_octetsOf s⟩
    rw [encodeText, String.toList_ofList, decode?_encode lt_of_mem_octetsOf]

/-! ## Without blanks -/

/-- Base64 is written without blanks. -/
theorem isBlank_of_mem_encode {octets : List Nat} (small : ∀ o ∈ octets, o < 256) :
    ∀ c ∈ encode octets, isBlank c = false := by
  fun_induction encode octets with
  | case1 => nofun
  | case2 a =>
    rw [List.forall_mem_singleton] at small
    simp only [List.forall_mem_cons]
    exact ⟨isBlank_symbol (by omega), isBlank_symbol (by omega), rfl, rfl, nofun⟩
  | case3 a b =>
    obtain ⟨small_a, small_b⟩ := List.forall_mem_cons.1 small
    rw [List.forall_mem_singleton] at small_b
    simp only [List.forall_mem_cons]
    exact ⟨isBlank_symbol (by omega), isBlank_symbol (by omega), isBlank_symbol (by omega), rfl,
      nofun⟩
  | case4 a b c rest ih =>
    obtain ⟨small_a, later⟩ := List.forall_mem_cons.1 small
    obtain ⟨small_b, later⟩ := List.forall_mem_cons.1 later
    obtain ⟨small_c, later⟩ := List.forall_mem_cons.1 later
    simp only [List.forall_mem_cons]
    exact ⟨isBlank_symbol (by omega), isBlank_symbol (by omega), isBlank_symbol (by omega),
      isBlank_symbol (by omega), ih later⟩

end WorkerGroup.Text.Base64
