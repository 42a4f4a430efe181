/-
Trimming takes off the blanks around a text, all of them and nothing else.

The blanks are the characters of one list (`isBlank_iff_mem_blanks`). A text stands in some of
them when it has been trimmed (`inBlanks_trim`), and one that has no blank itself is what is
left when it is (`trim_eq_of_inBlanks`). So to ask for a kind of text without blanks after
trimming is to ask for such a text with blanks around it (`exists_inBlanks_iff`).
-/
import WorkerGroup.Text.Blank
import WorkerGroup.Text.Decimal

set_option autoImplicit false

namespace WorkerGroup.Text

/-- Blanks in front of a text are skipped. -/
theorem trimStart_append_of_blank {w : List Char} (blank : ∀ c ∈ w, isBlank c = true)
    (cs : List Char) : trimStart (w ++ cs) = trimStart cs :=
  List.dropWhile_append_of_pos blank

/-- Blanks behind a text are taken off. -/
theorem trimEnd_append_of_blank {w : List Char} (blank : ∀ c ∈ w, isBlank c = true)
    (cs : List Char) : trimEnd (cs ++ w) = trimEnd cs := by
  rw [trimEnd, trimEnd, List.reverse_append,
    List.dropWhile_append_of_pos fun c hc => blank c (List.mem_reverse.1 hc)]

theorem trimStart_cons {c : Char} (h : isBlank c = false) (cs : List Char) :
    trimStart (c :: cs) = c :: cs :=
  List.dropWhile_cons_of_neg (by rw [h]; decide)

/-- A text without blanks is left alone at its front, whatever follows it. -/
theorem trimStart_append_of_solid {cs : List Char} (solid : ∀ c ∈ cs, isBlank c = false)
    (some_char : cs ≠ []) (rest : List Char) : trimStart (cs ++ rest) = cs ++ rest := by
  obtain ⟨c, more, rfl⟩ := List.exists_cons_of_ne_nil some_char
  exact trimStart_cons (solid c List.mem_cons_self) (more ++ rest)

theorem trimEnd_of_solid {cs : List Char} (solid : ∀ c ∈ cs, isBlank c = false)
    (some_char : cs ≠ []) : trimEnd cs = cs := by
  have reversed : trimStart (cs.reverse ++ []) = cs.reverse ++ [] :=
    trimStart_append_of_solid (fun c hc => solid c (List.mem_reverse.1 hc))
      (mt List.reverse_eq_nil_iff.1 some_char) []
  rw [List.append_nil, trimStart] at reversed
  rw [trimEnd, reversed, List.reverse_reverse]

/-- **Blanks around a text that has none are taken off**, and nothing else is. -/
theorem trim_append_of_blank {w t w' : String} (blank : ∀ c ∈ w.toList, isBlank c = true)
    (solid : ∀ c ∈ t.toList, isBlank c = false) (blank' : ∀ c ∈ w'.toList, isBlank c = true) :
    trim (w ++ t ++ w') = t := by
  -- Around nothing at all the blanks on the right are already gone when those on the left are.
  have trimmed : trimEnd (trimStart (t.toList ++ w'.toList)) = t.toList := by
    by_cases empty : t.toList = []
    · have gone : trimStart (w'.toList ++ []) = [] := trimStart_append_of_blank blank' []
      rw [List.append_nil] at gone
      rw [empty, List.nil_append, gone]
      rfl
    · rw [trimStart_append_of_solid solid empty, trimEnd_append_of_blank blank',
        trimEnd_of_solid solid empty]
  rw [trim, String.toList_append, String.toList_append, List.append_assoc,
    trimStart_append_of_blank blank, trimmed, String.ofList_toList]

/-! ## Texts in blanks -/

/-- The characters with the Unicode property White_Space. -/
def blanks : List Char :=
  ("\t\n\u000b\u000c\r \u0085\u00a0\u1680\u2000\u2001\u2002\u2003\u2004\u2005\u2006\u2007\u2008" ++
    "\u2009\u200a\u2028\u2029\u202f\u205f\u3000").toList

theorem isBlank_iff_mem_blanks {c : Char} : isBlank c = true ↔ c ∈ blanks := by
  constructor
  · intro h
    have number : c.toNat ∈ blanks.map Char.toNat := by
      have numbers : blanks.map Char.toNat =
          [0x09, 0x0A, 0x0B, 0x0C, 0x0D, 0x20, 0x85, 0xA0, 0x1680, 0x2000, 0x2001, 0x2002, 0x2003,
            0x2004, 0x2005, 0x2006, 0x2007, 0x2008, 0x2009, 0x200A, 0x2028, 0x2029, 0x202F, 0x205F,
            0x3000] := by
        decide
      simp only [isBlank, Bool.or_eq_true, Bool.and_eq_true, decide_eq_true_eq, beq_iff_eq] at h
      simp only [numbers, List.mem_cons, List.not_mem_nil, or_false]
      omega
    obtain ⟨d, listed, same⟩ := List.mem_map.1 number
    rwa [← Char.toNat_inj.1 same]
  · have all : blanks.all isBlank = true := by decide
    exact List.all_eq_true.1 all c

/-- Digits are no blanks. -/
theorem isBlank_of_isDigit {c : Char} (h : Decimal.isDigit c = true) : isBlank c = false := by
  have no_digit : blanks.all (fun b => !Decimal.isDigit b) = true := by decide
  rw [← Bool.not_eq_true, isBlank_iff_mem_blanks]
  intro listed
  have other := List.all_eq_true.1 no_digit c listed
  rw [h] at other
  cases other

/-- A text is another one with blanks around it. -/
def InBlanks (v t : String) : Prop :=
  ∃ front back : String, (∀ c ∈ front.toList, c ∈ blanks) ∧ (∀ c ∈ back.toList, c ∈ blanks) ∧
    v = front ++ t ++ back

/-- What trimming takes off is blank. -/
theorem inBlanks_trim (v : String) : InBlanks v (trim v) := by
  have blank {cs : List Char} : ∀ c ∈ cs.takeWhile isBlank, c ∈ blanks := by
    intro c listed
    rw [← isBlank_iff_mem_blanks]
    exact List.all_eq_true.1 List.all_takeWhile c listed
  refine ⟨String.ofList (v.toList.takeWhile isBlank),
    String.ofList ((trimStart v.toList).reverse.takeWhile isBlank).reverse, ?_, ?_, ?_⟩
  · rw [String.toList_ofList]
    exact blank
  · rw [String.toList_ofList]
    intro c listed
    exact blank c (List.mem_reverse.1 listed)
  · have back : trimEnd (trimStart v.toList) ++
        ((trimStart v.toList).reverse.takeWhile isBlank).reverse = trimStart v.toList := by
      rw [trimEnd, ← List.reverse_append, List.takeWhile_append_dropWhile, List.reverse_reverse]
    rw [← String.toList_inj, String.toList_append, String.toList_append, trim,
      String.toList_ofList, String.toList_ofList, String.toList_ofList, List.append_assoc, back]
    exact List.takeWhile_append_dropWhile.symm

/-- **A text without blanks is what trimming leaves**, whatever blanks are around it. -/
theorem trim_eq_of_inBlanks {v t : String} (h : InBlanks v t)
    (solid : ∀ c ∈ t.toList, c ∉ blanks) : trim v = t := by
  obtain ⟨front, back, blank, blank', rfl⟩ := h
  simp only [← isBlank_iff_mem_blanks, Bool.not_eq_true] at blank blank' solid
  exact trim_append_of_blank blank solid blank'

/-- **Of a kind of text without blanks** there is one in some blanks exactly when what
trimming leaves is of that kind. -/
theorem exists_inBlanks_iff {P : String → Prop} (solid : ∀ t, P t → ∀ c ∈ t.toList, c ∉ blanks)
    {v : String} : (∃ t, InBlanks v t ∧ P t) ↔ P (trim v) := by
  constructor
  · rintro ⟨t, around, kind⟩
    rwa [trim_eq_of_inBlanks around (solid t kind)]
  · intro kind
    exact ⟨trim v, inBlanks_trim v, kind⟩

end WorkerGroup.Text
