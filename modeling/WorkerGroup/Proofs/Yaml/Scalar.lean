/-
Scalars that YAML reads where JSON has written them.

A string of JSON is a scalar in double quotes. The two formats do not escape alike, and YAML
folds what JSON leaves alone: runs of blanks around a line break. So which strings come through
is a matter of their characters. Those that are `Readable` do (`doubleQuoted?_escaped`): their
line breaks and tabs are written with a backslash, hence a run never holds anything but spaces,
and no line of the text starts inside of the string.

The words of JSON, its numbers among them, are plain scalars, which end before a comma or a
closing bracket (`plain?_word`).
-/
import WorkerGroup.Proofs.Json.RoundTrip
import WorkerGroup.Yaml.Scalar

set_option autoImplicit false

namespace WorkerGroup.Yaml

open WorkerGroup.Json (escapedChar Ends numberChars forall_mem_chars)

/-! ## Quoted scalars -/

/-- A printable character of ASCII. -/
def IsPrintable (c : Char) : Prop :=
  ' ' ≤ c ∧ c ≤ '~'

instance (c : Char) : Decidable (IsPrintable c) :=
  inferInstanceAs (Decidable (' ' ≤ c ∧ c ≤ '~'))

/-- A printable character, a tab or a line feed. -/
def IsReadable (c : Char) : Prop :=
  c = '\t' ∨ c = '\n' ∨ IsPrintable c

/-- A text of printable characters, tabs and line feeds. -/
def Readable (s : String) : Prop :=
  ∀ c ∈ s.toList, IsReadable c

instance (c : Char) : Decidable (IsReadable c) :=
  inferInstanceAs (Decidable (c = '\t' ∨ c = '\n' ∨ IsPrintable c))

instance (s : String) : Decidable (Readable s) :=
  List.decidableBAll IsReadable s.toList

/-- What holds of each printable character by its code. -/
theorem forall_printable {p : Char → Prop} (h : ∀ n < 95, p (Char.ofNat (n + 32))) (c : Char)
    (printable : IsPrintable c) : p c := by
  obtain ⟨least, most⟩ := printable
  rw [Char.le_def, UInt32.le_iff_toNat_le] at least most
  have first : 32 ≤ c.toNat := least
  have last : c.toNat ≤ 126 := most
  have at_code := h (c.toNat - 32) (by omega)
  rwa [Nat.sub_add_cancel first, Char.ofNat_toNat] at at_code

/-- Most printable characters are written as they are. -/
theorem escapedChar_of_printable : ∀ c : Char, IsPrintable c → c ≠ ' ' → c ≠ '"' → c ≠ '\\' →
    escapedChar c = [c] ∧ (isGap c || isBreak c) = false :=
  forall_printable (by decide)

/-- A run of spaces stands for itself. -/
theorem runText_spaces {run : List Char} (spaces : ∀ c ∈ run, c = ' ') :
    runText false run = run.reverse := by
  have unbroken : run.reverse.filter isBreak = [] := by
    rw [List.filter_eq_nil_iff]
    intro c hc
    rw [spaces c (List.mem_reverse.1 hc)]
    decide
  rw [runText, if_neg Bool.false_ne_true, folded, unbroken]

/-- No line starts behind a run of spaces. -/
theorem afterBreak_spaces {run : List Char} (spaces : ∀ c ∈ run, c = ' ') :
    afterBreak false run = false := by
  cases run with
  | nil => rfl
  | cons c run =>
    rw [spaces c List.mem_cons_self]
    rfl

/-- A character other than a backslash ends the scalar, belongs to a run or is itself. -/
theorem doubleQuoted?_cons {c : Char} (h : c ≠ '\\') {run : List Char}
    (spaces : ∀ d ∈ run, d = ' ') (rest : List Char) :
    doubleQuoted? false run (c :: rest) =
      if isGap c || isBreak c then doubleQuoted? false (c :: run) rest
      else if c = '"' then some (run.reverse, rest)
      else prepend (run.reverse ++ [c]) (doubleQuoted? false [] rest) := by
  rw [doubleQuoted?]
  · rw [afterBreak_spaces spaces, Bool.false_and, runText_spaces spaces, if_neg Bool.false_ne_true,
      if_neg h]
  -- The equations in front of this one are for a backslash.
  all_goals
    intros
    contradiction

/-- A readable character is read as it was written. Spaces are kept in the run. -/
theorem doubleQuoted?_escapedChar {c : Char} (readable : IsReadable c) (no_space : c ≠ ' ')
    {run : List Char} (spaces : ∀ d ∈ run, d = ' ') (rest : List Char) :
    doubleQuoted? false run (escapedChar c ++ rest) =
      prepend (run.reverse ++ [c]) (doubleQuoted? false [] rest) := by
  have escape (e d : Char) (h : doubleQuoted? false run ('\\' :: e :: rest) =
      prepend (runText false run ++ [d]) (doubleQuoted? false [] rest)) :
      doubleQuoted? false run (['\\', e] ++ rest) =
        prepend (run.reverse ++ [d]) (doubleQuoted? false [] rest) := by
    rw [runText_spaces spaces] at h
    exact h
  -- A tab or a line feed that stood for itself would be folded; behind a backslash it is text.
  rcases readable with rfl | rfl | printable
  · exact escape 't' '\t' rfl
  · exact escape 'n' '\n' rfl
  · by_cases quote : c = '"'
    · subst quote
      exact escape '"' '"' rfl
    · by_cases backslash : c = '\\'
      · subst backslash
        exact escape '\\' '\\' rfl
      · have bare := escapedChar_of_printable c printable no_space quote backslash
        rw [bare.1, List.singleton_append, doubleQuoted?_cons backslash spaces, bare.2,
          if_neg Bool.false_ne_true, if_neg quote]

/-- **A readable string is read as it was written**, up to its closing quote. The induction
carries the spaces that were passed since the last character. -/
theorem doubleQuoted?_escaped {cs : List Char} (readable : ∀ c ∈ cs, IsReadable c)
    (rest : List Char) :
    doubleQuoted? false [] (cs.flatMap escapedChar ++ '"' :: rest) = some (cs, rest) := by
  suffices with_run : ∀ run : List Char, (∀ c ∈ run, c = ' ') →
      doubleQuoted? false run (cs.flatMap escapedChar ++ '"' :: rest) =
        some (run.reverse ++ cs, rest) from with_run [] nofun
  induction cs with
  | nil =>
    intro run spaces
    rw [List.flatMap_nil, List.nil_append, doubleQuoted?_cons (by decide) spaces,
      if_neg (by decide), if_pos rfl, List.append_nil]
  | cons c cs ih =>
    intro run spaces
    have more := ih fun d hd => readable d (List.mem_cons_of_mem _ hd)
    rw [List.flatMap_cons, List.append_assoc]
    by_cases space : c = ' '
    · -- A space waits in the run, since only what comes next tells whether a line is folded.
      subst space
      have run_spaces : ∀ d ∈ ' ' :: run, d = ' ' :=
        List.forall_mem_cons.2 ⟨rfl, spaces⟩
      have bare : escapedChar ' ' = [' '] := by decide
      rw [bare, List.singleton_append, doubleQuoted?_cons (by decide) spaces, if_pos (by decide),
        more _ run_spaces, List.reverse_cons, List.append_assoc, List.singleton_append]
    · rw [doubleQuoted?_escapedChar (readable c List.mem_cons_self) space spaces, more [] nofun]
      simp [prepend]

/-! ## Plain scalars -/

/-- The characters that the words of JSON are made of. -/
def wordChars : List Char :=
  ['a', 'e', 'f', 'l', 'n', 'r', 's', 't', 'u'] ++ numberChars

/-- A plain scalar ends where a value of JSON does. -/
theorem plain?_ends {rest : List Char} (h : Ends rest) (margin column : Nat) :
    plain? true margin [] column rest = some ([], rest) := by
  cases rest with
  | nil => rfl
  | cons c rest =>
    rcases h c rfl with rfl | rfl | rfl <;> rfl

/-- **A word is read as a plain scalar.** -/
theorem plain?_word {word rest : List Char} (chars : ∀ c ∈ word, c ∈ wordChars) (h : Ends rest)
    (margin column : Nat) : plain? true margin [] column (word ++ rest) = some (word, rest) := by
  induction word generalizing column with
  | nil => exact plain?_ends h margin column
  | cons c word ih =>
    have ordinary : ∀ c ∈ wordChars, isGap c = false ∧ isBreak c = false ∧ c ≠ ':' ∧
        isFlowIndicator c = false := forall_mem_chars (by decide)
    obtain ⟨no_gap, no_break, no_colon, no_indicator⟩ := ordinary c (chars c List.mem_cons_self)
    have more := ih (fun d hd => chars d (List.mem_cons_of_mem _ hd)) (column + 1)
    simp [plain?, no_gap, no_break, no_colon, no_indicator, more, folded, prepend]

end WorkerGroup.Yaml
