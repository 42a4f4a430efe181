/-
JSON is read in whatever layout it is written.

Whoever writes JSON may put blanks behind an opening bracket, behind a comma, behind the colon
of a member and in front of a closing bracket, and the reader passes over them. So nothing is
said here about how a value is written, only that it is read from a text, whatever follows the
text (`ReadAs`). A list is read when its items are, an object when the values of its members
are, with blanks between them or without (`ReadAs.arr`, `ReadAs.obj`), and then the whole text
is (`ReadAs.parse?`). Texts may be any, controls and quotes included, and integers may be of
any size.

The reader of nested values takes fuel. Each value takes at least a character for each time
that fuel is passed on, so the length of what was written is enough.
-/
import WorkerGroup.Json.Parser
import WorkerGroup.Json.Printer
import WorkerGroup.Proofs.Lists
import WorkerGroup.Proofs.Text.Decimal

set_option autoImplicit false

namespace WorkerGroup.Json

open WorkerGroup.Text

/-! ## Strings -/

/-- The value of the two digits that the code of a control is written in. -/
theorem value?_control {n : Nat} (h : n < 0x20) :
    Hexadecimal.value? ['0', '0', Hexadecimal.digitChar (n / 16), Hexadecimal.digitChar (n % 16)] =
      some n :=
  (by decide : ∀ n < 0x20, Hexadecimal.value?
    ['0', '0', Hexadecimal.digitChar (n / 16), Hexadecimal.digitChar (n % 16)] = some n) n h

/-- A character that needs no escape is read as itself. -/
theorem string?_cons {c : Char} (quote : c ≠ '"') (backslash : c ≠ '\\') (h : ¬ c.toNat < 0x20)
    (rest : List Char) :
    string? (c :: rest) = (string? rest).map fun (s, after) => (c :: s, after) := by
  rw [string?.eq_def]
  split
  · rename_i nothing
    cases nothing
  · rename_i same
    cases same
    exact absurd rfl quote
  · rename_i same
    cases same
    exact absurd rfl backslash
  · rename_i same
    cases same
    exact absurd rfl backslash
  · rename_i same
    cases same
    exact absurd rfl backslash
  · rename_i same
    cases same
    rw [if_neg h]

/-- A character is read as it was written, with an escape or without. -/
theorem string?_escapedChar (c : Char) (rest : List Char) :
    string? (escapedChar c ++ rest) = (string? rest).map fun (s, after) => (c :: s, after) := by
  have named (d : Char) (n : Nat) (h : d.toNat = n) : c.toNat = n → c = d :=
    fun same => Char.toNat_inj.1 (same.trans h.symm)
  rw [escapedChar]
  -- In the order of the writer: seven characters with a letter behind the backslash, the other
  -- controls by their code, and what is written as it is.
  split
  · rename_i same; rw [same]; rfl
  split
  · rename_i same; rw [same]; rfl
  split
  · rename_i same; rw [same]; rfl
  split
  · rename_i same; rw [same]; rfl
  split
  · rename_i same; rw [same]; rfl
  split
  · rename_i same; rw [named '\x08' 8 rfl same]; rfl
  split
  · rename_i same; rw [named '\x0c' 12 rfl same]; rfl
  split
  · rename_i control
    have whole : isSurrogate c.toNat = false := by
      rw [isSurrogate, Bool.and_eq_false_iff, decide_eq_false_iff_not]
      omega
    simp only [List.cons_append, List.nil_append]
    rw [string?]
    simp only [value?_control control, whole, Bool.false_eq_true, if_false, Char.ofNat_toNat]
  · rename_i quote backslash _ _ _ _ _ control
    exact string?_cons quote backslash control rest

/-- **A string is read as it was written**, up to its closing quote. -/
theorem string?_flatMap_escapedChar (cs rest : List Char) :
    string? (cs.flatMap escapedChar ++ '"' :: rest) = some (cs, rest) := by
  induction cs with
  | nil => rfl
  | cons c cs ih =>
    rw [List.flatMap_cons, List.append_assoc, string?_escapedChar, ih]
    rfl

theorem key?_flatMap_escapedChar (s : String) (rest : List Char) :
    key? (s.toList.flatMap escapedChar ++ '"' :: rest) = some (some s, rest) := by
  simp only [key?, string?_flatMap_escapedChar, String.ofList_toList]

/-! ## Blanks, and what follows a value -/

/-- What holds of some characters, each looked at. To decide it outright would be to look at
all characters there are. -/
theorem forall_mem_chars {p : Char → Prop} [DecidablePred p] {cs : List Char}
    (h : cs.all (fun c => decide (p c)) = true) : ∀ c ∈ cs, p c :=
  fun c hc => of_decide_eq_true (List.all_eq_true.1 h c hc)

/-- Blanks between the parts of a value. -/
def IsGap (gap : List Char) : Prop :=
  ∀ c ∈ gap, isSpace c = true

theorem isGap_nil : IsGap [] :=
  nofun

/-- Blanks are passed over up to what is none. -/
theorem skipSpace_gap {gap rest : List Char} (blank : IsGap gap)
    (solid : ∀ c ∈ rest.head?, isSpace c = false) : skipSpace (gap ++ rest) = rest :=
  Lists.dropWhile_append_of_stop blank solid

/-- The characters a value ends at: blanks, and what stands between items or closes them. -/
def stopChars : List Char :=
  [' ', '\t', '\n', '\r', ',', ']', '\x7d']

/-- What may follow a value, or nothing. -/
def Stops (rest : List Char) : Prop :=
  ∀ c ∈ rest.head?, c ∈ stopChars

theorem stops_nil : Stops [] :=
  nofun

theorem stops_cons {c : Char} (h : c ∈ stopChars) (rest : List Char) : Stops (c :: rest) := by
  rintro d ⟨⟩
  exact h

theorem stops_gap {gap rest : List Char} (blank : IsGap gap) (h : Stops rest) :
    Stops (gap ++ rest) := by
  cases gap with
  | nil => exact h
  | cons c gap =>
    have space := blank c List.mem_cons_self
    simp only [isSpace, Bool.or_eq_true, beq_iff_eq] at space
    refine stops_cons ?_ (gap ++ rest)
    rcases space with ((rfl | rfl) | rfl) | rfl <;> decide

/-! ## Numbers -/

section

variable {rest : List Char} (h : Stops rest)
include h

theorem Stops.isDigit : ∀ c ∈ rest.head?, Decimal.isDigit c = false := by
  have none : ∀ c ∈ stopChars, Decimal.isDigit c = false := forall_mem_chars (by decide)
  exact fun c hc => none c (h c hc)

/-- Neither a fraction nor an exponent starts where a value ends. -/
theorem Stops.fractionPart? : Json.fractionPart? rest = some ([], rest) := by
  have none : ∀ c ∈ stopChars, ∀ more, Json.fractionPart? (c :: more) = some ([], c :: more) := by
    simp only [stopChars, List.forall_mem_cons]
    exact ⟨fun _ => rfl, fun _ => rfl, fun _ => rfl, fun _ => rfl, fun _ => rfl, fun _ => rfl,
      fun _ => rfl, nofun⟩
  cases rest with
  | nil => rfl
  | cons c rest => exact none c (h c rfl) rest

theorem Stops.exponentPart? : Json.exponentPart? rest = some ([], rest) := by
  have none : ∀ c ∈ stopChars, ¬ (c = 'e' ∨ c = 'E') := forall_mem_chars (by decide)
  cases rest with
  | nil => rfl
  | cons c rest => exact if_neg (none c (h c rfl))

end

/-- The digits of a number are an integer part, since no zero stands in front of others. -/
theorem integerPart?_digits (n : Nat) {rest : List Char} (h : Stops rest) :
    integerPart? (Decimal.digits n ++ rest) = some (Decimal.digits n, rest) := by
  by_cases zero : n = 0
  · rw [zero, Decimal.digits_of_lt (by decide)]
    rfl
  · -- A zero in front would be the whole integer part.
    have no_zero : ∀ more, Decimal.digits n ++ rest ≠ '0' :: more := by
      intro more starts
      have first : (Decimal.digits n ++ rest).head? = some '0' := by rw [starts, List.head?_cons]
      rw [List.head?_append, Option.or_of_isSome (List.isSome_head?.2 (Decimal.digits_ne_nil n)),
        Decimal.head?_digits_eq_zero_iff] at first
      exact zero first
    rw [integerPart?]
    · simp only [Lists.takeWhile_append_of_stop (Decimal.isDigit_of_mem_digits n) h.isDigit,
        Lists.dropWhile_append_of_stop (Decimal.isDigit_of_mem_digits n) h.isDigit]
      rw [if_neg (Decimal.digits_ne_nil n)]
    · exact no_zero

/-- **An integer is read as it was written.** -/
theorem number?_integer (n : Int) {rest : List Char} (h : Stops rest) :
    number? (Decimal.integer n ++ rest) = some (.int n, rest) := by
  cases n with
  | ofNat n =>
    have unsigned : ∀ more, Decimal.digits n ++ rest ≠ '-' :: more := by
      intro more signed
      obtain ⟨d, ds, written⟩ := List.exists_cons_of_ne_nil (Decimal.digits_ne_nil n)
      have digit := Decimal.isDigit_of_mem_digits n d (written ▸ List.mem_cons_self)
      rw [written, List.cons_append, List.cons.injEq] at signed
      rw [signed.1] at digit
      cases digit
    rw [Decimal.integer, number?]
    · simp [integerPart?_digits n h, h.fractionPart?, h.exponentPart?, Decimal.value_digits]
    · exact unsigned
  | negSucc n =>
    rw [Decimal.integer, List.cons_append, number?]
    simp [integerPart?_digits (n + 1) h, h.fractionPart?, h.exponentPart?, Decimal.value_digits]
    omega

/-! ## What a value is read from -/

/-- The characters an integer starts with. -/
def numberChars : List Char :=
  ['-', '0', '1', '2', '3', '4', '5', '6', '7', '8', '9']

/-- The characters a value starts with. -/
def startChars : List Char :=
  ['n', 't', 'f', '"', '[', '\x7b'] ++ numberChars

/-- A text that a value is read from by a reader with some fuel, whatever follows the text. -/
structure ReadAs (v : Json) (cs : List Char) : Prop where
  /-- It starts with a character that only values start with. -/
  starts : ∃ c ∈ startChars, ∃ more, cs = c :: more
  reads : ∀ (fuel : Nat) (rest : List Char), cs.length ≤ fuel → Stops rest →
    element? fuel (cs ++ rest) = some (v, rest)

theorem not_isSpace_of_mem_startChars : ∀ c ∈ startChars, isSpace c = false :=
  forall_mem_chars (by decide)

/-- No blanks stand at the start of a text that starts like a value. -/
theorem skipSpace_gap_of_starts {gap cs : List Char} (blank : IsGap gap)
    (starts : ∃ c ∈ startChars, ∃ more, cs = c :: more) (rest : List Char) :
    skipSpace (gap ++ (cs ++ rest)) = cs ++ rest := by
  obtain ⟨c, start, more, rfl⟩ := starts
  refine skipSpace_gap blank ?_
  rintro d ⟨⟩
  exact not_isSpace_of_mem_startChars c start

/-- Fuel is passed on once before anything is taken. -/
theorem readAs_of_succ {v : Json} {c : Char} {more : List Char} (start : c ∈ startChars)
    (h : ∀ (fuel : Nat) (rest : List Char), more.length ≤ fuel → Stops rest →
      element? (fuel + 1) (c :: (more ++ rest)) = some (v, rest)) : ReadAs v (c :: more) where
  starts := ⟨c, start, more, rfl⟩
  reads := by
    intro fuel rest enough stops
    rw [List.length_cons] at enough
    obtain ⟨fuel, rfl⟩ : ∃ f, fuel = f + 1 := ⟨fuel - 1, by omega⟩
    exact h fuel rest (by omega) stops

/-! ## Words, numbers and strings -/

theorem readAs_null : ReadAs .null ['n', 'u', 'l', 'l'] :=
  readAs_of_succ (by decide) fun _ _ _ _ => rfl

theorem readAs_bool (b : Bool) : ReadAs (.bool b) (compact (.bool b)) := by
  cases b with
  | false =>
    rw [compact]
    exact readAs_of_succ (by decide) fun _ _ _ _ => rfl
  | true =>
    rw [compact]
    exact readAs_of_succ (by decide) fun _ _ _ _ => rfl

theorem digitChar_mem_numberChars {d : Nat} (h : d < 10) : Decimal.digitChar d ∈ numberChars :=
  (by decide : ∀ d < 10, Decimal.digitChar d ∈ numberChars) d h

theorem exists_integer_eq_cons (n : Int) :
    ∃ c ∈ numberChars, ∃ cs, Decimal.integer n = c :: cs := by
  cases n with
  | ofNat n =>
    obtain ⟨d, small, cs, written⟩ := Decimal.exists_digits_eq_cons n
    exact ⟨_, digitChar_mem_numberChars small, cs, written⟩
  | negSucc n => exact ⟨'-', by decide, _, rfl⟩

/-- What starts like a number is read as one. -/
theorem element?_of_number {c : Char} (h : c ∈ numberChars) (fuel : Nat) (cs : List Char) :
    element? (fuel + 1) (c :: cs) = number? (c :: cs) := by
  simp only [numberChars, List.mem_cons, List.not_mem_nil, or_false] at h
  rcases h with rfl | rfl | rfl | rfl | rfl | rfl | rfl | rfl | rfl | rfl | rfl <;> rfl

theorem readAs_integer (n : Int) : ReadAs (.int n) (Decimal.integer n) := by
  obtain ⟨c, number, cs, written⟩ := exists_integer_eq_cons n
  rw [written]
  refine readAs_of_succ (List.mem_append_right _ number) fun fuel rest _ stops => ?_
  rw [element?_of_number number, ← List.cons_append, ← written]
  exact number?_integer n stops

theorem readAs_quoted (s : String) : ReadAs (.str s) (quoted s) := by
  refine readAs_of_succ (by decide) fun fuel rest _ _ => ?_
  have value : element? (fuel + 1) ('"' :: (s.toList.flatMap escapedChar ++ ['"'] ++ rest)) =
      stringValue? ('"' :: (s.toList.flatMap escapedChar ++ ['"'] ++ rest)) := rfl
  rw [value, stringValue?, List.drop_succ_cons, List.drop_zero, List.append_assoc,
    List.singleton_append, key?_flatMap_escapedChar]
  rfl

/-! ## Lists -/

/-- The text of items and of the bracket that ends them. Blanks may follow a comma, and stand
in front of the bracket. -/
inductive ItemsAs : List Json → List Char → Prop
  | last {v : Json} {cs gap : List Char} (item : ReadAs v cs) (blank : IsGap gap) :
    ItemsAs [v] (cs ++ (gap ++ [']']))
  | next {v : Json} {vs : List Json} {cs gap text : List Char} (item : ReadAs v cs)
    (blank : IsGap gap) (items : ItemsAs vs text) : ItemsAs (v :: vs) (cs ++ ',' :: (gap ++ text))

theorem ItemsAs.starts {vs : List Json} {text : List Char} (h : ItemsAs vs text) :
    ∃ c ∈ startChars, ∃ more, text = c :: more := by
  cases h with
  | last item _ | next item _ _ =>
    obtain ⟨c, start, more, rfl⟩ := item.starts
    exact ⟨c, start, _, List.cons_append⟩

/-- **Items that are read one by one are read one after another.** The induction is on the items;
each of them, with the comma or the bracket behind it, pays for the fuel that it takes. -/
theorem ItemsAs.items? {vs : List Json} {text : List Char} (h : ItemsAs vs text) (fuel : Nat)
    (rest : List Char) (enough : text.length ≤ fuel) :
    Json.items? fuel (text ++ rest) = some (vs, rest) := by
  induction h generalizing fuel with
  | @last v cs gap item blank =>
    rw [List.length_append, List.length_append, List.length_singleton] at enough
    obtain ⟨fuel, rfl⟩ : ∃ f, fuel = f + 1 := ⟨fuel - 1, by omega⟩
    have read := item.reads fuel (gap ++ ']' :: rest) (by omega)
      (stops_gap blank (stops_cons (by decide) rest))
    have bracket : skipSpace (gap ++ ']' :: rest) = ']' :: rest :=
      skipSpace_gap blank (by rintro c ⟨⟩; rfl)
    rw [List.append_assoc, List.append_assoc, List.singleton_append, Json.items?, read]
    simp only [Option.bind_eq_bind, Option.bind_some, bracket]
  | @next v vs cs gap text item blank items ih =>
    rw [List.length_append, List.length_cons, List.length_append] at enough
    obtain ⟨fuel, rfl⟩ : ∃ f, fuel = f + 1 := ⟨fuel - 1, by omega⟩
    have read := item.reads fuel (',' :: (gap ++ (text ++ rest))) (by omega)
      (stops_cons (by decide) _)
    have comma (more : List Char) : skipSpace (',' :: more) = ',' :: more := rfl
    have behind := skipSpace_gap_of_starts blank items.starts rest
    rw [List.append_assoc, List.cons_append, List.append_assoc, Json.items?, read]
    simp only [Option.bind_eq_bind, Option.bind_some, comma, behind, ih fuel (by omega)]

theorem readAs_arr_nil : ReadAs (.arr []) ['[', ']'] :=
  readAs_of_succ (by decide) fun _ _ _ _ => rfl

/-- **A list is read when its items are.** What stands behind the bracket and does not close it
is an item. -/
theorem ReadAs.arr {vs : List Json} {gap text : List Char} (blank : IsGap gap)
    (items : ItemsAs vs text) : ReadAs (.arr vs) ('[' :: (gap ++ text)) := by
  refine readAs_of_succ (by decide) fun fuel rest enough _ => ?_
  rw [List.length_append] at enough
  have first := skipSpace_gap_of_starts blank items.starts rest
  have all := items.items? fuel rest (by omega)
  obtain ⟨c, start, more, rfl⟩ := items.starts
  have opened : ∀ after, c :: more ++ rest ≠ ']' :: after := by
    intro after closed
    rw [List.cons_append, List.cons.injEq] at closed
    exact absurd (closed.1 ▸ start) (by decide)
  rw [List.append_assoc, element?, first]
  split
  · rename_i closed
    exact absurd closed (opened _)
  · rw [all, Option.map_some]

/-! ## Objects -/

/-- The text of a member: its key, a colon, and what its value is read from. -/
inductive MemberAs : String × Json → List Char → Prop
  | mk {v : Json} {cs gap : List Char} (key : String) (blank : IsGap gap) (value : ReadAs v cs) :
    MemberAs (key, v) (quoted key ++ ':' :: (gap ++ cs))

/-- The text of members and of the brace that ends them. -/
inductive MembersAs : List (String × Json) → List Char → Prop
  | last {m : String × Json} {cs gap : List Char} (member : MemberAs m cs) (blank : IsGap gap) :
    MembersAs [m] (cs ++ (gap ++ ['\x7d']))
  | next {m : String × Json} {ms : List (String × Json)} {cs gap text : List Char}
    (member : MemberAs m cs) (blank : IsGap gap) (members : MembersAs ms text) :
    MembersAs (m :: ms) (cs ++ ',' :: (gap ++ text))

theorem MemberAs.starts {m : String × Json} {cs : List Char} (h : MemberAs m cs) :
    ∃ more, cs = '"' :: more := by
  cases h
  exact ⟨_, rfl⟩

theorem MembersAs.starts {ms : List (String × Json)} {text : List Char} (h : MembersAs ms text) :
    ∃ more, text = '"' :: more := by
  cases h with
  | last member _ | next member _ _ =>
    obtain ⟨more, rfl⟩ := member.starts
    exact ⟨_, List.cons_append⟩

theorem skipSpace_gap_of_membersAs {ms : List (String × Json)} {gap text : List Char}
    (h : MembersAs ms text) (blank : IsGap gap) (rest : List Char) :
    skipSpace (gap ++ (text ++ rest)) = text ++ rest := by
  obtain ⟨more, rfl⟩ := h.starts
  exact skipSpace_gap_of_starts blank ⟨'"', by decide, more, rfl⟩ rest

/-- The parts of a member are read one after another. -/
theorem MemberAs.parts {m : String × Json} {cs : List Char} (h : MemberAs m cs) (fuel : Nat)
    (rest : List Char) (enough : cs.length ≤ fuel) (stops : Stops rest) :
    ∃ more after, cs ++ rest = '"' :: more ∧ key? more = some (some m.1, ':' :: after) ∧
      element? fuel (skipSpace after) = some (m.2, rest) := by
  cases h with
  | @mk v cs gap key blank value =>
    rw [List.length_append, List.length_cons, List.length_append] at enough
    refine ⟨key.toList.flatMap escapedChar ++ '"' :: ':' :: (gap ++ (cs ++ rest)),
      gap ++ (cs ++ rest), ?_, key?_flatMap_escapedChar key _, ?_⟩
    · simp only [quoted, List.append_assoc, List.cons_append, List.nil_append]
    · rw [skipSpace_gap_of_starts blank value.starts]
      exact value.reads fuel rest (by omega) stops

/-- **Members whose values are read one by one are read one after another.** -/
theorem MembersAs.members? {ms : List (String × Json)} {text : List Char} (h : MembersAs ms text)
    (fuel : Nat) (rest : List Char) (enough : text.length ≤ fuel) :
    Json.members? fuel (text ++ rest) = some (ms.map fun m => (some m.1, m.2), rest) := by
  have colon (more : List Char) : skipSpace (':' :: more) = ':' :: more := rfl
  induction h generalizing fuel with
  | @last m cs gap member blank =>
    rw [List.length_append, List.length_append, List.length_singleton] at enough
    obtain ⟨fuel, rfl⟩ : ∃ f, fuel = f + 1 := ⟨fuel - 1, by omega⟩
    obtain ⟨more, after, written, key, value⟩ :=
      member.parts fuel (gap ++ '\x7d' :: rest) (by omega)
        (stops_gap blank (stops_cons (by decide) rest))
    have brace : skipSpace (gap ++ '\x7d' :: rest) = '\x7d' :: rest :=
      skipSpace_gap blank (by rintro c ⟨⟩; rfl)
    rw [List.append_assoc, List.append_assoc, List.singleton_append, written, Json.members?]
    simp only [key, colon, value, brace, Option.bind_eq_bind, Option.bind_some, List.map_cons,
      List.map_nil]
  | @next m ms cs gap text member blank members ih =>
    rw [List.length_append, List.length_cons, List.length_append] at enough
    obtain ⟨fuel, rfl⟩ : ∃ f, fuel = f + 1 := ⟨fuel - 1, by omega⟩
    obtain ⟨more, after, written, key, value⟩ :=
      member.parts fuel (',' :: (gap ++ (text ++ rest))) (by omega) (stops_cons (by decide) _)
    have comma (more : List Char) : skipSpace (',' :: more) = ',' :: more := rfl
    have behind := skipSpace_gap_of_membersAs members blank rest
    rw [List.append_assoc, List.cons_append, List.append_assoc, written, Json.members?]
    simp only [key, colon, value, comma, behind, ih fuel (by omega), Option.bind_eq_bind,
      Option.bind_some, List.map_cons]

/-- An object is its members once every key is known to be a text. -/
theorem objectValue_map_some (start after : List Char) (members : List (String × Json)) :
    objectValue start after (members.map fun m => (some m.1, m.2)) = .obj members := by
  have all : (members.map fun m => (some m.1, m.2)).mapM
      (fun m : Option String × Json => m.1.map (·, m.2)) = some (members.map id) :=
    Lists.mapM_map_eq_some fun m _ => rfl
  rw [List.map_id] at all
  rw [objectValue]
  split
  · rename_i named read
    exact congrArg Json.obj (Option.some.inj (read.symm.trans all))
  · rename_i read
    cases read.symm.trans all

theorem readAs_obj_nil : ReadAs (.obj []) ['\x7b', '\x7d'] :=
  readAs_of_succ (by decide) fun _ _ _ _ => rfl

/-- **An object is read when the values of its members are.** -/
theorem ReadAs.obj {ms : List (String × Json)} {gap text : List Char} (blank : IsGap gap)
    (members : MembersAs ms text) : ReadAs (.obj ms) ('\x7b' :: (gap ++ text)) := by
  refine readAs_of_succ (by decide) fun fuel rest enough _ => ?_
  rw [List.length_append] at enough
  have first := skipSpace_gap_of_membersAs members blank rest
  have all := members.members? fuel rest (by omega)
  obtain ⟨more, rfl⟩ := members.starts
  rw [List.append_assoc, element?, first]
  split
  · rename_i closed
    cases closed
  · rw [all, Option.map_some]
    exact congrArg (fun v => some (v, rest)) (objectValue_map_some _ rest ms)

/-! ## Texts -/

/-- **A text is read as a value when a reader gives that value for it.** -/
theorem ReadAs.parse? {v : Json} {cs : List Char} (h : ReadAs v cs) :
    Json.parse? (String.ofList cs) = some v := by
  have start := skipSpace_gap_of_starts isGap_nil h.starts []
  have read := h.reads (cs.length + 1) [] (Nat.le_succ _) stops_nil
  rw [List.nil_append, List.append_nil] at start
  rw [List.append_nil] at read
  rw [Json.parse?, String.toList_ofList, start]
  simp only [read, Option.bind_eq_bind, Option.bind_some]
  rfl

end WorkerGroup.Json
