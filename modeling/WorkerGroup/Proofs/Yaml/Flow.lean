/-
YAML reads what JSON has written.

Written without blanks, a value of JSON is a collection in brackets or a scalar, and `Json.node`
says which: a string is a scalar in quotes, any other word a plain one, and a key is a scalar
like any string. The reader gives just that node back, whatever follows it
(`flowNode?_compact`).

Two things make a key of what stands in front of a colon: it does not reach over a line, and it
is not too long. The first holds since no string has a line break in its text; the second is
what the length of keys is limited for (`keyColon?_quoted`).

The induction is on the value, with one on the items and one on the members inside of it. Twice
the length of what was written is enough fuel.
-/
import WorkerGroup.Proofs.Yaml.Scalar
import WorkerGroup.Yaml.Flow

set_option autoImplicit false

namespace WorkerGroup

open Json (escapedChar quoted compact compactItems compactMembers Ends numberChars startChars
  forall_mem_chars exists_compact_eq_cons ends_compactItems ends_compactMembers)

/-! ## Values as nodes -/

theorem Json.sizeOf_snd_lt {m : String × Json} {members : List (String × Json)}
    (h : m ∈ members) : sizeOf m.2 < 1 + sizeOf members := by
  have whole := List.sizeOf_lt_of_mem h
  obtain ⟨key, v⟩ := m
  rw [Prod.mk.sizeOf_spec] at whole
  show sizeOf v < 1 + sizeOf members
  omega

/-- A value of JSON as a node of YAML. -/
def Json.node : Json → Yaml.Node
  | .null => .scalar {} .plain "null"
  | .bool b => .scalar {} .plain (if b then "true" else "false")
  | .int n => .scalar {} .plain (String.ofList (Text.Decimal.integer n))
  | .raw text => .scalar {} .plain text
  | .str s => .scalar {} .other s
  | .arr items => .seq {} (items.map node)
  | .obj members => .map {} (members.map fun m => (.scalar {} .other m.1, node m.2))
decreasing_by
  · rename_i h
    have := List.sizeOf_lt_of_mem h
    decreasing_tactic
  · rename_i h
    have := Json.sizeOf_snd_lt h
    rw [obj.sizeOf_spec]
    exact this

namespace Yaml

/-! ## Keys -/

/-- A key that YAML reads where JSON has written it. -/
def ShortKey (key : String) : Prop :=
  Readable key ∧ key.length ≤ 317

instance (key : String) : Decidable (ShortKey key) :=
  inferInstanceAs (Decidable (Readable key ∧ key.length ≤ 317))

/-- A readable character is written in two printable characters at most. -/
theorem escapedChar_of_readable {c : Char} (h : IsReadable c) :
    (escapedChar c).length ≤ 2 ∧ ∀ d ∈ escapedChar c, IsPrintable d := by
  have checked : (escapedChar c).length ≤ 2 ∧
      (escapedChar c).all (fun d => decide (IsPrintable d)) = true := by
    rcases h with rfl | rfl | printable
    · decide
    · decide
    · exact forall_printable
        (p := fun c => (escapedChar c).length ≤ 2 ∧
          (escapedChar c).all (fun d => decide (IsPrintable d)) = true)
        (by decide) c printable
  exact ⟨checked.1, forall_mem_chars checked.2⟩

/-- A printable character takes up a byte and breaks no line. -/
theorem utf8Size_of_printable : ∀ c : Char, IsPrintable c → c.utf8Size = 1 ∧ isBreak c = false :=
  forall_printable (by decide)

theorem length_flatMap_escapedChar_le {cs : List Char} (readable : ∀ c ∈ cs, IsReadable c) :
    (cs.flatMap escapedChar).length ≤ 2 * cs.length := by
  induction cs with
  | nil => exact Nat.le_refl 0
  | cons c cs ih =>
    have first := (escapedChar_of_readable (readable c List.mem_cons_self)).1
    have more := ih fun d hd => readable d (List.mem_cons_of_mem _ hd)
    rw [List.flatMap_cons, List.length_append, List.length_cons]
    omega

/-- A readable string is written in printable characters. -/
theorem printable_quoted {s : String} (h : Readable s) : ∀ d ∈ quoted s, IsPrintable d := by
  intro d hd
  rw [quoted, List.mem_cons, List.mem_append, List.mem_singleton, List.mem_flatMap] at hd
  rcases hd with rfl | ⟨c, hc, hd⟩ | rfl
  · decide
  · exact (escapedChar_of_readable (h c hc)).2 d hd
  · decide

theorem byteLength_eq_length {cs : List Char} (h : ∀ c ∈ cs, c.utf8Size = 1) :
    byteLength cs = cs.length := by
  induction cs with
  | nil => rfl
  | cons c cs ih =>
    have more := ih fun d hd => h d (List.mem_cons_of_mem _ hd)
    rw [byteLength] at more
    rw [byteLength, List.foldr_cons, more, h c List.mem_cons_self, List.length_cons, Nat.add_comm]

/-- **A key that was written in front of a colon is read as a key.** -/
theorem keyColon?_quoted {key : String} (h : ShortKey key) (rest : List Char) :
    keyColon? true (quoted key ++ ':' :: rest) (':' :: rest) = some rest := by
  have plain (d : Char) (hd : d ∈ quoted key) := utf8Size_of_printable d (printable_quoted h.1 d hd)
  have taken : (quoted key ++ ':' :: rest).take
      ((quoted key ++ ':' :: rest).length - (rest.length + 1)) = quoted key := by
    rw [List.length_append, List.length_cons, Nat.add_sub_cancel, List.take_left]
  -- Each character takes two bytes at most, and the quotes take two more.
  have short : byteLength (quoted key) ≤ maxKeyLength := by
    have escaped := length_flatMap_escapedChar_le h.1
    have limit := h.2
    rw [← String.length_toList] at limit
    rw [byteLength_eq_length fun d hd => (plain d hd).1, quoted, List.length_cons,
      List.length_append, List.length_singleton, maxKeyLength]
    omega
  have one_line : (quoted key).any isBreak = false := by
    rw [List.any_eq_false]
    intro d hd
    rw [(plain d hd).2]
    exact Bool.false_ne_true
  have no_gap : (':' :: rest).dropWhile isGap = ':' :: rest :=
    List.dropWhile_cons_of_neg (by decide)
  rw [keyColon?]
  simp only [no_gap, taken, short, one_line]
  rfl

/-! ## Between nodes -/

/-- Texts that start with different characters are different. -/
theorem cons_ne_cons {c d : Char} (h : c ≠ d) {cs : List Char} (ds : List Char) :
    c :: cs ≠ d :: ds :=
  fun same => h (List.cons.inj same).1

/-- The characters that stand where a node starts or behind one. -/
def solidChars : List Char :=
  startChars ++ [',', ']', '\x7d', ':']

/-- There are no gaps to skip. -/
theorem skipFlow?_solid {c : Char} (h : c ∈ solidChars) (cs : List Char) :
    skipFlow? false false (c :: cs) = some (c :: cs) := by
  have solid : ∀ c ∈ solidChars, isBreak c = false ∧ isGap c = false ∧ c ≠ '#' :=
    forall_mem_chars (by decide)
  obtain ⟨no_break, no_gap, no_comment⟩ := solid c h
  simp [skipFlow?, no_break, no_gap, no_comment]

theorem skipFlow?_compact {v : Json} {key text : String → Prop} (h : v.Within key text)
    (rest : List Char) : skipFlow? false false (compact v ++ rest) = some (compact v ++ rest) := by
  obtain ⟨c, start, cs, written⟩ := exists_compact_eq_cons h
  rw [written, List.cons_append, skipFlow?_solid (List.mem_append_left _ start)]

/-- No colon follows what a value can be followed by. -/
theorem keyColon?_ends {rest : List Char} (h : Ends rest) (start : List Char) :
    keyColon? true start rest = none := by
  cases rest with
  | nil => rfl
  | cons c rest => rcases h c rfl with rfl | rfl | rfl <;> rfl

/-- Nothing stands in front of what a node holds. -/
theorem flowNode?_start {c : Char} (h : c ∈ startChars) (margin fuel : Nat) (cs : List Char) :
    flowNode? margin (fuel + 1) (c :: cs) = content? true margin {} fuel (c :: cs) := by
  simp only [startChars, numberChars, List.cons_append, List.nil_append, List.mem_cons,
    List.not_mem_nil, or_false] at h
  rcases h with rfl | rfl | rfl | rfl | rfl | rfl | rfl | rfl | rfl | rfl | rfl | rfl | rfl |
    rfl | rfl | rfl | rfl <;> rfl

/-! ## Scalars -/

/-- A string is a scalar in quotes. -/
theorem content?_quoted {s : String} (h : Readable s) (flow : Bool) (margin fuel : Nat)
    (rest : List Char) :
    content? flow margin {} (fuel + 1) (quoted s ++ rest) = some (.scalar {} .other s, rest) := by
  have read := doubleQuoted?_escaped h rest
  rw [quoted, List.cons_append, List.append_assoc, List.singleton_append, content?, read]
  exact congrArg (fun t => some (Node.scalar {} .other t, rest)) String.ofList_toList

theorem flowNode?_quoted {s : String} (h : Readable s) (margin fuel : Nat) (rest : List Char) :
    flowNode? margin (fuel + 2) (quoted s ++ rest) = some (.scalar {} .other s, rest) := by
  have start : flowNode? margin (fuel + 2) (quoted s ++ rest) =
      content? true margin {} (fuel + 1) (quoted s ++ rest) :=
    flowNode?_start (by decide) margin (fuel + 1) _
  rw [start, content?_quoted h]

/-- A word is a plain scalar. -/
theorem flowNode?_word {c : Char} {word rest : List Char} (start : c ∈ startChars)
    (chars : ∀ d ∈ c :: word, d ∈ wordChars) (plain : atPlain true (c :: (word ++ rest)) = true)
    (ends : Ends rest) (margin fuel : Nat) :
    flowNode? margin (fuel + 2) (c :: word ++ rest) =
      some (.scalar {} .plain (String.ofList (c :: word)), rest) := by
  have read := plain?_word chars ends margin 1
  have bare : ∀ c ∈ wordChars, c ≠ '\x7b' ∧ c ≠ '[' ∧ c ≠ '"' ∧ c ≠ '\'' :=
    forall_mem_chars (by decide)
  obtain ⟨no_brace, no_bracket, no_quote, no_apostrophe⟩ := bare c (chars c List.mem_cons_self)
  rw [List.cons_append] at read ⊢
  rw [flowNode?_start start, content?]
  · rw [plain, if_pos rfl, read]
    rfl
  · exact cons_ne_cons no_brace
  · exact cons_ne_cons no_bracket
  · exact cons_ne_cons no_quote
  · exact cons_ne_cons no_apostrophe

theorem mem_wordChars_of_mem_digits (n : Nat) : ∀ c ∈ Text.Decimal.digits n, c ∈ wordChars := by
  have digit {d : Nat} (h : d < 10) : Text.Decimal.digitChar d ∈ wordChars :=
    List.mem_append_right _ (Json.digitChar_mem_numberChars h)
  induction n using Text.Decimal.digits_induction with
  | digit n h =>
    rw [Text.Decimal.digits_of_lt h]
    exact List.forall_mem_singleton.2 (digit h)
  | more n h ih =>
    rw [Text.Decimal.digits_of_le h, List.forall_mem_append]
    exact ⟨ih, List.forall_mem_singleton.2 (digit (Nat.mod_lt n (by decide)))⟩

/-- A digit starts a plain scalar and is no blank. -/
theorem atPlain_digitChar {d : Nat} (h : d < 10) (cs : List Char) :
    atPlain true (Text.Decimal.digitChar d :: cs) = true ∧
      atBlank (Text.Decimal.digitChar d :: cs) = false := by
  have ordinary := (by decide : ∀ d < 10, Text.Decimal.digitChar d ≠ '-' ∧
    Text.Decimal.digitChar d ≠ '?' ∧ Text.Decimal.digitChar d ≠ ':' ∧
    isIndicator (Text.Decimal.digitChar d) = false ∧ isGap (Text.Decimal.digitChar d) = false ∧
    isBreak (Text.Decimal.digitChar d) = false) d h
  obtain ⟨no_sign, no_question, no_colon, no_indicator, no_gap, no_break⟩ := ordinary
  simp [atPlain, atBlank, no_sign, no_question, no_colon, no_indicator, no_gap, no_break]

/-- An integer is a plain scalar, its sign included. -/
theorem flowNode?_integer (n : Int) {rest : List Char} (ends : Ends rest) (margin fuel : Nat) :
    flowNode? margin (fuel + 2) (Text.Decimal.integer n ++ rest) =
      some (.scalar {} .plain (String.ofList (Text.Decimal.integer n)), rest) := by
  cases n with
  | ofNat n =>
    obtain ⟨d, small, cs, written⟩ := Text.Decimal.exists_digits_eq_cons n
    have chars := mem_wordChars_of_mem_digits n
    rw [Text.Decimal.integer, written]
    rw [written] at chars
    have start := (by decide : ∀ d < 10, Text.Decimal.digitChar d ∈ startChars) d small
    exact flowNode?_word start chars (atPlain_digitChar small _).1 ends margin fuel
  | negSucc n =>
    obtain ⟨d, small, cs, written⟩ := Text.Decimal.exists_digits_eq_cons (n + 1)
    have chars : ∀ c ∈ '-' :: Text.Decimal.digits (n + 1), c ∈ wordChars :=
      List.forall_mem_cons.2 ⟨by decide, mem_wordChars_of_mem_digits (n + 1)⟩
    have plain : atPlain true ('-' :: (Text.Decimal.digits (n + 1) ++ rest)) = true := by
      rw [written, List.cons_append, atPlain, if_pos rfl, (atPlain_digitChar small _).2]
      rfl
    exact flowNode?_word (by decide) chars plain ends margin fuel

/-! ## Collections -/

/-- A value is read as its node by a reader with some fuel, whatever follows it. -/
def ReadsAsNode (v : Json) : Prop :=
  ∀ (margin fuel : Nat) (rest : List Char), 2 * (compact v).length ≤ fuel → Ends rest →
    flowNode? margin fuel (compact v ++ rest) = some (v.node, rest)

section

variable {key text : String → Prop} {margin fuel : Nat} {after : List Char} {v : Json}

/-- An item that is no key is the next of the items. -/
theorem flowItems?_of_node (h : v.Within key text)
    (read : flowNode? margin fuel (compact v ++ after) = some (v.node, after))
    (ends : Ends after) :
    flowItems? margin (fuel + 1) (compact v ++ after) = moreItems? margin fuel v.node after := by
  obtain ⟨c, start, cs, written⟩ := exists_compact_eq_cons h
  have bare : ∀ c ∈ startChars, c ≠ ']' ∧ c ≠ '?' := forall_mem_chars (by decide)
  -- A colon behind the item would make it the key of a mapping with one entry.
  rw [flowItems?]
  · simp only [Option.bind_eq_bind, read, Option.bind_some, keyColon?_ends ends]
  · rw [written]
    exact cons_ne_cons (bare c start).1
  · rw [written]
    exact cons_ne_cons (bare c start).2

/-- The value of a key is a node. -/
theorem flowValue?_of_node (h : v.Within key text)
    (read : flowNode? margin fuel (compact v ++ after) = some (v.node, after)) :
    flowValue? margin (fuel + 1) (compact v ++ after) = some (v.node, after) := by
  obtain ⟨c, start, cs, written⟩ := exists_compact_eq_cons h
  have bare : ∀ c ∈ startChars, ¬(c = ',' ∨ c = ']' ∨ c = '\x7d') := forall_mem_chars (by decide)
  rw [flowValue?, skipFlow?_compact h]
  rw [written, List.cons_append] at read ⊢
  simp only [Option.bind_eq_bind, Option.bind_some, if_neg (bare c start), read]

/-- A string and the value behind its colon are the next of the entries. -/
theorem flowEntries?_of_value {name : String} (short : ShortKey name)
    (read : flowValue? margin (fuel + 2) (compact v ++ after) = some (v.node, after)) :
    flowEntries? margin (fuel + 3) (quoted name ++ ':' :: (compact v ++ after)) =
      moreEntries? margin (fuel + 2) (.scalar {} .other name, v.node) after := by
  have starts : quoted name ++ ':' :: (compact v ++ after) =
      '"' :: (name.toList.flatMap escapedChar ++ '"' :: ':' :: (compact v ++ after)) := by
    simp [quoted]
  have key_node := flowNode?_quoted short.1 margin fuel (':' :: (compact v ++ after))
  have colon := keyColon?_quoted short (compact v ++ after)
  rw [starts] at key_node colon ⊢
  rw [flowEntries?]
  · simp only [Option.bind_eq_bind, key_node, Option.bind_some, colon, read]
  · exact cons_ne_cons (by decide)
  · exact cons_ne_cons (by decide)

end

/-- Items that are nodes one by one are read one after another. -/
theorem flowItems?_compact {key text : String → Prop} {item : Json} {items : List Json}
    (within : ∀ v ∈ item :: items, v.Within key text)
    (read : ∀ v ∈ item :: items, ReadsAsNode v) (margin fuel : Nat) (rest : List Char)
    (enough : 2 * (compact item ++ compactItems items).length ≤ fuel) :
    flowItems? margin fuel (compact item ++ compactItems items ++ rest) =
      some ((item :: items).map Json.node, rest) := by
  induction items generalizing item fuel with
  | nil =>
    rw [compactItems, List.length_append, List.length_singleton] at enough
    obtain ⟨fuel, rfl⟩ : ∃ f, fuel = f + 2 := ⟨fuel - 2, by omega⟩
    have first := read item List.mem_cons_self margin (fuel + 1) (compactItems [] ++ rest)
      (by omega) (ends_compactItems [] rest)
    rw [List.append_assoc, flowItems?_of_node (within item List.mem_cons_self) first
      (ends_compactItems [] rest)]
    rfl
  | cons next items ih =>
    rw [compactItems, List.length_append, List.length_cons] at enough
    obtain ⟨fuel, rfl⟩ : ∃ f, fuel = f + 2 := ⟨fuel - 2, by omega⟩
    have first := read item List.mem_cons_self margin (fuel + 1)
      (compactItems (next :: items) ++ rest) (by omega) (ends_compactItems (next :: items) rest)
    have more := ih (fun v hv => within v (List.mem_cons_of_mem _ hv))
      (fun v hv => read v (List.mem_cons_of_mem _ hv)) fuel
      (show 2 * (compact next ++ compactItems items).length ≤ fuel by omega)
    have comma : compactItems (next :: items) ++ rest =
        ',' :: (compact next ++ compactItems items ++ rest) := by
      rw [compactItems]
      rfl
    have solid : skipFlow? false false (compact next ++ compactItems items ++ rest) =
        some (compact next ++ compactItems items ++ rest) := by
      rw [List.append_assoc]
      exact skipFlow?_compact (within next (List.mem_cons_of_mem _ List.mem_cons_self)) _
    rw [List.append_assoc, flowItems?_of_node (within item List.mem_cons_self) first
      (ends_compactItems (next :: items) rest), comma, moreItems?, skipFlow?_solid (by decide)]
    simp only [Option.bind_eq_bind, Option.bind_some, solid, more]
    rfl

/-- Members whose values are nodes one by one are read one after another. -/
theorem flowEntries?_compact {text : String → Prop} {m : String × Json}
    {members : List (String × Json)} (keys : ∀ n ∈ m :: members, ShortKey n.1)
    (within : ∀ n ∈ m :: members, n.2.Within ShortKey text)
    (read : ∀ n ∈ m :: members, ReadsAsNode n.2) (margin fuel : Nat) (rest : List Char)
    (enough : 2 * (quoted m.1 ++ ':' :: (compact m.2 ++ compactMembers members)).length ≤ fuel) :
    flowEntries? margin fuel
        (quoted m.1 ++ ':' :: (compact m.2 ++ compactMembers members) ++ rest) =
      some ((m :: members).map (fun n => (.scalar {} .other n.1, n.2.node)), rest) := by
  induction members generalizing m fuel with
  | nil =>
    rw [compactMembers, List.length_append, List.length_cons, List.length_append,
      List.length_singleton] at enough
    have value_pos := Json.length_compact_pos (within m List.mem_cons_self)
    obtain ⟨fuel, rfl⟩ : ∃ f, fuel = f + 3 := ⟨fuel - 3, by omega⟩
    have value := flowValue?_of_node (within m List.mem_cons_self)
      (read m List.mem_cons_self margin (fuel + 1) (compactMembers [] ++ rest) (by omega)
        (ends_compactMembers [] rest))
    have entry := flowEntries?_of_value (keys m List.mem_cons_self) value
    simp only [List.append_assoc, List.cons_append]
    rw [entry]
    rfl
  | cons next members ih =>
    rw [compactMembers, List.length_append, List.length_cons, List.length_append,
      List.length_cons] at enough
    have value_pos := Json.length_compact_pos (within m List.mem_cons_self)
    -- The entry takes one unit and its key is read with two more, which the quotes alone pay for.
    obtain ⟨fuel, rfl⟩ : ∃ f, fuel = f + 3 := ⟨fuel - 3, by omega⟩
    have value := flowValue?_of_node (within m List.mem_cons_self)
      (read m List.mem_cons_self margin (fuel + 1) (compactMembers (next :: members) ++ rest)
        (by omega) (ends_compactMembers (next :: members) rest))
    have entry := flowEntries?_of_value (keys m List.mem_cons_self) value
    have more := ih (fun n hn => keys n (List.mem_cons_of_mem _ hn))
      (fun n hn => within n (List.mem_cons_of_mem _ hn))
      (fun n hn => read n (List.mem_cons_of_mem _ hn)) (fuel + 1)
      (show 2 * (quoted next.1 ++ ':' :: (compact next.2 ++ compactMembers members)).length ≤
        fuel + 1 by omega)
    have comma : compactMembers (next :: members) ++ rest =
        ',' :: (quoted next.1 ++ ':' :: (compact next.2 ++ compactMembers members) ++ rest) := by
      rw [compactMembers]
      rfl
    have solid : skipFlow? false false
        (quoted next.1 ++ ':' :: (compact next.2 ++ compactMembers members) ++ rest) =
          some (quoted next.1 ++ ':' :: (compact next.2 ++ compactMembers members) ++ rest) :=
      skipFlow?_solid (by decide) _
    rw [comma] at entry
    simp only [List.append_assoc, List.cons_append] at entry more comma solid ⊢
    rw [comma, entry, moreEntries?, skipFlow?_solid (by decide)]
    simp only [Option.bind_eq_bind, Option.bind_some, solid, more]
    rfl

/-- What stands behind a bracket and does not close it is an item. -/
theorem content?_of_item {key text : String → Prop} {v : Json} (h : v.Within key text)
    (flow : Bool) (margin fuel : Nat) (rest : List Char) :
    content? flow margin {} (fuel + 1) ('[' :: (compact v ++ rest)) =
      (flowItems? margin fuel (compact v ++ rest)).map fun (items, after) =>
        (.seq {} items, after) := by
  rw [content?, skipFlow?_compact h]
  rfl

/-- A value in braces is read as its node, inside or outside of other brackets. -/
theorem content?_obj {text : String → Prop} {members : List (String × Json)}
    (keys : ∀ m ∈ members, ShortKey m.1) (within : ∀ m ∈ members, m.2.Within ShortKey text)
    (read : ∀ m ∈ members, ReadsAsNode m.2) (flow : Bool) (margin fuel : Nat) (rest : List Char)
    (enough : 2 * (compact (.obj members)).length ≤ fuel + 2) :
    content? flow margin {} (fuel + 1) (compact (.obj members) ++ rest) =
      some ((Json.obj members).node, rest) := by
  rcases members with _ | ⟨m, members⟩
  · rw [compact, List.length_cons, List.length_singleton] at enough
    obtain ⟨fuel, rfl⟩ : ∃ f, fuel = f + 1 := ⟨fuel - 1, by omega⟩
    rw [compact, Json.node]
    rfl
  · rw [compact, List.length_cons] at enough
    have all := flowEntries?_compact keys within read margin fuel rest (by omega)
    have solid : skipFlow? false false
        (quoted m.1 ++ ':' :: (compact m.2 ++ compactMembers members) ++ rest) =
          some (quoted m.1 ++ ':' :: (compact m.2 ++ compactMembers members) ++ rest) :=
      skipFlow?_solid (by decide) _
    rw [compact, List.cons_append, content?, solid, Option.bind_some, all, Json.node]
    rfl

/-- Fuel is passed on twice before anything is taken. -/
theorem readsAsNode_of_succ {v : Json} (pos : 0 < (compact v).length)
    (h : ∀ (margin fuel : Nat) (rest : List Char), 2 * (compact v).length ≤ fuel + 2 →
      Ends rest → flowNode? margin (fuel + 2) (compact v ++ rest) = some (v.node, rest)) :
    ReadsAsNode v := by
  intro margin fuel rest enough ends
  obtain ⟨fuel, rfl⟩ : ∃ f, fuel = f + 2 := ⟨fuel - 2, by omega⟩
  exact h margin fuel rest enough ends

/-- **A value is read as its node**, whatever follows it. -/
theorem flowNode?_compact {v : Json} (h : v.Within ShortKey Readable) : ReadsAsNode v := by
  have pos := Json.length_compact_pos h
  induction h with
  | null =>
    refine readsAsNode_of_succ pos fun margin fuel rest _ ends => ?_
    rw [compact, Json.node]
    exact flowNode?_word (by decide) (forall_mem_chars (by decide)) rfl ends margin fuel
  | bool b =>
    refine readsAsNode_of_succ pos fun margin fuel rest _ ends => ?_
    cases b with
    | true =>
      rw [compact, Json.node]
      exact flowNode?_word (by decide) (forall_mem_chars (by decide)) rfl ends margin fuel
    | false =>
      rw [compact, Json.node]
      exact flowNode?_word (by decide) (forall_mem_chars (by decide)) rfl ends margin fuel
  | int n =>
    refine readsAsNode_of_succ pos fun margin fuel rest _ ends => ?_
    rw [compact, Json.node, flowNode?_integer n ends]
  | str readable =>
    refine readsAsNode_of_succ pos fun margin fuel rest _ _ => ?_
    rw [compact, Json.node, flowNode?_quoted readable]
  | @arr items within ih =>
    refine readsAsNode_of_succ pos fun margin fuel rest enough _ => ?_
    have read : ∀ v ∈ items, ReadsAsNode v := fun v hv =>
      ih v hv (Json.length_compact_pos (within v hv))
    cases items with
    | nil =>
      rw [compact, List.length_cons, List.length_singleton] at enough
      obtain ⟨fuel, rfl⟩ : ∃ f, fuel = f + 1 := ⟨fuel - 1, by omega⟩
      rw [compact, Json.node]
      rfl
    | cons item items =>
      rw [compact, List.length_cons] at enough
      have all := flowItems?_compact within read margin fuel rest (by omega)
      rw [List.append_assoc] at all
      rw [compact, List.cons_append, List.append_assoc, flowNode?_start (by decide),
        content?_of_item (within item List.mem_cons_self), all, Json.node]
      rfl
  | @obj members keys within ih =>
    refine readsAsNode_of_succ pos fun margin fuel rest enough _ => ?_
    have read : ∀ m ∈ members, ReadsAsNode m.2 := fun m hm =>
      ih m hm (Json.length_compact_pos (within m hm))
    have content := content?_obj keys within read true margin fuel rest enough
    obtain ⟨cs, braced⟩ : ∃ cs, compact (.obj members) = '\x7b' :: cs := by
      rcases members with _ | ⟨m, members⟩ <;> exact ⟨_, by rw [compact]⟩
    rw [braced, List.cons_append] at content ⊢
    rw [flowNode?_start (by decide), content]

end Yaml
end WorkerGroup
