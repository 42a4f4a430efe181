/-
How the name of an instance type is read.

A name is cut at its first dot, and the class in front of it is shortened to its family and
generation. Both are said here without the reader: a class and a size are what is around the
first dot (`Named`), and the base is the longest beginning of the class that is letters and then
digits, unless that ends in no digit (`HasBase`). Each of the two is settled by the name alone,
so the reader has an answer exactly where there is a class and a size, and the one that is
described (`ofInstanceType?_eq_some_iff`).

Shortening a class leaves nothing to shorten, and no dot comes in. So the type that is a base
and a size alone is read as just these (`ofInstanceType?_plainType`).

What is cut is text, and text is cut at offsets, which come from searches and from adding what
two of them found. The reader that goes by offsets asks for no part that there is not, whatever
the name is, and has the same answer (`readAtOffsets_eq`).
-/
import WorkerGroup.Pool.SubFamily
import WorkerGroup.Proofs.Text.Offsets
import WorkerGroup.Proofs.Text.Pieces

set_option autoImplicit false

namespace WorkerGroup.SubFamily

open WorkerGroup.Text

variable {start cls base base' : List Char}

/-! ## Letters and digits -/

/-- No digit is a letter. -/
theorem isLetter_of_isDigit {c : Char} (h : Decimal.isDigit c = true) : isLetter c = false := by
  simp only [Decimal.isDigit, Bool.and_eq_true, decide_eq_true_eq, Char.le_def,
    UInt32.le_iff_toNat_le] at h
  simp only [isLetter, Bool.or_eq_false_iff, Bool.and_eq_false_iff, decide_eq_false_iff_not,
    Char.le_def, UInt32.le_iff_toNat_le]
  have zero_to_nine : '0'.val.toNat = 48 ∧ '9'.val.toNat = 57 := ⟨rfl, rfl⟩
  have lower : 'a'.val.toNat = 97 := rfl
  have upper : 'A'.val.toNat = 65 := rfl
  omega

/-- Letters and then digits, either of which may be missing. -/
def LettersThenDigits (cs : List Char) : Prop :=
  ∃ letters digits, cs = letters ++ digits ∧ (∀ c ∈ letters, isLetter c = true) ∧
    ∀ c ∈ digits, Decimal.isDigit c = true

/-- The longest beginning of a class that is letters and then digits. -/
structure IsLongestStart (start cls : List Char) : Prop where
  begins : start <+: cls
  shape : LettersThenDigits start
  longest : ∀ other, other <+: cls → LettersThenDigits other → other.length ≤ start.length

/-- There is one longest beginning: of two, each is a beginning of the other. -/
theorem IsLongestStart.eq {start' : List Char} (h : IsLongestStart start cls)
    (h' : IsLongestStart start' cls) : start = start' := by
  have shorter := h'.longest start h.begins h.shape
  have longer := h.longest start' h'.begins h'.shape
  exact (List.prefix_of_prefix_length_le h.begins h'.begins shorter).eq_of_length_le longer

/-- Of itself the longest beginning is all. -/
theorem IsLongestStart.self (h : IsLongestStart start cls) : IsLongestStart start start := by
  refine ⟨List.prefix_rfl, h.shape, ?_⟩
  intro other begins _
  exact begins.length_le

/-- The letters of a class and the digits right behind them. -/
def longestStart (cls : List Char) : List Char :=
  cls.takeWhile isLetter ++ (cls.dropWhile isLetter).takeWhile Decimal.isDigit

theorem longestStart_begins (cls : List Char) : longestStart cls <+: cls := by
  refine ⟨(cls.dropWhile isLetter).dropWhile Decimal.isDigit, ?_⟩
  rw [longestStart, List.append_assoc, List.takeWhile_append_dropWhile,
    List.takeWhile_append_dropWhile]

/-- Every beginning of letters and then digits is within the letters and the digits right behind
them: where it has a digit, its letters are all there are. -/
theorem longestStart_covers {other : List Char} (begins : other <+: cls)
    (shape : LettersThenDigits other) : other <+: longestStart cls := by
  obtain ⟨rest, rfl⟩ := begins
  obtain ⟨letters, digits, rfl, all_letters, all_digits⟩ := shape
  rw [longestStart, List.append_assoc]
  cases digits with
  | nil =>
    rw [List.takeWhile_append_of_pos all_letters, List.append_nil, List.append_assoc]
    exact List.prefix_append letters _
  | cons d digits =>
    have stop : ∀ c ∈ (d :: digits ++ rest).head?, isLetter c = false := by
      rintro c ⟨⟩
      exact isLetter_of_isDigit (all_digits d List.mem_cons_self)
    rw [Lists.takeWhile_append_of_stop all_letters stop,
      Lists.dropWhile_append_of_stop all_letters stop, List.takeWhile_append_of_pos all_digits,
      ← List.append_assoc]
    exact List.prefix_append (letters ++ d :: digits) _

theorem isLongestStart_longestStart (cls : List Char) :
    IsLongestStart (longestStart cls) cls := by
  have letters : ∀ c ∈ cls.takeWhile isLetter, isLetter c = true :=
    List.all_eq_true.1 List.all_takeWhile
  have digits : ∀ c ∈ (cls.dropWhile isLetter).takeWhile Decimal.isDigit,
      Decimal.isDigit c = true :=
    List.all_eq_true.1 List.all_takeWhile
  refine ⟨longestStart_begins cls, ⟨_, _, rfl, letters, digits⟩, ?_⟩
  intro other begins shape
  exact (longestStart_covers begins shape).length_le

/-! ## The base of a class -/

/-- The last character is a digit. -/
def EndsInDigit (cs : List Char) : Prop :=
  ∃ c ∈ cs.getLast?, Decimal.isDigit c = true

/-- The family and the generation of a class: its longest beginning of letters and then digits
if that ends in a digit, and all of it if not. -/
inductive HasBase (cls : List Char) : List Char → Prop where
  | generation {start : List Char} (longest : IsLongestStart start cls)
      (digit : EndsInDigit start) : HasBase cls start
  | whole {start : List Char} (longest : IsLongestStart start cls)
      (no_digit : ¬ EndsInDigit start) : HasBase cls cls

/-- A class has one base, since it ends in a digit or not with the one longest beginning. -/
theorem HasBase.eq (h : HasBase cls base) (h' : HasBase cls base') : base = base' := by
  cases h with
  | generation longest digit =>
    cases h' with
    | generation longest' digit' => exact longest.eq longest'
    | whole longest' no_digit => exact absurd (longest.eq longest' ▸ digit) no_digit
  | whole longest no_digit =>
    cases h' with
    | generation longest' digit => exact absurd (longest'.eq longest ▸ digit) no_digit
    | whole longest' no_digit' => rfl

/-- **Shortening leaves nothing to shorten.** -/
theorem HasBase.self (h : HasBase cls base) : HasBase base base := by
  cases h with
  | generation longest digit => exact .generation longest.self digit
  | whole longest no_digit => exact .whole longest no_digit

/-- A base is taken from the front of its class, so nothing comes in that the class has not. -/
theorem HasBase.begins (h : HasBase cls base) : base <+: cls := by
  cases h with
  | generation longest digit => exact longest.begins
  | whole longest no_digit => exact List.prefix_rfl

theorem HasBase.ne_nil (h : HasBase cls base) (some_class : cls ≠ []) : base ≠ [] := by
  cases h with
  | generation longest digit =>
    rintro rfl
    obtain ⟨c, last, -⟩ := digit
    cases last
  | whole longest no_digit => exact some_class

/-- The letters and the digits right behind them end in a digit exactly if there are digits. -/
theorem endsInDigit_longestStart :
    EndsInDigit (longestStart cls) ↔ (cls.dropWhile isLetter).takeWhile Decimal.isDigit ≠ [] := by
  constructor
  · rintro ⟨c, last, digit⟩ none
    rw [longestStart, none, List.append_nil] at last
    have letter := List.all_eq_true.1 List.all_takeWhile c (List.mem_of_getLast? last)
    rw [isLetter_of_isDigit digit] at letter
    cases letter
  · intro some_digit
    have last := List.getLast?_eq_some_getLast some_digit
    refine ⟨_, ?_, List.all_eq_true.1 List.all_takeWhile _ (List.getLast_mem some_digit)⟩
    rw [longestStart, List.getLast?_append_of_ne_nil _ some_digit]
    exact last

theorem baseOf_eq (cls : List Char) :
    baseOf cls =
      if (cls.dropWhile isLetter).takeWhile Decimal.isDigit = [] then cls else longestStart cls :=
  rfl

/-- **The base that is computed is the base.** -/
theorem hasBase_baseOf (cls : List Char) : HasBase cls (baseOf cls) := by
  have longest := isLongestStart_longestStart cls
  rw [baseOf_eq]
  split
  · rename_i none
    exact .whole longest (mt endsInDigit_longestStart.1 (not_not_intro none))
  · rename_i some_digit
    exact .generation longest (endsInDigit_longestStart.2 some_digit)

theorem baseOf_eq_iff : baseOf cls = base ↔ HasBase cls base := by
  constructor
  · rintro rfl
    exact hasBase_baseOf cls
  · intro based
    exact (hasBase_baseOf cls).eq based

/-! ## Around the first dot -/

/-- A name has a class and a size: what is in front of its first dot and what is behind it, both
of them something. -/
structure Named (instanceType cls size : String) : Prop where
  cut : instanceType = cls ++ "." ++ size
  first : '.' ∉ cls.toList
  some_class : cls ≠ ""
  some_size : size ≠ ""

theorem ofInstanceType?_of_notMem {instanceType : String} (h : '.' ∉ instanceType.toList) :
    ofInstanceType? instanceType = none := by
  unfold ofInstanceType?
  rw [Lists.dropWhile_ne_of_notMem h]

/-- What has no dot in front of a dot is the class, and what is behind the dot is the size. -/
theorem ofInstanceType?_cut {cls : String} (first : '.' ∉ cls.toList) (size : String) :
    ofInstanceType? (cls ++ "." ++ size) =
      if cls ≠ "" ∧ size ≠ "" then some ⟨String.ofList (baseOf cls.toList), size⟩ else none := by
  have cut : (cls ++ "." ++ size).toList = cls.toList ++ '.' :: size.toList :=
    toList_append_append rfl cls size
  unfold ofInstanceType?
  rw [cut, Lists.takeWhile_ne_append_cons first, Lists.dropWhile_ne_append_cons first]
  simp only [toList_ne_nil_iff, String.ofList_toList]

/-- **A name is read where it has a class and a size**, as the base of the class and the size. -/
theorem ofInstanceType?_eq_some_iff {instanceType : String} {f : SubFamily} :
    ofInstanceType? instanceType = some f ↔
      ∃ cls, Named instanceType cls f.size ∧ HasBase cls.toList f.base.toList := by
  constructor
  · intro read
    by_cases dot : '.' ∈ instanceType.toList
    · have written : ".".toList = ['.'] := rfl
      obtain ⟨cls, size, rfl, first⟩ := exists_cut written dot
      rw [ofInstanceType?_cut first] at read
      split at read
      · rename_i parts
        obtain rfl := Option.some.inj read
        refine ⟨cls, ⟨rfl, first, parts.1, parts.2⟩, ?_⟩
        rw [String.toList_ofList]
        exact hasBase_baseOf cls.toList
      · cases read
    · rw [ofInstanceType?_of_notMem dot] at read
      cases read
  · rintro ⟨cls, ⟨rfl, first, some_class, some_size⟩, based⟩
    rw [ofInstanceType?_cut first, if_pos ⟨some_class, some_size⟩, baseOf_eq_iff.2 based,
      String.ofList_toList]

/-- Where there is a class there is a base, so a class and a size are enough to be read. -/
theorem isSome_ofInstanceType?_iff {instanceType : String} :
    (ofInstanceType? instanceType).isSome ↔ ∃ cls size, Named instanceType cls size := by
  rw [Option.isSome_iff_exists]
  constructor
  · rintro ⟨f, read⟩
    obtain ⟨cls, named, -⟩ := ofInstanceType?_eq_some_iff.1 read
    exact ⟨cls, f.size, named⟩
  · rintro ⟨cls, size, named⟩
    refine ⟨⟨String.ofList (baseOf cls.toList), size⟩, ?_⟩
    rw [ofInstanceType?_eq_some_iff, String.toList_ofList]
    exact ⟨cls, named, hasBase_baseOf cls.toList⟩

/-! ## The plain type of a sub-family -/

/-- The instance type of a sub-family that has no attributes. -/
def plainType (f : SubFamily) : String :=
  f.base ++ "." ++ f.size

/-- **The plain type of a sub-family is of that sub-family.** -/
theorem ofInstanceType?_plainType {instanceType : String} {f : SubFamily}
    (read : ofInstanceType? instanceType = some f) : ofInstanceType? f.plainType = some f := by
  obtain ⟨cls, named, based⟩ := ofInstanceType?_eq_some_iff.1 read
  have first : '.' ∉ f.base.toList := by
    intro dot
    exact named.first (based.begins.mem dot)
  have some_base : f.base ≠ "" := by
    rw [← toList_ne_nil_iff]
    exact based.ne_nil (toList_ne_nil_iff.2 named.some_class)
  rw [ofInstanceType?_eq_some_iff]
  exact ⟨f.base, ⟨rfl, first, some_base, named.some_size⟩, based.self⟩

/-! ## Cutting at offsets -/

/-- The base of a class, cut off at an offset: that of the first character behind the letters
and, from there, that of the first that is no digit. -/
def baseAtOffsets (cls : String) : Except BadSlice String := do
  let letters := (offset? (!isLetter ·) cls).getD cls.utf8ByteSize
  let behind ← slice cls letters cls.utf8ByteSize
  let digits := (offset? (!Decimal.isDigit ·) behind).elim cls.utf8ByteSize (letters + ·)
  if digits = letters then .ok cls else slice cls 0 digits

/-- The sub-family of an instance type, with the name and its class cut at offsets. -/
def readAtOffsets (instanceType : String) : Except BadSlice (Option SubFamily) :=
  match offset? (· == '.') instanceType with
  | none => .ok none
  | some dot => do
    let cls ← slice instanceType 0 dot
    let size ← slice instanceType (dot + 1) instanceType.utf8ByteSize
    if cls = "" ∨ size = "" then .ok none
    else
      let base ← baseAtOffsets cls
      .ok (some ⟨base, size⟩)

/-- What was found behind a front is as far from the start as the front and the find together. -/
theorem elim_offset? (p : Char → Bool) (front behind : String) :
    (offset? p behind).elim (front ++ behind).utf8ByteSize (front.utf8ByteSize + ·) =
      front.utf8ByteSize + (offset? p behind).getD behind.utf8ByteSize := by
  cases offset? p behind with
  | none => exact String.utf8ByteSize_append
  | some n => rfl

/-- Behind letters that end where the search says, the class is cut off behind the digits, or
not at all when there are none. -/
theorem baseAtOffsets_append {letters behind : String}
    (letters_end : (offset? (!isLetter ·) (letters ++ behind)).getD
      (letters ++ behind).utf8ByteSize = letters.utf8ByteSize) :
    baseAtOffsets (letters ++ behind) =
      .ok (if behind.toList.takeWhile Decimal.isDigit = [] then letters ++ behind
        else letters ++ String.ofList (behind.toList.takeWhile Decimal.isDigit)) := by
  have cut : baseAtOffsets (letters ++ behind) =
      let digits := letters.utf8ByteSize +
        (String.ofList (behind.toList.takeWhile Decimal.isDigit)).utf8ByteSize
      if digits = letters.utf8ByteSize then .ok (letters ++ behind)
      else slice (letters ++ behind) 0 digits := by
    simp only [baseAtOffsets, letters_end, slice_back, bind, Except.bind, elim_offset?,
      getD_offset?_not]
  rw [cut]
  by_cases none : behind.toList.takeWhile Decimal.isDigit = []
  · rw [if_pos none, none]
    exact if_pos rfl
  · have some_octet :
        (String.ofList (behind.toList.takeWhile Decimal.isDigit)).utf8ByteSize ≠ 0 := by
      rw [Ne, String.utf8ByteSize_eq_zero_iff, String.ofList_eq_empty_iff]
      exact none
    have whole := ofList_takeWhile_append_dropWhile Decimal.isDigit behind
    have front := slice_front
      (letters ++ String.ofList (behind.toList.takeWhile Decimal.isDigit))
      (String.ofList (behind.toList.dropWhile Decimal.isDigit))
    rw [String.append_assoc, whole, String.utf8ByteSize_append] at front
    rw [if_neg none, ← front]
    exact if_neg (by omega)

/-- **The base is cut off where it ends.** -/
theorem baseAtOffsets_eq (cls : String) :
    baseAtOffsets cls = .ok (String.ofList (baseOf cls.toList)) := by
  let letters := String.ofList (cls.toList.takeWhile isLetter)
  let behind := String.ofList (cls.toList.dropWhile isLetter)
  have parts : letters ++ behind = cls := ofList_takeWhile_append_dropWhile isLetter cls
  have letters_end : (offset? (!isLetter ·) (letters ++ behind)).getD
      (letters ++ behind).utf8ByteSize = letters.utf8ByteSize := by
    rw [parts]
    exact getD_offset?_not isLetter cls
  have cut := baseAtOffsets_append letters_end
  rw [parts, String.toList_ofList, ← String.ofList_append] at cut
  rw [cut, baseOf_eq, apply_ite String.ofList, String.ofList_toList, longestStart]

/-- **Every part that is asked for is there**, whatever the name is, and the answer is the
same. -/
theorem readAtOffsets_eq (instanceType : String) :
    readAtOffsets instanceType = .ok (ofInstanceType? instanceType) := by
  unfold readAtOffsets
  split
  · rename_i none
    have no_dot : '.' ∉ instanceType.toList := by
      intro listed
      cases offset?_eq_none_iff.1 none '.' listed
    rw [ofInstanceType?_of_notMem no_dot]
  · rename_i dot found
    obtain ⟨cls, c, size, rfl, kind, others, rfl⟩ := offset?_eq_some_iff.1 found
    obtain rfl := eq_of_beq kind
    have first : '.' ∉ cls.toList := by
      intro listed
      cases others '.' listed
    have at_class : slice (cls ++ "." ++ size) 0 cls.utf8ByteSize = .ok cls := by
      rw [String.append_assoc]
      exact slice_front cls ("." ++ size)
    have at_size : slice (cls ++ "." ++ size) (cls.utf8ByteSize + 1)
        (cls ++ "." ++ size).utf8ByteSize = .ok size := by
      have given := slice_back (cls ++ ".") size
      rwa [String.utf8ByteSize_append] at given
    have dotted : String.singleton '.' = "." := rfl
    -- Both parts are there and so is the base, so that only the test for empty parts is left.
    simp only [dotted, at_class, at_size, bind, Except.bind, baseAtOffsets_eq]
    rw [ofInstanceType?_cut first]
    by_cases empty : cls = "" ∨ size = ""
    · rw [if_pos empty, if_neg fun parts => empty.elim parts.1 parts.2]
    · rw [if_neg empty, if_pos (not_or.1 empty)]

/-! ## What an instance type is read as -/

/-- **A name is read at its first dot, and its plain form is read alike.** No part is asked for
that there is not, whatever the name is. It is read exactly if it has a class and a size: as the
size and the base of the class, which is its longest beginning of letters and then digits if that
ends in a digit, and all of it if not. And the base with that size is read as these two again. -/
theorem instance_type_read_at_first_dot (instanceType : String) :
    readAtOffsets instanceType = .ok (ofInstanceType? instanceType) ∧
      ((ofInstanceType? instanceType).isSome ↔ ∃ cls size, Named instanceType cls size) ∧
      (∀ f, ofInstanceType? instanceType = some f ↔
        ∃ cls, Named instanceType cls f.size ∧ HasBase cls.toList f.base.toList) ∧
      ∀ f, ofInstanceType? instanceType = some f → ofInstanceType? f.plainType = some f := by
  refine ⟨readAtOffsets_eq instanceType, isSome_ofInstanceType?_iff, ?_, ?_⟩
  · intro f
    exact ofInstanceType?_eq_some_iff
  · intro f read
    exact ofInstanceType?_plainType read

/-- A name with two dots, and with characters of two octets in front of the first and behind it:
the class is cut off behind its digit, and the second dot stays in the size. -/
theorem instance_type_read_at_first_of_two_dots :
    let f : SubFamily := ⟨"c5", "2xl.métal"⟩
    ofInstanceType? "c5ñd.2xl.métal" = some f ∧
      readAtOffsets "c5ñd.2xl.métal" = .ok (some f) ∧ ofInstanceType? "c5.2xl.métal" = some f ∧
      ∃ cls, Named "c5ñd.2xl.métal" cls f.size ∧ HasBase cls.toList f.base.toList := by
  intro f
  have read : ofInstanceType? "c5ñd.2xl.métal" = some f := by decide
  obtain ⟨at_offsets, -, described, plain⟩ := instance_type_read_at_first_dot "c5ñd.2xl.métal"
  exact ⟨read, read ▸ at_offsets, plain f read, (described f).1 read⟩

end WorkerGroup.SubFamily
