/-
JSON is read as it was written.

A value that a record is written as holds nothing that was kept as raw text; `Within` says
so, and with it which texts stand in the value and which keys. Such a value is read again as the
very same value from both of its texts, the one without blanks (`parse?_compactText`) and the
one over several lines (`parse?_indentedText`).

The two writers differ in nothing but the blanks between the parts. So what they write of a list
or an object is compared once with what a reader takes, for blanks of any kind
(`itemsAs_of_written`, `membersAs_of_written`), and each writer is then one induction on the
value.
-/
import WorkerGroup.Proofs.Json.Reading

set_option autoImplicit false

namespace WorkerGroup.Json

/-! ## What stands in a value -/

/-- A value of which nothing was kept as raw text, whose keys and whose texts are of some
kinds. -/
inductive Within (key text : String → Prop) : Json → Prop
  | null : Within key text .null
  | bool (b : Bool) : Within key text (.bool b)
  | int (n : Int) : Within key text (.int n)
  | str {s : String} (h : text s) : Within key text (.str s)
  | arr {items : List Json} (h : ∀ v ∈ items, Within key text v) : Within key text (.arr items)
  | obj {members : List (String × Json)} (keys : ∀ m ∈ members, key m.1)
    (h : ∀ m ∈ members, Within key text m.2) : Within key text (.obj members)

/-- Members whose keys and values are such. -/
def MembersWithin (key text : String → Prop) (members : List (String × Json)) : Prop :=
  ∀ m ∈ members, key m.1 ∧ m.2.Within key text

/-- A value of which nothing was kept as raw text. -/
abbrev Typed (v : Json) : Prop :=
  v.Within (fun _ => True) (fun _ => True)

section

variable {β : Type} {key text : String → Prop} {encode : β → Json}

@[simp] theorem within_null : Within key text .null :=
  .null

@[simp] theorem within_bool (b : Bool) : Within key text (.bool b) :=
  .bool b

@[simp] theorem within_int (n : Int) : Within key text (.int n) :=
  .int n

@[simp] theorem within_str (s : String) : Within key text (.str s) ↔ text s :=
  ⟨fun | .str h => h, .str⟩

@[simp] theorem within_obj (members : List (String × Json)) :
    Within key text (.obj members) ↔ MembersWithin key text members :=
  ⟨fun | .obj keys h => fun m hm => ⟨keys m hm, h m hm⟩,
    fun h => .obj (fun m hm => (h m hm).1) (fun m hm => (h m hm).2)⟩

@[simp] theorem within_ofList (l : List β) :
    Within key text (ofList encode l) ↔ ∀ b ∈ l, (encode b).Within key text := by
  have items : Within key text (ofList encode l) ↔
      ∀ v ∈ l.map encode, v.Within key text := ⟨fun | .arr h => h, .arr⟩
  rw [items, List.forall_mem_map]

@[simp] theorem within_ofOption (o : Option β) :
    Within key text (ofOption encode o) ↔ ∀ b ∈ o, (encode b).Within key text := by
  cases o <;> simp [ofOption]

@[simp] theorem membersWithin_nil : MembersWithin key text [] :=
  nofun

@[simp] theorem membersWithin_cons (m : String × Json) (members : List (String × Json)) :
    MembersWithin key text (m :: members) ↔
      (key m.1 ∧ m.2.Within key text) ∧ MembersWithin key text members :=
  List.forall_mem_cons

@[simp] theorem membersWithin_append (members others : List (String × Json)) :
    MembersWithin key text (members ++ others) ↔
      MembersWithin key text members ∧ MembersWithin key text others :=
  List.forall_mem_append

@[simp] theorem membersWithin_member? (name : String) (o : Option β) :
    MembersWithin key text (member? name encode o) ↔
      ∀ b ∈ o, key name ∧ (encode b).Within key text := by
  cases o <;> simp [member?]

@[simp] theorem membersWithin_map (entries : List (String × β)) :
    MembersWithin key text (entries.map fun e => (e.1, encode e.2)) ↔
      ∀ e ∈ entries, key e.1 ∧ (encode e.2).Within key text :=
  List.forall_mem_map

end

/-! ## Writers of lists and objects -/

section

variable {write : Json → List Char} {gap close : List Char} (blank : IsGap gap)
  (closing : IsGap close)
include blank closing

/-- A writer that puts the same blanks in front of every item, and others in front of the
bracket, writes what is read as the items. -/
theorem itemsAs_of_written {writeItems : List Json → List Char}
    (nil : writeItems [] = close ++ [']'])
    (cons : ∀ v vs, writeItems (v :: vs) = ',' :: (gap ++ (write v ++ writeItems vs)))
    {item : Json} {items : List Json} (read : ∀ v ∈ item :: items, ReadAs v (write v)) :
    ItemsAs (item :: items) (write item ++ writeItems items) := by
  induction items generalizing item with
  | nil =>
    rw [nil]
    exact .last (read item List.mem_cons_self) closing
  | cons next items ih =>
    rw [cons]
    exact .next (read item List.mem_cons_self) blank
      (ih fun v hv => read v (List.mem_cons_of_mem _ hv))

/-- So it is with members, which have blanks behind their colons too. -/
theorem membersAs_of_written {colon : List Char} (spaced : IsGap colon)
    {writeMembers : List (String × Json) → List Char} (nil : writeMembers [] = close ++ ['\x7d'])
    (cons : ∀ m ms, writeMembers (m :: ms) =
      ',' :: (gap ++ (quoted m.1 ++ ':' :: (colon ++ write m.2) ++ writeMembers ms)))
    {m : String × Json} {members : List (String × Json)}
    (read : ∀ n ∈ m :: members, ReadAs n.2 (write n.2)) :
    MembersAs (m :: members)
      (quoted m.1 ++ ':' :: (colon ++ write m.2) ++ writeMembers members) := by
  have member : MemberAs m (quoted m.1 ++ ':' :: (colon ++ write m.2)) :=
    .mk m.1 spaced (read m List.mem_cons_self)
  induction members generalizing m with
  | nil =>
    rw [nil]
    exact .last member closing
  | cons next members ih =>
    have behind : ∀ n ∈ next :: members, ReadAs n.2 (write n.2) :=
      fun n hn => read n (List.mem_cons_of_mem _ hn)
    rw [cons]
    exact .next member blank (ih behind (.mk next.1 spaced (behind next List.mem_cons_self)))

end

variable {key text : String → Prop}

/-! ## Without blanks -/

/-- **A value is read from what it is written as without blanks.** -/
theorem readAs_compact {v : Json} (h : v.Within key text) : ReadAs v (compact v) := by
  induction h with
  | null => exact readAs_null
  | bool b => exact readAs_bool b
  | int n => exact readAs_integer n
  | @str s _ => exact readAs_quoted s
  | @arr items _ ih =>
    cases items with
    | nil => exact readAs_arr_nil
    | cons item items =>
      have written : ItemsAs (item :: items) (compact item ++ compactItems items) :=
        itemsAs_of_written isGap_nil isGap_nil rfl (fun _ _ => rfl) ih
      have read := ReadAs.arr isGap_nil written
      exact read
  | @obj members _ _ ih =>
    rcases members with _ | ⟨⟨k, v⟩, members⟩
    · exact readAs_obj_nil
    · have written : MembersAs ((k, v) :: members)
          (quoted k ++ ':' :: ([] ++ compact v) ++ compactMembers members) := by
        refine membersAs_of_written isGap_nil isGap_nil isGap_nil rfl (fun m ms => ?_) ih
        rw [compactMembers, List.append_assoc]
        rfl
      have read := ReadAs.obj isGap_nil written
      rw [List.append_assoc] at read
      exact read

/-- **A text without blanks is read as the value it was written from.** -/
theorem parse?_compactText {v : Json} (h : v.Within key text) :
    parse? v.compactText = some v :=
  (readAs_compact h).parse?

/-- A value starts with a character that only values start with. -/
theorem exists_compact_eq_cons {v : Json} (h : v.Within key text) :
    ∃ c ∈ startChars, ∃ cs, compact v = c :: cs :=
  (readAs_compact h).starts

theorem length_compact_pos {v : Json} (h : v.Within key text) : 0 < (compact v).length := by
  obtain ⟨c, -, cs, written⟩ := exists_compact_eq_cons h
  rw [written, List.length_cons]
  exact Nat.succ_pos _

/-- What follows a value inside of another, or nothing. -/
def Ends (rest : List Char) : Prop :=
  ∀ c ∈ rest.head?, c = ',' ∨ c = ']' ∨ c = '\x7d'

/-- A comma or a bracket stands behind an item. -/
theorem ends_compactItems (items : List Json) (rest : List Char) :
    Ends (compactItems items ++ rest) := by
  cases items with
  | nil =>
    rw [compactItems]
    rintro c ⟨⟩
    exact .inr (.inl rfl)
  | cons v items =>
    rw [compactItems]
    rintro c ⟨⟩
    exact .inl rfl

/-- A comma or a brace stands behind a member. -/
theorem ends_compactMembers (members : List (String × Json)) (rest : List Char) :
    Ends (compactMembers members ++ rest) := by
  rcases members with _ | ⟨⟨k, v⟩, members⟩
  · rw [compactMembers]
    rintro c ⟨⟩
    exact .inr (.inr rfl)
  · rw [compactMembers]
    rintro c ⟨⟩
    exact .inl rfl

/-! ## Over several lines -/

theorem isGap_lineBreak (depth : Nat) : IsGap (lineBreak depth) := by
  intro c listed
  rw [lineBreak, List.mem_cons, List.mem_replicate] at listed
  rcases listed with rfl | ⟨-, rfl⟩ <;> rfl

theorem isGap_blank : IsGap [' '] :=
  List.forall_mem_singleton.2 rfl

/-- **A value is read from what it is written as over several lines**, however deep it stands. -/
theorem readAs_indentedAt {v : Json} (h : v.Within key text) (depth : Nat) :
    ReadAs v (indentedAt depth v) := by
  induction h generalizing depth with
  | null => exact readAs_null
  | bool b => exact readAs_bool b
  | int n => exact readAs_integer n
  | @str s _ => exact readAs_quoted s
  | @arr items _ ih =>
    have inner := isGap_lineBreak (depth + 1)
    cases items with
    | nil => exact readAs_arr_nil
    | cons item items =>
      have written : ItemsAs (item :: items)
          (indentedAt (depth + 1) item ++ indentedItems depth items) := by
        refine itemsAs_of_written inner (isGap_lineBreak depth) (by rw [indentedItems])
          (fun v vs => ?_) fun v hv => ih v hv (depth + 1)
        rw [indentedItems, List.append_assoc]
      rw [indentedAt, List.append_assoc]
      exact .arr inner written
  | @obj members _ _ ih =>
    have inner := isGap_lineBreak (depth + 1)
    rcases members with _ | ⟨⟨k, v⟩, members⟩
    · exact readAs_obj_nil
    · have written : MembersAs ((k, v) :: members)
          (quoted k ++ ':' :: ([' '] ++ indentedAt (depth + 1) v) ++
            indentedMembers depth members) := by
        refine membersAs_of_written inner (isGap_lineBreak depth) isGap_blank
          (by rw [indentedMembers]) (fun m ms => ?_) fun n hn => ih n hn (depth + 1)
        rw [indentedMembers, List.append_assoc, List.append_assoc]
        rfl
      have read := ReadAs.obj inner written
      rw [List.append_assoc] at read
      rw [indentedAt, List.append_assoc]
      exact read

/-- **A text over several lines is read as the value it was written from.** -/
theorem parse?_indentedText {v : Json} (h : v.Within key text) :
    parse? v.indentedText = some v :=
  (readAs_indentedAt h 0).parse?

end WorkerGroup.Json
