/-
What is written as JSON and read through a dialect.

A record is written in one format and read in two: as JSON, and as YAML, which JSON is a
part of. What the reader of a record asks of a dialect is little, and `Shows` lists it: a
dialect shows JSON when it sees the image of every JSON value as JSON itself would see the
value. All that is said here about reading what was written is said of such a dialect, so it
is said once for both formats.

A reader and a writer that belong together are a `RoundTrip`. What comes back need not be
what was written, for some writers leave something out, but it is a function of it. Options,
lists and maps of a round trip are round trips (`RoundTrip.optional`, `RoundTrip.list`,
`RoundTrip.map?_see`), and so is a record whose fields are: its members are written in the
order it declares them, none twice (`InOrder`), hence under each name there is just what was
written there (`record?_obj`).
-/
import WorkerGroup.Json
import WorkerGroup.Proofs.Lists
import WorkerGroup.Schema.Json

set_option autoImplicit false

namespace WorkerGroup.Schema

open Json (member?)

/-! ## Dialects that show JSON -/

/-- A value that stands for something. -/
def IsValue : Json → Prop
  | .null | .raw _ => False
  | _ => True

/-- The integers that fit one of the words a schema knows. -/
def FitsWord (n : Int) : Prop :=
  -9223372036854775808 ≤ n ∧ n ≤ 18446744073709551615

/-- A dialect that sees the image of a JSON value as JSON would see the value. -/
class Shows {α : Type} (D : Dialect α) (see : Json → α) : Prop where
  text (s : String) : D.text? (see (.str s)) = some s
  integer {n : Int} (h : FitsWord n) : D.integer? (see (.int n)) = some n
  flag (b : Bool) : D.flag? (see (.bool b)) = some b
  null : D.isPresent? (see .null) = some false
  value {v : Json} (h : IsValue v) : D.isPresent? (see v) = some true
  choice (s : String) : D.choice? (see (.str s)) = some s
  integerOrText_text (s : String) : D.integerOrText? (see (.str s)) = some (.inr s)
  integerOrText_integer {n : Int} (h : FitsWord n) :
    D.integerOrText? (see (.int n)) = some (.inl n)
  fields (ms : List (String × Json)) :
    D.fields? (see (.obj ms)) = some (.named (ms.map fun m => (m.1, see m.2)))
  entries (ms : List (String × Json)) :
    D.entries? (see (.obj ms)) = some (ms.map fun m => (m.1, see m.2))
  items (vs : List Json) : D.items? (see (.arr vs)) = some (vs.map see)

/-- JSON shows itself. -/
instance : Shows json id where
  text _ := rfl
  integer _ := rfl
  flag _ := rfl
  null := rfl
  value {v} h := by
    cases v with
    | null | raw _ => exact h.elim
    | bool _ | int _ | str _ | arr _ | obj _ => rfl
  choice _ := rfl
  integerOrText_text _ := rfl
  integerOrText_integer _ := rfl
  fields ms := congrArg (fun l => some (Fields.named l)) (List.map_id' ms).symm
  entries ms := congrArg some (List.map_id' ms).symm
  items vs := congrArg some (List.map_id vs).symm

attribute [simp] Shows.text Shows.flag Shows.choice Shows.integerOrText_text

/-! ## Members in order -/

section

variable {β : Type} {names : List String} {ms : List (String × Json)} {key name : String}
  {encode : β → Json}

/-- Members that are written in the order of some names. Names may be left out. -/
class InOrder (names : List String) (ms : List (String × Json)) : Prop where
  sublist : (ms.map Prod.fst).Sublist names

instance : InOrder names [] :=
  ⟨List.nil_sublist names⟩

instance InOrder.cons (v : Json) [h : InOrder names ms] :
    InOrder (key :: names) ((key, v) :: ms) :=
  ⟨h.sublist.cons_cons key⟩

/-- A member may be left out, or stand where its name does. -/
instance InOrder.optional (o : Option β) [h : InOrder names ms] :
    InOrder (key :: names) (member? key encode o ++ ms) := by
  cases o with
  | none => exact ⟨h.sublist.cons key⟩
  | some b => exact h.cons (encode b)

instance (o : Option β) : InOrder (key :: names) (member? key encode o) := by
  have last : InOrder (key :: names) (member? key encode o ++ []) := inferInstance
  rwa [List.append_nil] at last

/-- What stands under the name of an optional member. -/
@[simp] theorem lookup_member? (o : Option β) :
    (member? key encode o).lookup name = if name == key then o.map encode else none := by
  cases o with
  | none => exact (ite_self none).symm
  | some b =>
    rw [member?, List.lookup_cons]
    cases name == key <;> rfl

/-- Under a name of members that are in order stands one value, or none. -/
theorem filter_eq_of_inOrder [h : InOrder names ms] (once : names.Nodup) (name : String) :
    ms.filter (fun m => m.1 == name) = ((ms.lookup name).map fun v => (name, v)).toList := by
  -- All that is used of the order is that no name is there twice, which the members behind the
  -- first inherit.
  have keys : (ms.map Prod.fst).Nodup := once.sublist h.sublist
  clear h
  induction ms with
  | nil => rfl
  | cons m ms ih =>
    obtain ⟨key, v⟩ := m
    rw [List.map_cons, List.nodup_cons] at keys
    rw [List.filter_cons, List.lookup_cons]
    by_cases same : name = key
    · have others : ms.filter (fun m => m.1 == key) = [] := by
        rw [List.filter_eq_nil_iff]
        intro n hn other
        exact keys.1 (List.mem_map.2 ⟨n, hn, eq_of_beq other⟩)
      subst same
      simp [others]
    · have apart : (key == name) = false := beq_eq_false_iff_ne.2 (Ne.symm same)
      have apart' : (name == key) = false := beq_eq_false_iff_ne.2 same
      simp [apart, apart', ih keys.2]

/-- So it is with what is seen of them. -/
theorem filter_map_see {α : Type} (see : Json → α) [InOrder names ms] (once : names.Nodup)
    (name : String) :
    (ms.map fun m => (m.1, see m.2)).filter (fun f => f.1 == name) =
      ((ms.lookup name).map fun v => (name, see v)).toList := by
  have filtered : (ms.map fun m => (m.1, see m.2)).filter (fun f => f.1 == name) =
      (ms.filter fun m => m.1 == name).map fun m => (m.1, see m.2) := List.filter_map
  rw [filtered, filter_eq_of_inOrder once]
  cases ms.lookup name <;> rfl

/-- No name of members that are in order stands twice. -/
theorem repeats_of_inOrder {α : Type} (see : Json → α) [InOrder names ms]
    (once : names.Nodup) : repeats names (ms.map fun m => (m.1, see m.2)) = false := by
  rw [repeats, List.any_eq_false]
  intro name _ twice
  rw [filter_map_see see once] at twice
  generalize ms.lookup name = found at twice
  cases found with
  | none => simp at twice
  | some v => simp at twice

theorem lookup_map_see {α : Type} (see : Json → α) (name : String) :
    (ms.map fun m => (m.1, see m.2)).lookup name = (ms.lookup name).map see := by
  induction ms with
  | nil => rfl
  | cons m ms ih =>
    rw [List.map_cons, List.lookup_cons, List.lookup_cons, ih]
    cases name == m.1 <;> rfl

end

/-! ## Records -/

section

variable {α β : Type} {D : Dialect α} {see : Json → α} [Shows D see] {names : List String}
  {ms : List (String × Json)}

/-- **A record has under each name what was written there.** -/
@[simp] theorem record?_obj [InOrder names ms] (once : names.Nodup) :
    D.record? names (see (.obj ms)) = some fun name => (ms.lookup name).map see := by
  rw [Dialect.record?, Shows.fields]
  simp only [repeats_of_inOrder see once, Bool.false_eq_true, if_false]
  exact congrArg some (funext fun name => lookup_map_see see name)

@[simp] theorem fullRecord?_obj [InOrder names ms] (once : names.Nodup) :
    D.fullRecord? names (see (.obj ms)) = some fun name => (ms.lookup name).map see := by
  rw [Dialect.fullRecord?, Shows.fields]
  exact record?_obj once

/-- An open record declares no names, so it has to be said what they are. -/
theorem openRecord?_obj (names : List String) [InOrder names ms] (once : names.Nodup) :
    D.openRecord? (see (.obj ms)) = some fun name => ((ms.lookup name).map see).toList := by
  rw [Dialect.openRecord?, Shows.fields]
  refine congrArg some (funext fun name => ?_)
  rw [filter_map_see see once]
  cases ms.lookup name <;> rfl

/-! ## Fields -/

@[simp] theorem required?_eq (r : Record α) (name : String) (read : α → Option β) :
    r.required? name read = (r name).bind read := rfl

@[simp] theorem default?_eq (r : Record α) (name : String) (read : α → Option β) (fallback : β) :
    r.default? name read fallback = (r name).elim (some fallback) read := by
  unfold Record.default?
  cases r name <;> rfl

@[simp] theorem optional?_eq (r : Record α) (name : String) (read : α → Option β) :
    r.optional? D name read = (r name).elim (some none) (D.optional? read) := by
  unfold Record.optional?
  cases r name <;> rfl

/-- A field of an open record that stands there at most once is one of a record. -/
@[simp] theorem openOptional?_toList (r : Record α) (name : String) (read : α → Option β) :
    OpenRecord.optional? D (fun name => (r name).toList) name read = r.optional? D name read := by
  rw [OpenRecord.optional?, Record.optional?]
  cases r name with
  | none => rfl
  | some v => cases read_v : D.optional? read v <;> simp [read_v]

end

/-! ## Round trips -/

/-- A reader and a writer that belong together: what is written stands for something, and
read again it gives `f` of what it was written from. -/
class RoundTrip {α β : Type} (D : Dialect α) (see : Json → α) (read : α → Option β)
    (encode : β → Json) (f : outParam (β → β)) : Prop where
  isValue (b : β) : IsValue (encode b)
  read_see (b : β) : read (see (encode b)) = some (f b)

section

variable {α β : Type} {D : Dialect α} {see : Json → α} [Shows D see] {read : α → Option β}
  {encode : β → Json} {f : β → β}

section

variable [RoundTrip D see read encode f]

/-- What is written where something is optional is read as something. -/
theorem RoundTrip.present (b : β) : D.optional? read (see (encode b)) = some (some (f b)) := by
  rw [Dialect.optional?, Shows.value (RoundTrip.isValue D see read b)]
  simp only [Option.bind_some, if_true, RoundTrip.read_see D]
  rfl

/-- **A member that may be left out comes back**, or is left out again. -/
@[simp] theorem RoundTrip.optional (o : Option β) :
    o.elim (some none) (D.optional? read ∘ see ∘ encode) = some (o.map f) := by
  cases o with
  | none => rfl
  | some b => exact RoundTrip.present b

/-- What is written as null when it is not there comes back, or is not there again. -/
@[simp] theorem RoundTrip.ofOption (o : Option β) :
    D.optional? read (see (Json.ofOption encode o)) = some (o.map f) := by
  cases o with
  | none =>
    rw [Json.ofOption, Dialect.optional?, Shows.null]
    rfl
  | some b => exact RoundTrip.present b

/-- **The items of a list come back**, in their order. -/
@[simp] theorem RoundTrip.list?_see (l : List β) :
    D.list? read (see (Json.ofList encode l)) = some (l.map f) := by
  rw [Json.ofList, Dialect.list?, Shows.items, Option.bind_some, List.map_map]
  exact Lists.mapM_map_eq_some fun b _ => RoundTrip.read_see D b

/-- The entries of a map come back, in their order. -/
theorem RoundTrip.map?_see (entries : List (String × β)) :
    D.map? read (see (.obj (entries.map fun e => (e.1, encode e.2)))) =
      some (entries.map fun e => (e.1, f e.2)) := by
  rw [Dialect.map?, Shows.entries, Option.bind_some, List.map_map]
  refine Lists.mapM_map_eq_some fun e _ => ?_
  simp only [Function.comp_apply, RoundTrip.read_see D, Option.map_some]

end

/-! ## Lists, texts, flags and integers -/

instance RoundTrip.list [RoundTrip D see read encode f] :
    RoundTrip D see (D.list? read) (Json.ofList encode) (List.map f) where
  isValue _ := trivial
  read_see l := RoundTrip.list?_see l

instance RoundTrip.text : RoundTrip D see D.text? Json.str id where
  isValue _ := trivial
  read_see s := Shows.text s

@[simp] theorem optional?_str (s : String) :
    D.optional? D.text? (see (.str s)) = some (some s) :=
  RoundTrip.text.present s

instance RoundTrip.flag : RoundTrip D see D.flag? Json.bool id where
  isValue _ := trivial
  read_see b := Shows.flag b

@[simp] theorem int64?_int (n : Int64) : D.int64? (see (.int n.toInt)) = some n := by
  have least := n.le_toInt
  have most := n.toInt_lt
  rw [Dialect.int64?, Shows.integer ⟨by omega, by omega⟩, Option.bind_some,
    if_pos ⟨by omega, by omega⟩, Int64.ofInt_toInt]

instance RoundTrip.int64 : RoundTrip D see D.int64? (fun n : Int64 => .int n.toInt) id where
  isValue _ := trivial
  read_see n := int64?_int n

instance RoundTrip.int32 : RoundTrip D see D.int32? (fun n : Int32 => .int n.toInt) id where
  isValue _ := trivial
  read_see n := by
    have least := n.le_toInt
    have most := n.toInt_lt
    rw [Dialect.int32?, Shows.integer ⟨by omega, by omega⟩, Option.bind_some,
      if_pos ⟨by omega, by omega⟩, Int32.ofInt_toInt]
    rfl

@[simp] theorem uint64?_int (n : UInt64) : D.uint64? (see (.int n.toNat)) = some n := by
  have most := n.toNat_lt
  rw [Dialect.uint64?, Shows.integer ⟨by omega, by omega⟩, Option.bind_some,
    if_pos ⟨by omega, by omega⟩, Int.toNat_natCast, UInt64.ofNat_toNat]

@[simp] theorem uint32?_int (n : UInt32) : D.uint32? (see (.int n.toNat)) = some n := by
  have most := n.toNat_lt
  rw [Dialect.uint32?, Shows.integer ⟨by omega, by omega⟩, Option.bind_some,
    if_pos ⟨by omega, by omega⟩, Int.toNat_natCast, UInt32.ofNat_toNat]

end

end WorkerGroup.Schema
