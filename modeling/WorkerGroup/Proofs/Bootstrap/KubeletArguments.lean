/-
What kubelet arguments say.

The arguments are one text in which labels and taints are nested three deep: flags with a
space between them, entries with commas, and inside an entry a key, a value and an effect
with an equals sign and a colon. Nothing is quoted, so the text can be read back only when
the characters that hold it together do not occur in what is written. Labels and taints as
Kubernetes takes them are `Plain` in this sense, and for these the arguments say all there
is to register: the labels, and of each taint the key, the value and the effect
(`kubeletArguments_eq_iff`). A taint with an empty value is registered like one without,
and when it was added is not registered at all.

What the text looks like is written out in `rendering`. The proof reads it from the outside in.
At every level the members are separable by their character, so `Text.intercalate_inj` and
`Text.append_inj_of_notMem` give them back (`kubeletArguments_eq`, `flags_inj`,
`labelArgument_inj`, `taintArgument_inj`).
-/
import WorkerGroup.Bootstrap.KubeletArguments
import WorkerGroup.Proofs.Table.Lookup
import WorkerGroup.Proofs.Text.Pieces

set_option autoImplicit false

namespace WorkerGroup.Bootstrap

/-! ## What can be written -/

/-- The characters that hold the arguments together. -/
def delimiters : List Char :=
  [',', '=', ':', ' ']

/-- The characters that an effect is held in place by: it comes last in its entry, where an
equals sign is read as part of it. -/
def effectDelimiters : List Char :=
  [',', ':', ' ']

/-- A text without any of some characters. -/
def Free (cs : List Char) (s : String) : Prop :=
  ∀ c ∈ cs, c ∉ s.toList

instance (cs : List Char) (s : String) : Decidable (Free cs s) :=
  List.decidableBAll (fun c => c ∉ s.toList) cs

/-- A label whose key and value have no delimiters. -/
structure PlainLabel (label : String × String) : Prop where
  key : Free delimiters label.1
  item : Free delimiters label.2

/-- A taint whose key and value have no delimiters, and whose effect has none but possibly
equals signs. -/
structure PlainTaint (t : Taint) : Prop where
  key : Free delimiters t.key
  value : ∀ v, t.value = some v → Free delimiters v
  effect : Free effectDelimiters t.effect

/-- Labels and taints that can be read back. -/
structure Plain (labels : Table String) (taints : List Taint) : Prop where
  labels : ∀ l ∈ labels.entries, PlainLabel l
  taints : ∀ t ∈ taints, PlainTaint t

/-- What a node registers of a taint: the key, the value, empty when there is none, and the
effect. -/
def registration (t : Taint) : String × String × String :=
  (t.key, t.value.getD "", t.effect)

/-! ## Entries -/

/-- The characters between flags and between entries. -/
def separators : List Char :=
  [',', ' ']

theorem separators_subset_effectDelimiters : separators ⊆ effectDelimiters := by
  simp [separators, effectDelimiters]

theorem effectDelimiters_subset_delimiters : effectDelimiters ⊆ delimiters := by
  simp [effectDelimiters, delimiters]

theorem separators_subset_delimiters : separators ⊆ delimiters :=
  List.Subset.trans separators_subset_effectDelimiters effectDelimiters_subset_delimiters

/-- Two texts without some characters have none of them after they are put together around
a text that has none of them either. -/
theorem Free.append {cs : List Char} {a sep b : String} (ha : Free cs a) (hs : Free cs sep)
    (hb : Free cs b) : Free cs (a ++ sep ++ b) := by
  intro c hc
  rw [String.toList_append, String.toList_append, List.mem_append, List.mem_append]
  rintro ((h | h) | h)
  · exact ha c hc h
  · exact hs c hc h
  · exact hb c hc h

theorem append_ne_empty {a sep b : String} (h : sep ≠ "") : a ++ sep ++ b ≠ "" := by
  rw [ne_eq, String.append_eq_empty_iff, String.append_eq_empty_iff]
  exact fun empty => h empty.1.2

theorem Free.mono {cs ds : List Char} {s : String} (h : Free ds s) (sub : cs ⊆ ds) : Free cs s :=
  fun c hc => h c (sub hc)

/-- The entry of a label ends where a separator stands and nowhere before. -/
theorem PlainLabel.free_labelArgument {l : String × String} (plain : PlainLabel l) :
    Free separators (labelArgument l) :=
  (plain.key.mono separators_subset_delimiters).append (by decide)
    (plain.item.mono separators_subset_delimiters)

/-- **The entry of a label says its key and its value.** -/
theorem labelArgument_inj {l l' : String × String} (plain : PlainLabel l) :
    labelArgument l = labelArgument l' ↔ l = l' := by
  rw [labelArgument, labelArgument,
    Text.append_inj_of_notMem rfl (plain.key '=' (by decide)) (plain.item '=' (by decide))]
  exact Prod.ext_iff.symm

/-- The entry of a taint without its effect. -/
def taintSubject (t : Taint) : String :=
  if t.value.getD "" = "" then t.key else t.key ++ "=" ++ t.value.getD ""

theorem taintArgument_eq (t : Taint) : taintArgument t = taintSubject t ++ ":" ++ t.effect := by
  rw [taintArgument, taintSubject]
  cases h : t.value with
  | none => rfl
  | some v =>
    rw [Option.getD_some]
    dsimp only
    split
    · rfl
    · rfl

theorem PlainTaint.free_value {t : Taint} (plain : PlainTaint t) :
    Free delimiters (t.value.getD "") := by
  cases h : t.value with
  | none => exact fun _ _ => List.not_mem_nil
  | some v => exact plain.value v h

/-- No delimiter but the equals sign stands in front of the colon. -/
theorem PlainTaint.free_taintSubject {t : Taint} (plain : PlainTaint t) :
    Free effectDelimiters (taintSubject t) := by
  have others := effectDelimiters_subset_delimiters
  rw [taintSubject]
  split
  · exact plain.key.mono others
  · exact (plain.key.mono others).append (by decide) (plain.free_value.mono others)

/-- The entry of a taint ends where a separator stands and nowhere before. -/
theorem PlainTaint.free_taintArgument {t : Taint} (plain : PlainTaint t) :
    Free separators (taintArgument t) := by
  have others := separators_subset_effectDelimiters
  rw [taintArgument_eq]
  exact (plain.free_taintSubject.mono others).append (by decide) (plain.effect.mono others)

/-- In front of the colon stand the key and the value. -/
theorem taintSubject_inj {t t' : Taint} (plain : PlainTaint t) (plain' : PlainTaint t') :
    taintSubject t = taintSubject t' ↔
      t.key = t'.key ∧ t.value.getD "" = t'.value.getD "" := by
  have sign : '=' ∈ delimiters := by decide
  -- An equals sign is there exactly for a value that is not empty, so of a taint with a value
  -- and one without the entries differ.
  have differ : ∀ (key key' value : String), '=' ∉ key.toList → key ≠ key' ++ "=" ++ value := by
    intro key key' value free same
    rw [same] at free
    simp at free
  rw [taintSubject, taintSubject]
  split
  · rename_i empty
    split
    · rename_i empty'
      rw [empty, empty', and_iff_left rfl]
    · rename_i value'
      refine iff_of_false (differ _ _ _ (plain.key '=' sign)) fun same => value' ?_
      rw [← same.2, empty]
  · rename_i value
    split
    · rename_i empty'
      refine iff_of_false (differ _ _ _ (plain'.key '=' sign)).symm fun same => value ?_
      rw [same.2, empty']
    · exact Text.append_inj_of_notMem rfl (plain.key '=' sign) (plain.free_value '=' sign)

/-- **The entry of a taint says what is registered of it.** -/
theorem taintArgument_inj {t t' : Taint} (plain : PlainTaint t) (plain' : PlainTaint t') :
    taintArgument t = taintArgument t' ↔ registration t = registration t' := by
  rw [taintArgument_eq, taintArgument_eq,
    Text.append_inj_of_notMem rfl (plain.free_taintSubject ':' (by decide))
      (plain.effect ':' (by decide)),
    taintSubject_inj plain plain', registration, registration, Prod.mk.injEq, Prod.mk.injEq,
    and_assoc]

/-! ## Flags -/

/-- A flag with its entries; there is no flag without entries. -/
def flag (name : String) (entries : List String) : List String :=
  if entries = [] then [] else [name ++ ",".intercalate entries]

/-- The flags for labels and for taints. -/
def flags (labels : Table String) (taints : List Taint) : List String :=
  flag "--node-labels=" (labels.entries.map labelArgument) ++
    flag "--register-with-taints=" (taints.map taintArgument)

theorem kubeletArguments_eq (labels : Table String) (taints : List Taint) :
    kubeletArguments labels taints = " ".intercalate (flags labels taints) := by
  simp only [kubeletArguments, flags, flag, Table.isEmpty, List.isEmpty_iff, List.map_eq_nil_iff]

/-- The form of kubelet arguments: a flag for the labels in the order of their keys, each a key
and a value, and behind a blank one for the taints in their order, each a key, a value if it is
not empty, and an effect. -/
def rendering (labels : Table String) (taints : List Taint) : String :=
  " ".intercalate
    (flag "--node-labels=" (labels.entries.map fun l => l.1 ++ "=" ++ l.2) ++
      flag "--register-with-taints=" (taints.map fun t =>
        (if t.value.getD "" = "" then t.key else t.key ++ "=" ++ t.value.getD "") ++ ":" ++
          t.effect))

/-- **Kubelet arguments have this form.** -/
theorem kubeletArguments_eq_rendering (labels : Table String) (taints : List Taint) :
    kubeletArguments labels taints = rendering labels taints := by
  have entries : taintArgument = fun t => taintSubject t ++ ":" ++ t.effect :=
    funext taintArgument_eq
  rw [kubeletArguments_eq, flags, entries]
  rfl

theorem flag_inj {name : String} {xs ys : List String} (hx : Text.Separable ',' xs)
    (hy : Text.Separable ',' ys) : flag name xs = flag name ys ↔ xs = ys := by
  refine ⟨fun h => ?_, fun same => same ▸ rfl⟩
  rw [flag, flag] at h
  split at h
  · rename_i no_xs
    split at h
    · rename_i no_ys
      rw [no_xs, no_ys]
    · cases h
  · split at h
    · cases h
    · rw [List.cons.injEq, and_iff_left rfl, String.append_right_inj] at h
      exact (Text.intercalate_inj rfl hx hy).1 h

/-- Every flag begins with its name. -/
theorem isPrefix_of_mem_flag {name f : String} {entries : List String}
    (h : f ∈ flag name entries) : name.toList <+: f.toList := by
  rw [flag] at h
  split at h
  · cases h
  · rw [List.mem_singleton.1 h, String.toList_append]
    exact List.prefix_append _ _

section

variable {m n : String} (apart : ¬ m.toList <+: n.toList ∧ ¬ n.toList <+: m.toList)
include apart

/-- The flags of one name are picked out again by that name. -/
theorem filter_flag_append (xs ys : List String) :
    (flag m xs ++ flag n ys).filter (fun f => m.toList <+: f.toList) = flag m xs := by
  have own : ∀ f ∈ flag m xs, decide (m.toList <+: f.toList) = true :=
    fun f hf => decide_eq_true (isPrefix_of_mem_flag hf)
  have other : ∀ f ∈ flag n ys, ¬ decide (m.toList <+: f.toList) = true := by
    intro f hf begins
    -- Of two beginnings of one text one begins with the other.
    rcases List.prefix_or_prefix_of_prefix (of_decide_eq_true begins) (isPrefix_of_mem_flag hf)
      with h | h
    · exact apart.1 h
    · exact apart.2 h
  rw [List.filter_append, List.filter_eq_self.2 own, List.filter_eq_nil_iff.2 other,
    List.append_nil]

theorem flag_append_inj {xs ys xs' ys' : List String} :
    flag m xs ++ flag n ys = flag m xs' ++ flag n ys' ↔
      flag m xs = flag m xs' ∧ flag n ys = flag n ys' := by
  refine ⟨fun h => ?_, fun h => by rw [h.1, h.2]⟩
  have first : flag m xs = flag m xs' := by
    rw [← filter_flag_append apart xs ys, h, filter_flag_append apart]
  rw [first] at h
  exact ⟨first, List.append_cancel_left h⟩

end

/-! ## All of the arguments -/

section

variable {labels labels' : Table String} {taints taints' : List Taint}

theorem Plain.free_labels (plain : Plain labels taints) :
    ∀ e ∈ labels.entries.map labelArgument, Free separators e := by
  intro e listed
  obtain ⟨l, hl, rfl⟩ := List.mem_map.1 listed
  exact (plain.labels l hl).free_labelArgument

theorem Plain.free_taints (plain : Plain labels taints) :
    ∀ e ∈ taints.map taintArgument, Free separators e := by
  intro e listed
  obtain ⟨t, ht, rfl⟩ := List.mem_map.1 listed
  exact (plain.taints t ht).free_taintArgument

theorem Plain.separable_labels (plain : Plain labels taints) :
    Text.Separable ',' (labels.entries.map labelArgument) := by
  intro e listed
  refine ⟨?_, plain.free_labels e listed ',' (by decide)⟩
  obtain ⟨l, -, rfl⟩ := List.mem_map.1 listed
  exact append_ne_empty (by decide)

theorem Plain.separable_taints (plain : Plain labels taints) :
    Text.Separable ',' (taints.map taintArgument) := by
  intro e listed
  refine ⟨?_, plain.free_taints e listed ',' (by decide)⟩
  obtain ⟨t, -, rfl⟩ := List.mem_map.1 listed
  rw [taintArgument_eq]
  exact append_ne_empty (by decide)

/-- A flag ends at a blank when neither its name nor its entries have one. -/
theorem separable_flag {name : String} {entries : List String} (named : name ≠ "")
    (hn : ' ' ∉ name.toList) (he : ∀ e ∈ entries, Free separators e) :
    Text.Separable ' ' (flag name entries) := by
  have free : ∀ e ∈ entries, ' ' ∉ e.toList := fun e listed => he e listed ' ' (by decide)
  intro f hf
  rw [flag] at hf
  split at hf
  · cases hf
  · rw [List.mem_singleton.1 hf]
    refine ⟨fun empty => named (String.append_eq_empty_iff.1 empty).1, ?_⟩
    rw [String.toList_append, List.mem_append]
    rintro (h | h)
    · exact hn h
    · exact Text.notMem_intercalate (by decide) free h

theorem Plain.separable_flags (plain : Plain labels taints) :
    Text.Separable ' ' (flags labels taints) := by
  intro f hf
  rcases List.mem_append.1 hf with h | h
  · exact separable_flag (by decide) (by decide) plain.free_labels f h
  · exact separable_flag (by decide) (by decide) plain.free_taints f h

/-- The flags say their entries. -/
theorem flags_inj (plain : Plain labels taints) (plain' : Plain labels' taints') :
    flags labels taints = flags labels' taints' ↔
      labels.entries.map labelArgument = labels'.entries.map labelArgument ∧
        taints.map taintArgument = taints'.map taintArgument := by
  rw [flags, flags, flag_append_inj (by decide),
    flag_inj plain.separable_labels plain'.separable_labels,
    flag_inj plain.separable_taints plain'.separable_taints]

/-- Of members that two functions tell apart alike, lists are told apart alike. -/
theorem map_eq_map_iff {α β γ : Type} {f : α → β} {g : α → γ} {xs ys : List α}
    (h : ∀ x ∈ xs, ∀ y ∈ ys, f x = f y ↔ g x = g y) :
    xs.map f = ys.map f ↔ xs.map g = ys.map g := by
  induction xs generalizing ys with
  | nil => cases ys <;> simp
  | cons x xs ih =>
    cases ys with
    | nil => simp
    | cons y ys =>
      rw [List.forall_mem_cons] at h
      have rest := ih fun x' hx' y' hy' => h.2 x' hx' y' (List.mem_cons_of_mem _ hy')
      rw [List.map_cons, List.map_cons, List.map_cons, List.map_cons, List.cons.injEq,
        List.cons.injEq, h.1 y List.mem_cons_self, rest]

/-- **Kubelet arguments say which labels and taints they are for.** Of labels and taints that
can be read back, two are written alike exactly when the labels are the same and the
taints, position by position, have the same key, the same value, empty or absent being one,
and the same effect. -/
theorem kubeletArguments_eq_iff (plain : Plain labels taints) (plain' : Plain labels' taints') :
    kubeletArguments labels taints = kubeletArguments labels' taints' ↔
      labels = labels' ∧ taints.map registration = taints'.map registration := by
  have same_labels : labels.entries.map labelArgument = labels'.entries.map labelArgument ↔
      labels = labels' := by
    have entries : labels.entries.map labelArgument = labels'.entries.map labelArgument ↔
        labels.entries.map id = labels'.entries.map id :=
      map_eq_map_iff fun l hl l' _ => labelArgument_inj (plain.labels l hl)
    rw [entries, List.map_id, List.map_id, Table.entries_inj]
  have same_taints : taints.map taintArgument = taints'.map taintArgument ↔
      taints.map registration = taints'.map registration :=
    map_eq_map_iff fun t ht t' ht' => taintArgument_inj (plain.taints t ht) (plain'.taints t' ht')
  rw [kubeletArguments_eq, kubeletArguments_eq,
    Text.intercalate_inj rfl plain.separable_flags plain'.separable_flags,
    flags_inj plain plain', same_labels, same_taints]

end

/-- Empty keys and values and an effect with an equals sign in it: a taint without a value
is written like one with an empty value, and not like one whose effect is split in two. -/
theorem kubeletArguments_of_empty_keys :
    let labels : Table String := .ofList [("", "x"), ("team", "")]
    let taint (value : Option String) (effect : String) : Taint := { key := "", value, effect }
    Plain labels [taint none "a=b"] ∧ Plain labels [taint (some "") "a=b"] ∧
      Plain labels [taint (some "a") "b"] ∧
      kubeletArguments labels [taint none "a=b"] =
        kubeletArguments labels [taint (some "") "a=b"] ∧
      kubeletArguments labels [taint none "a=b"] ≠
        kubeletArguments labels [taint (some "a") "b"] := by
  intro labels taint
  have plain_labels : ∀ l ∈ labels.entries, PlainLabel l := by
    have entries : labels.entries = [("", "x"), ("team", "")] := by decide
    rw [entries, List.forall_mem_cons, List.forall_mem_singleton]
    exact ⟨⟨by decide, by decide⟩, ⟨by decide, by decide⟩⟩
  have plain : ∀ value effect, Free delimiters (value.getD "") → Free effectDelimiters effect →
      Plain labels [taint value effect] := by
    intro value effect free_value free_effect
    refine ⟨plain_labels, fun t ht => ?_⟩
    rw [List.mem_singleton.1 ht]
    have free_key : Free delimiters "" := by decide
    refine ⟨free_key, fun v (hv : value = some v) => ?_, free_effect⟩
    rw [hv] at free_value
    exact free_value
  have absent := plain none "a=b" (by decide) (by decide)
  have empty := plain (some "") "a=b" (by decide) (by decide)
  have split := plain (some "a") "b" (by decide) (by decide)
  refine ⟨absent, empty, split, (kubeletArguments_eq_iff absent empty).2 ⟨rfl, rfl⟩, ?_⟩
  rw [ne_eq, kubeletArguments_eq_iff absent split]
  decide

end WorkerGroup.Bootstrap
