/-
The key of a group gives back its namespace and its name.

A group is reported under one text, with a slash between its namespace and its name. Such a
text is cut at its first slash, and what is behind may not have another. So every text with a
slash is that of a name whose namespace has none (`exists_text_eq`), and it is read exactly if
nothing else is wrong with the parts of that name (`ofText?_text`). Of the text alone that
asks for one slash, with something in front of it and something behind
(`exists_ofText?_iff`).

Names with an empty part or with a slash in a part are written too, and are not read again.
They cannot be mistaken for a name whose parts are in order: when one of two groups has such
a name, their keys are different or their names are the same (`text_eq_text_iff`).
-/
import WorkerGroup.Proofs.Lists
import WorkerGroup.Proofs.Pass.StateReports
import WorkerGroup.Proofs.Text.Pieces

set_option autoImplicit false

namespace WorkerGroup

namespace GroupName

/-! ## Cutting a text at its first slash -/

/-- A part that can be told from the other: it is not empty and has no slash in it. -/
structure IsPart (s : String) : Prop where
  nonempty : s ≠ ""
  whole : '/' ∉ s.toList

instance (s : String) : Decidable (IsPart s) :=
  decidable_of_iff (s ≠ "" ∧ '/' ∉ s.toList) ⟨fun h => ⟨h.1, h.2⟩, fun h => ⟨h.1, h.2⟩⟩

/-- The parts of a name can be told from each other. -/
structure HasParts (n : GroupName) : Prop where
  namespaceName : IsPart n.namespaceName
  name : IsPart n.name

instance (n : GroupName) : Decidable n.HasParts :=
  decidable_of_iff (IsPart n.namespaceName ∧ IsPart n.name)
    ⟨fun h => ⟨h.1, h.2⟩, fun h => ⟨h.1, h.2⟩⟩

theorem toList_text (n : GroupName) :
    n.text.toList = n.namespaceName.toList ++ '/' :: n.name.toList :=
  Text.toList_append_append rfl n.namespaceName n.name

/-- A text with a slash is that of a name, cut at the first. -/
theorem exists_text_eq {s : String} (h : '/' ∈ s.toList) :
    ∃ n : GroupName, n.text = s ∧ '/' ∉ n.namespaceName.toList := by
  have written : "/".toList = ['/'] := rfl
  obtain ⟨left, right, cut, first⟩ := Text.exists_cut written h
  exact ⟨⟨left, right⟩, cut.symm, first⟩

theorem ofText?_of_notMem {s : String} (h : '/' ∉ s.toList) : ofText? s = none := by
  unfold ofText?
  rw [Lists.dropWhile_ne_of_notMem h]

/-- Without a slash in the namespace the text of a name is cut where the name was put
together, so it is read if the parts are in order. -/
theorem ofText?_text {n : GroupName} (h : '/' ∉ n.namespaceName.toList) :
    ofText? n.text = if n.HasParts then some n else none := by
  have parts : n.HasParts ↔
      n.namespaceName.toList ≠ [] ∧ n.name.toList ≠ [] ∧ '/' ∉ n.name.toList := by
    rw [Text.toList_ne_nil_iff, Text.toList_ne_nil_iff]
    exact ⟨fun ⟨⟨some_left, _⟩, some_right, right⟩ => ⟨some_left, some_right, right⟩,
      fun ⟨some_left, some_right, right⟩ => ⟨⟨some_left, h⟩, some_right, right⟩⟩
  unfold ofText?
  rw [toList_text, Lists.takeWhile_ne_append_cons h, Lists.dropWhile_ne_append_cons h]
  simp [parts]

/-- **Reading gives the name that was written**, if its parts can be told from each other, and
no other text is read. -/
theorem ofText?_eq_some_iff {s : String} {n : GroupName} :
    ofText? s = some n ↔ n.text = s ∧ n.HasParts := by
  constructor
  · intro read
    by_cases slash : '/' ∈ s.toList
    · obtain ⟨m, rfl, first⟩ := exists_text_eq slash
      rw [ofText?_text first] at read
      split at read
      · rename_i parts
        obtain rfl := Option.some.inj read
        exact ⟨rfl, parts⟩
      · cases read
    · rw [ofText?_of_notMem slash] at read
      cases read
  · rintro ⟨rfl, parts⟩
    rw [ofText?_text parts.namespaceName.whole, if_pos parts]

/-- **One name with such parts is enough to keep two keys apart.** -/
theorem text_eq_text_iff {n m : GroupName} (h : n.HasParts) : n.text = m.text ↔ n = m := by
  rw [text, text, Text.append_inj_of_notMem rfl h.namespaceName.whole h.name.whole]
  constructor
  · rintro ⟨namespaces, names⟩
    cases n
    cases m
    exact congrArg₂ mk namespaces names
  · rintro rfl
    exact ⟨rfl, rfl⟩

/-- A text is read when it has one slash, with something on each side of it. -/
theorem exists_ofText?_iff {s : String} :
    (∃ n, ofText? s = some n) ↔
      s.toList.count '/' = 1 ∧ s.toList.head? ≠ some '/' ∧ s.toList.getLast? ≠ some '/' := by
  constructor
  · rintro ⟨n, read⟩
    obtain ⟨rfl, ⟨some_left, left⟩, some_right, right⟩ := ofText?_eq_some_iff.1 read
    have some_front : n.namespaceName.toList ≠ [] := Text.toList_ne_nil_iff.2 some_left
    have some_back : n.name.toList ≠ [] := Text.toList_ne_nil_iff.2 some_right
    rw [toList_text, List.count_append, List.count_cons_self, List.count_eq_zero.2 left,
      List.count_eq_zero.2 right, List.head?_append_of_ne_nil _ some_front, List.append_cons,
      List.getLast?_append_of_ne_nil _ some_back]
    refine ⟨rfl, fun first => ?_, fun last => ?_⟩
    · exact left (List.mem_of_head? first)
    · exact right (List.mem_of_getLast? last)
  · rintro ⟨one, first, last⟩
    have slash : '/' ∈ s.toList := List.count_pos_iff.1 (by omega)
    obtain ⟨n, rfl, left⟩ := exists_text_eq slash
    rw [toList_text] at one first last
    rw [List.count_append, List.count_cons_self, List.count_eq_zero.2 left] at one
    have right : '/' ∉ n.name.toList := List.count_eq_zero.1 (by omega)
    refine ⟨n, ofText?_eq_some_iff.2 ⟨rfl, ⟨?_, left⟩, ?_, right⟩⟩
    · intro empty
      rw [empty] at first
      exact first rfl
    · intro empty
      rw [empty] at last
      exact last List.getLast?_concat

end GroupName

namespace Pass

/-! ## What the sink is told -/

/-- A key under which a group is reported: by a pass that is started on it, or at a moment at
which a pass has it. -/
def ReportedUnder (g : InstanceGroup) (key : String) : Prop :=
  (∃ settings, (startReport g settings).group = key) ∨
    ∃ m : Moment, m.pass.group = g ∧ ∃ r ∈ m.reply.reports, r.group = key

/-- A group is reported under one key at all times. -/
theorem ReportedUnder.key_eq {g : InstanceGroup} {key : String} (h : ReportedUnder g key) :
    key = g.groupName.text := by
  rcases h with ⟨settings, rfl⟩ | ⟨m, rfl, r, told, rfl⟩
  · rfl
  · rw [reply_reports] at told
    obtain ⟨s, -, rfl⟩ := List.mem_map.1 told
    rfl

/-- **A key and the name it was made of say the same.**

- A text is read as a name if it has one slash and the slash is neither its first character
  nor its last, and only then; written again, the name that was read is that text.
- What is written for a name is read if its namespace and its own name are not empty and have
  no slash, and only then; what is read is the name.
- So a group with such parts shares the key it is reported under only with groups of its
  namespace and name, at any moment of any pass, whatever the parts of the others are. -/
theorem key_gives_back_name :
    (∀ s, (∃ n, GroupName.ofText? s = some n) ↔
      s.toList.count '/' = 1 ∧ s.toList.head? ≠ some '/' ∧ s.toList.getLast? ≠ some '/') ∧
    (∀ s n, GroupName.ofText? s = some n → n.text = s) ∧
    (∀ n : GroupName, ((∃ m, GroupName.ofText? n.text = some m) ↔ n.HasParts) ∧
      (n.HasParts → GroupName.ofText? n.text = some n)) ∧
    ∀ (g g' : InstanceGroup) (key : String), g.groupName.HasParts →
      ReportedUnder g key → ReportedUnder g' key →
        g.namespaceName = g'.namespaceName ∧ g.name = g'.name := by
  refine ⟨fun s => GroupName.exists_ofText?_iff, fun s n read => ?_, fun n => ⟨⟨?_, ?_⟩, ?_⟩, ?_⟩
  · exact (GroupName.ofText?_eq_some_iff.1 read).1
  · rintro ⟨m, read⟩
    obtain ⟨written, parts⟩ := GroupName.ofText?_eq_some_iff.1 read
    rwa [← (GroupName.text_eq_text_iff parts).1 written]
  · intro parts
    exact ⟨n, GroupName.ofText?_eq_some_iff.2 ⟨rfl, parts⟩⟩
  · intro parts
    exact GroupName.ofText?_eq_some_iff.2 ⟨rfl, parts⟩
  · intro g g' key parts here there
    have same : g.groupName = g'.groupName := by
      rw [← GroupName.text_eq_text_iff parts, ← here.key_eq, ← there.key_eq]
    exact ⟨congrArg GroupName.namespaceName same, congrArg GroupName.name same⟩

/-- A group that names no namespace, reported at the start of a pass, and one that names the
default one, reported when its state is recorded, have one key and one name; neither too many
slashes nor an empty part are read. -/
theorem key_gives_back_name_by_default :
    let g : InstanceGroup := { metadata := { name := some "workers" } }
    let g' := InstanceGroup.named "default" "workers"
    g.groupName.HasParts ∧ ReportedUnder g "default/workers" ∧
      ReportedUnder g' "default/workers" ∧
      (g.namespaceName = g'.namespaceName ∧ g.name = g'.name) ∧
      GroupName.ofText? "default/workers" = some g.groupName ∧
      (¬ ∃ n, GroupName.ofText? "default/workers/a" = some n) ∧
      ¬ ∃ n, GroupName.ofText? "/workers" = some n := by
  intro g g'
  obtain ⟨accepted, -, written, keys⟩ := key_gives_back_name
  have parts : g.groupName.HasParts := by decide
  have here : ReportedUnder g "default/workers" := .inl ⟨{}, rfl⟩
  have there : ReportedUnder g' "default/workers" :=
    .inr ⟨⟨prepare g' {}, { operation := .setState .ready }⟩, rfl, _, List.mem_cons_self, rfl⟩
  refine ⟨parts, here, there, keys g g' _ parts here there, (written _).2 parts, ?_, ?_⟩
  · rw [accepted]
    decide
  · rw [accepted]
    decide

end Pass

end WorkerGroup
