/-
Labels of a group are laid over the default ones.

A label of the group's own is never lost to a default one: what the group says under a key is
what its nodes register there, and the default labels fill in keys the group says nothing
about, as long as they are not turned off (`find?_nodeLabels`). One of the default keys has
the name of the group in it, and names are free; it is still none of the others, since they
start with something else (`nodup_defaultEntries`). So no default label takes the place of
another, and there are three of them, or four with an image (`length_keys_defaultLabels`).
-/
import WorkerGroup.Bootstrap.Labels
import WorkerGroup.Fixture
import WorkerGroup.Proofs.Table.Entries
import WorkerGroup.Proofs.Text.AsciiCase
import WorkerGroup.Proofs.Text.Blank
import WorkerGroup.Proofs.Text.Pieces

set_option autoImplicit false

namespace WorkerGroup

open WorkerGroup.Text

/-! ## Turning default labels off -/

namespace Text

/-- No letter is a blank, so of two cases of one neither is. -/
theorem SameLetter.notMem_blanks {a b : Char} (h : SameLetter a b) (solid : b ∉ blanks) :
    a ∉ blanks := by
  have letters : ∀ p ∈ letterCases, p.1 ∉ blanks ∧ p.2 ∉ blanks := by decide
  rcases h with rfl | listed | listed
  · exact solid
  · exact (letters _ listed).1
  · exact (letters _ listed).2

end Text

namespace Annotations

/-- The value of an annotation is a word, in whatever case and with blanks around it. -/
def Says (annotations : Table String) (key word : String) : Prop :=
  ∃ v w, annotations.find? key = some v ∧ InBlanks v w ∧ SameLetters w word

theorem isWord_iff {annotations : Table String} {key word : String}
    (solid : ∀ c ∈ word.toList, c ∉ blanks) :
    isWord annotations key word = true ↔ Says annotations key word := by
  have whole : ∀ w, SameLetters w word → ∀ c ∈ w.toList, c ∉ blanks := by
    intro w same c listed
    obtain ⟨d, there, letter⟩ := same.exists_of_mem listed
    exact letter.notMem_blanks (solid d there)
  simp only [isWord, Option.any_eq_true, sameIgnoringCase_iff, ← exists_inBlanks_iff whole, Says,
    exists_and_left]

theorem defaultLabels_iff {annotations : Table String} :
    defaultLabels annotations = true ↔ ¬ Says annotations defaultLabelsKey "false" := by
  have solid : "false".toList.all (· ∉ blanks) = true := by decide
  rw [defaultLabels, Bool.not_eq_true', ← Bool.not_eq_true, isWord_iff (by simpa using solid)]

end Annotations

namespace Bootstrap

/-! ## The default labels -/

/-- A label that nodes of a group have by default: the role and its legacy form, whether they
run on spot capacity, which a spot price says that is not empty, and the image if there is
one. -/
inductive DefaultLabel (g : InstanceGroup) : String → String → Prop where
  | role : DefaultLabel g "node.kubernetes.io/role" g.name
  | legacyRole : DefaultLabel g ("node-role.kubernetes.io/" ++ g.name) ""
  | spot (h : ∃ price, g.configuration.spotPrice = some price ∧ price ≠ "") :
    DefaultLabel g "instancemgr.keikoproj.io/lifecycle" "spot"
  | normal (h : ¬ ∃ price, g.configuration.spotPrice = some price ∧ price ≠ "") :
    DefaultLabel g "instancemgr.keikoproj.io/lifecycle" "normal"
  | image (h : g.configuration.image ≠ "") :
    DefaultLabel g "instancemgr.keikoproj.io/image" g.configuration.image

/-- The default labels one by one. -/
def defaultEntries (g : InstanceGroup) : List (String × String) :=
  [(roleLabel, g.name), (legacyRoleLabel g.name, ""),
    (lifecycleLabel, lifecycle g.configuration)] ++
    if g.configuration.image = "" then [] else [(imageLabel, g.configuration.image)]

theorem defaultLabels_eq (g : InstanceGroup) : defaultLabels g = .ofList (defaultEntries g) := by
  rw [defaultLabels, defaultEntries]
  split
  · rfl
  · rfl

/-- **No two default labels have one key**, whatever the group is called. -/
theorem nodup_defaultEntries (g : InstanceGroup) : ((defaultEntries g).map (·.1)).Nodup := by
  have legacy {key : String} (h : ¬ "node-role.kubernetes.io/".toList <+: key.toList) :
      key ≠ legacyRoleLabel g.name :=
    (append_ne_of_not_isPrefixOf h g.name).symm
  have role : roleLabel ≠ legacyRoleLabel g.name := legacy (by decide)
  have lifecycle : lifecycleLabel ≠ legacyRoleLabel g.name := legacy (by decide)
  have image : imageLabel ≠ legacyRoleLabel g.name := legacy (by decide)
  have fixed : [roleLabel, lifecycleLabel, imageLabel].Nodup := by decide
  simp only [List.nodup_cons, List.mem_cons, List.not_mem_nil, or_false, not_or] at fixed
  obtain ⟨⟨role_lifecycle, role_image⟩, lifecycle_image, -⟩ := fixed
  unfold defaultEntries
  by_cases none : g.configuration.image = ""
  · rw [if_pos none]
    simp [role, role_lifecycle, lifecycle.symm]
  · rw [if_neg none]
    simp [role, role_lifecycle, role_image, lifecycle.symm, image.symm, lifecycle_image]

theorem isSpot_iff {c : NodeConfiguration} :
    c.isSpot = true ↔ ∃ price, c.spotPrice = some price ∧ price ≠ "" := by
  simp [NodeConfiguration.isSpot, Option.any_eq_true]

theorem mem_defaultEntries_iff {g : InstanceGroup} {k v : String} :
    (k, v) ∈ defaultEntries g ↔ DefaultLabel g k v := by
  constructor
  · intro listed
    unfold defaultEntries at listed
    rw [List.mem_append] at listed
    rcases listed with listed | listed
    · simp only [List.mem_cons, Prod.mk.injEq, List.not_mem_nil, or_false] at listed
      rcases listed with ⟨rfl, rfl⟩ | ⟨rfl, rfl⟩ | ⟨rfl, rfl⟩
      · exact .role
      · exact .legacyRole
      · unfold lifecycle
        split
        · rename_i spot
          exact .spot (isSpot_iff.1 spot)
        · rename_i normal
          exact .normal (mt isSpot_iff.2 normal)
    · split at listed
      · cases listed
      · rename_i some_image
        obtain ⟨rfl, rfl⟩ := Prod.mk.inj (List.mem_singleton.1 listed)
        exact .image some_image
  · intro label
    unfold defaultEntries
    cases label with
    | role => exact .head _
    | legacyRole => exact .tail _ (.head _)
    | spot h =>
      have spot : lifecycle g.configuration = "spot" := if_pos (isSpot_iff.2 h)
      rw [spot]
      exact .tail _ (.tail _ (.head _))
    | normal h =>
      have normal : lifecycle g.configuration = "normal" := if_neg (mt isSpot_iff.1 h)
      rw [normal]
      exact .tail _ (.tail _ (.head _))
    | image h =>
      rw [if_neg h]
      exact .tail _ (.tail _ (.tail _ (.head _)))

/-- The default labels are found one by one. -/
theorem find?_defaultLabels_eq_some_iff_mem {g : InstanceGroup} {k v : String} :
    (defaultLabels g).find? k = some v ↔ (k, v) ∈ defaultEntries g := by
  have found : (Table.ofList (defaultEntries g)).find? k = ((defaultEntries g).lookup k).or none :=
    Table.find?_insertAll (nodup_defaultEntries g) ∅ k
  rw [defaultLabels_eq, found, Option.or_none,
    Table.lookup_eq_some_iff_mem (nodup_defaultEntries g)]

/-- There is a lifecycle among the default labels, and it is spot for a spot price. -/
theorem find?_lifecycle (g : InstanceGroup) :
    (defaultLabels g).find? lifecycleLabel = some (lifecycle g.configuration) := by
  rw [find?_defaultLabels_eq_some_iff_mem]
  exact .tail _ (.tail _ (.head _))

theorem lifecycle_eq_spot_iff {c : NodeConfiguration} :
    lifecycle c = "spot" ↔ ∃ price, c.spotPrice = some price ∧ price ≠ "" := by
  rw [← isSpot_iff]
  unfold lifecycle
  cases c.isSpot <;> decide

theorem lifecycle_eq_normal_iff {c : NodeConfiguration} :
    lifecycle c = "normal" ↔ ¬ ∃ price, c.spotPrice = some price ∧ price ≠ "" := by
  rw [← isSpot_iff]
  unfold lifecycle
  cases c.isSpot <;> decide

/-- There are three default labels, or four with an image. -/
theorem length_keys_defaultLabels (g : InstanceGroup) :
    (defaultLabels g).keys.length = if g.configuration.image = "" then 3 else 4 := by
  rw [defaultLabels_eq, (Table.keys_ofList_perm (nodup_defaultEntries g)).length_eq,
    List.length_map, defaultEntries]
  split
  · rfl
  · rfl

/-! ## The labels of nodes -/

/-- **What the group says under a key is what nodes register**, and a default label only where
the group says nothing. -/
theorem find?_nodeLabels (g : InstanceGroup) (k : String) :
    (nodeLabels g).find? k =
      (g.configuration.labels.find? k).or
        (if Annotations.defaultLabels g.annotations then (defaultLabels g).find? k else none) := by
  rw [nodeLabels, Table.find?_insertAll g.configuration.labels.nodup_keys]
  split
  · rfl
  · rfl

/-- The default labels fill in the keys the group says nothing about, unless they are off. -/
theorem find?_nodeLabels_eq_some_iff {g : InstanceGroup} {k v : String} :
    (nodeLabels g).find? k = some v ↔
      g.configuration.labels.find? k = some v ∨
        g.configuration.labels.find? k = none ∧
          ¬ Annotations.Says g.annotations Annotations.defaultLabelsKey "false" ∧
          (defaultLabels g).find? k = some v := by
  rw [find?_nodeLabels, ← Annotations.defaultLabels_iff, Option.or_eq_some_iff]
  by_cases on : Annotations.defaultLabels g.annotations = true
  · rw [if_pos on, and_iff_right on]
  · simp [on]

/-- **Labels of the group's own win over the default ones.** For every group:

- its nodes have a label exactly if the group has it, or has none under that key, the
  annotation for default labels does not say `false`, in whatever case and with blanks around
  it, and the label is a default one;
- the default labels are the role, its legacy form, the lifecycle and, if there is one, the
  image, each under a key of its own whatever the group is called: three keys, or four;
- the lifecycle is `spot` exactly if there is a spot price that is not empty, and else `normal`;
- so a label of the group's own is on its nodes, and it stays there whatever the annotation is
  set to and if it is taken away. -/
theorem nodeLabels_overlay (g : InstanceGroup) :
    let own := g.configuration.labels
    let toggle := "instancemgr.keikoproj.io/default-labels"
    let lifecycleKey := "instancemgr.keikoproj.io/lifecycle"
    let onSpot := ∃ price, g.configuration.spotPrice = some price ∧ price ≠ ""
    (∀ k v, (nodeLabels g).find? k = some v ↔
      own.find? k = some v ∨
        own.find? k = none ∧ ¬ Annotations.Says g.annotations toggle "false" ∧
          (defaultLabels g).find? k = some v) ∧
    (∀ k v, (defaultLabels g).find? k = some v ↔ DefaultLabel g k v) ∧
    (defaultLabels g).keys.Nodup ∧
    (defaultLabels g).keys.length = (if g.configuration.image = "" then 3 else 4) ∧
    ((defaultLabels g).find? lifecycleKey = some "spot" ↔ onSpot) ∧
    ((defaultLabels g).find? lifecycleKey = some "normal" ↔ ¬ onSpot) ∧
    ∀ k v, own.find? k = some v →
      (nodeLabels g).find? k = some v ∧
      (∀ item, (nodeLabels (g.annotate toggle item)).find? k = some v) ∧
      (nodeLabels (g.unannotate toggle)).find? k = some v := by
  intro own toggle lifecycleKey onSpot
  -- Whatever the annotations say, the group has the same labels of its own.
  have kept (g' : InstanceGroup) (same : g'.configuration = g.configuration) {k v : String}
      (h : own.find? k = some v) : (nodeLabels g').find? k = some v := by
    rw [find?_nodeLabels_eq_some_iff, same]
    exact .inl h
  have spoken : (defaultLabels g).find? lifecycleKey = some (lifecycle g.configuration) :=
    find?_lifecycle g
  refine ⟨fun k v => find?_nodeLabels_eq_some_iff, fun k v => ?_, (defaultLabels g).nodup_keys,
    length_keys_defaultLabels g, ?_, ?_, ?_⟩
  · rw [find?_defaultLabels_eq_some_iff_mem, mem_defaultEntries_iff]
  · rw [spoken, Option.some.injEq, lifecycle_eq_spot_iff]
  · rw [spoken, Option.some.injEq, lifecycle_eq_normal_iff]
  · intro k v h
    exact ⟨kept g rfl h, fun item => kept (g.annotate toggle item) rfl h,
      kept (g.unannotate toggle) rfl h⟩

/-- A group with a slash in its name and a role of its own, its default labels turned off in
capitals and between blanks: nodes have the role, whatever comes of the annotation, and no
lifecycle until it is taken away. -/
theorem nodeLabels_overlay_when_off :
    let toggle := "instancemgr.keikoproj.io/default-labels"
    let g := (Fixture.label "node.kubernetes.io/role" "custom"
      (Fixture.group "apps" "a/b")).annotate toggle "\u3000FALSE "
    g.configuration.labels.find? "node.kubernetes.io/role" = some "custom" ∧
      (nodeLabels g).find? "node.kubernetes.io/role" = some "custom" ∧
      (nodeLabels (g.annotate toggle "true")).find? "node.kubernetes.io/role" = some "custom" ∧
      (nodeLabels (g.unannotate toggle)).find? "node.kubernetes.io/role" = some "custom" ∧
      (nodeLabels g).find? "instancemgr.keikoproj.io/lifecycle" ≠ some "normal" ∧
      (nodeLabels (g.unannotate toggle)).find? "instancemgr.keikoproj.io/lifecycle" =
        some "normal" ∧
      (defaultLabels g).find? "node-role.kubernetes.io/a/b" = some "" ∧
      (defaultLabels g).keys.length = 4 := by
  intro toggle g
  obtain ⟨labels, default, -, size, -, -, own⟩ := nodeLabels_overlay g
  obtain ⟨restored, default', -⟩ := nodeLabels_overlay (g.unannotate toggle)
  have role : g.configuration.labels.find? "node.kubernetes.io/role" = some "custom" := by decide
  obtain ⟨here, set, taken⟩ := own _ _ role
  have blank {w : String} (all : w.toList.all (· ∈ blanks) = true) : ∀ c ∈ w.toList, c ∈ blanks :=
    fun c listed => of_decide_eq_true (List.all_eq_true.1 all c listed)
  have around : InBlanks "\u3000FALSE " "FALSE" :=
    ⟨"\u3000", " ", blank (by decide), blank (by decide), by decide⟩
  have off : Annotations.Says g.annotations toggle "false" :=
    ⟨"\u3000FALSE ", "FALSE", by decide, around, by decide⟩
  refine ⟨role, here, set "true", taken, ?_, ?_, (default _ _).2 .legacyRole, size⟩
  · rw [ne_eq, labels]
    have unwritten : g.configuration.labels.find? "instancemgr.keikoproj.io/lifecycle" = none := by
      decide
    rintro (written | ⟨-, on, -⟩)
    · rw [unwritten] at written
      cases written
    · exact on off
  · rw [restored]
    refine .inr ⟨by decide, ?_, (default' _ _).2 (.normal ?_)⟩
    · have taken_away : (g.unannotate toggle).annotations.find? toggle = none := by decide
      rintro ⟨v, -, written, -, -⟩
      rw [taken_away] at written
      cases written
    · rintro ⟨price, offered, -⟩
      cases offered

end Bootstrap

end WorkerGroup
