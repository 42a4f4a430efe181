/-
Names of launch configurations go by the second they were made in.

A name is a prefix, a hyphen and the second, field by field from the year down and without
separators. For the years of four digits every field takes up its full width, so the last
fourteen characters of a name are the second and all before them is the prefix and the hyphen,
even where a prefix ends in digits and hyphens of its own. And as digits of one width the
seconds are in the order of the number that the fields make together
(`stampNumber`), which is the order of the calendar and so that of time.

Configurations made in one instant are pruned in the order of their names. With names that are
made like this the one that was named first goes first.
-/
import WorkerGroup.Proofs.Instant.RoundTrip
import WorkerGroup.Proofs.Instant.Seconds
import WorkerGroup.Proofs.LaunchConfiguration.Pruning
import WorkerGroup.Proofs.Lists
import WorkerGroup.ResourceNames

set_option autoImplicit false

namespace WorkerGroup

open WorkerGroup.Text WorkerGroup.Text.Decimal

/-! ## Stamps -/

namespace Instant

variable {s t : Instant}

/-- An instant in a year of four digits, and not in a leap second. -/
structure Ordinary (t : Instant) : Prop where
  year_nonneg : 0 ≤ t.date.year
  year_le : t.date.year ≤ 9999
  second_lt : t.second < 60

/-- The fields of an instant's second as one number, two places for each below the year. -/
def stampNumber (t : Instant) : Nat :=
  ((((t.date.year.toNat * 100 + t.date.month) * 100 + t.date.day) * 100 + t.hour) * 100 +
    t.minute) * 100 + t.second

theorem toList_stamp (h : t.Ordinary) :
    t.stamp.toList = padded 4 t.date.year.toNat ++ padded 2 t.date.month ++
      padded 2 t.date.day ++ padded 2 t.hour ++ padded 2 t.minute ++ padded 2 t.second := by
  rw [stamp, String.toList_ofList, yearText, if_pos ⟨h.year_nonneg, h.year_le⟩]

theorem isDigit_of_mem_stamp (h : t.Ordinary) : ∀ c ∈ t.stamp.toList, isDigit c = true := by
  intro c hc
  rw [toList_stamp h] at hc
  simp only [List.mem_append] at hc
  rcases hc with ((((hc | hc) | hc) | hc) | hc) | hc
  all_goals exact isDigit_of_mem_padded _ _ c hc

/-- Every field fits the places it has. -/
theorem fields_lt (h : t.Ordinary) :
    t.date.year.toNat < 10000 ∧ t.date.month < 100 ∧ t.date.day < 100 ∧ t.hour < 100 ∧
      t.minute < 100 ∧ t.second < 100 := by
  have year := h.year_le
  have month := t.date_exists.2.2.2.1
  have hour := t.hour_lt
  have minute := t.minute_lt
  have second := h.second_lt
  exact ⟨by omega, by omega, day_lt t.date_exists, by omega, by omega, by omega⟩

theorem length_stamp (h : t.Ordinary) : t.stamp.toList.length = 14 := by
  obtain ⟨year, month, day, hour, minute, second⟩ := fields_lt h
  simp only [toList_stamp h, List.length_append]
  rw [length_padded year (by decide), length_padded month (by decide),
    length_padded day (by decide), length_padded hour (by decide),
    length_padded minute (by decide), length_padded second (by decide)]

theorem value_stamp (h : t.Ordinary) : value t.stamp.toList = t.stampNumber := by
  obtain ⟨-, month, day, hour, minute, second⟩ := fields_lt h
  rw [toList_stamp h, value_append_padded second (by decide),
    value_append_padded minute (by decide), value_append_padded hour (by decide),
    value_append_padded day (by decide), value_append_padded month (by decide), value_padded]
  rfl

/-- **The number of an instant's fields is in the order of its seconds.** -/
theorem seconds_lt_iff_stampNumber_lt (hs : s.Ordinary) (ht : t.Ordinary) :
    s.seconds < t.seconds ↔ s.stampNumber < t.stampNumber := by
  obtain ⟨-, month, day, hour, minute, second⟩ := fields_lt hs
  obtain ⟨-, month', day', hour', minute', second'⟩ := fields_lt ht
  have year := hs.year_nonneg
  have year' := ht.year_nonneg
  rw [seconds_lt_iff hs.second_lt ht.second_lt]
  unfold stampNumber
  rcases Date.before_trichotomous s.date t.date with before | same | behind
  · refine iff_of_true (.inl before) ?_
    unfold Date.Before at before
    omega
  · rw [same, or_iff_right (Date.not_before_self t.date), and_iff_right rfl]
    -- In one day the count goes by sixties and the digits by hundreds.
    have sixty_minutes := s.minute_lt
    have sixty_minutes' := t.minute_lt
    have sixty_seconds := hs.second_lt
    have sixty_seconds' := ht.second_lt
    omega
  · unfold Date.Before at behind
    refine iff_of_false ?_ (by omega)
    rintro (before | ⟨same, -⟩)
    · unfold Date.Before at before
      omega
    · rw [same] at behind
      omega

theorem stamp_lt_iff (hs : s.Ordinary) (ht : t.Ordinary) :
    s.stamp.toList < t.stamp.toList ↔ s.seconds < t.seconds := by
  have width : s.stamp.toList.length = t.stamp.toList.length := by
    rw [length_stamp hs, length_stamp ht]
  rw [lt_iff_value_lt (isDigit_of_mem_stamp hs) (isDigit_of_mem_stamp ht) width, value_stamp hs,
    value_stamp ht, seconds_lt_iff_stampNumber_lt hs ht]

/-- Instants of one second have one stamp, and instants of one stamp fall in one second. -/
theorem stamp_eq_iff (hs : s.Ordinary) (ht : t.Ordinary) :
    s.stamp = t.stamp ↔ s.seconds = t.seconds := by
  have earlier := stamp_lt_iff hs ht
  have later := stamp_lt_iff ht hs
  rw [← String.toList_inj]
  constructor
  · intro same
    rw [same] at earlier later
    have not_earlier := mt earlier.2 (List.lt_irrefl _)
    have not_later := mt later.2 (List.lt_irrefl _)
    omega
  · intro same
    apply List.le_antisymm
    · exact fun less => absurd (later.1 less) (by omega)
    · exact fun less => absurd (earlier.1 less) (by omega)

end Instant

/-! ## Names -/

namespace ResourceNames

variable {p q : String} {s t : Instant}

/-- **A name tells its prefix and its second apart**: the second is the last fourteen
characters, whatever the prefix ends in. -/
theorem launchConfigurationName_eq_iff (hs : s.Ordinary) (ht : t.Ordinary) :
    launchConfigurationName p s = launchConfigurationName q t ↔
      p = q ∧ s.seconds = t.seconds := by
  rw [← Instant.stamp_eq_iff hs ht]
  unfold launchConfigurationName
  constructor
  · intro same
    rw [← String.toList_inj] at same
    simp only [String.toList_append] at same
    have width : s.stamp.toList.length = t.stamp.toList.length := by
      rw [Instant.length_stamp hs, Instant.length_stamp ht]
    obtain ⟨front, stamp⟩ := List.append_inj' same width
    exact ⟨String.toList_inj.1 (List.append_cancel_right front), String.toList_inj.1 stamp⟩
  · rintro ⟨rfl, same⟩
    rw [same]

/-- **The names of one prefix are in the order of their seconds.** -/
theorem octetsOf_launchConfigurationName_lt_iff (hs : s.Ordinary) (ht : t.Ordinary) :
    Base64.octetsOf (launchConfigurationName p s) < Base64.octetsOf (launchConfigurationName p t) ↔
      s.seconds < t.seconds := by
  have characters {a b : String} : a < b ↔ a.toList < b.toList := Iff.rfl
  rw [Base64.octetsOf_lt_iff, characters]
  unfold launchConfigurationName
  simp only [String.toList_append]
  rw [Lists.append_lt_append_iff Char.lt_irrefl, Instant.stamp_lt_iff hs ht]

end ResourceNames

/-! ## Pruning by name -/

namespace LaunchConfiguration

open ResourceNames

variable {p q : String} {s t : Instant}

/-- Of two configurations made in one instant the one that was named first is the older. -/
theorem older_iff_of_named {c d : LaunchConfiguration} (hs : s.Ordinary) (ht : t.Ordinary)
    (tied : c.createdAt = d.createdAt) (hc : c.name = launchConfigurationName p s)
    (hd : d.name = launchConfigurationName p t) : Older c d ↔ s.seconds < t.seconds := by
  unfold Older
  rw [hc, hd, octetsOf_launchConfigurationName_lt_iff hs ht, tied,
    or_iff_right (List.lt_irrefl _), and_iff_right rfl]

/-- Where configurations are named after the second they were made in, names are in the order of
age. -/
theorem older_of_name_lt {c d : LaunchConfiguration} (hs : s.Ordinary) (ht : t.Ordinary)
    (made : c.createdAt = s) (made' : d.createdAt = t) (hc : c.name = launchConfigurationName p s)
    (hd : d.name = launchConfigurationName p t)
    (less : Base64.octetsOf c.name < Base64.octetsOf d.name) : Older c d := by
  rw [hc, hd, octetsOf_launchConfigurationName_lt_iff hs ht] at less
  left
  rw [made, made']
  exact Instant.fields_lt_of_seconds_lt hs.second_lt ht.second_lt less

/-- What is older than something that is pruned is pruned as well, and in front of it. -/
theorem DividedByAge.older_first {inactive pruned kept : List LaunchConfiguration}
    {retention : Nat} {c d : LaunchConfiguration}
    (h : DividedByAge inactive retention pruned kept) (older : Older c d) (hc : c ∈ inactive)
    (hd : d ∈ pruned) : [c, d].Sublist pruned := by
  have not_behind : ¬ NotNewer d c := by
    rintro (rfl | newer)
    · exact Older.irrefl _ older
    · exact Older.irrefl _ (older.trans newer)
  have goes : c ∈ pruned := by
    rcases List.mem_append.1 (h.perm.mem_iff.2 hc) with goes | stays
    · exact goes
    · exact absurd (h.oldest d hd c stays) not_behind
  obtain ⟨front, behind, rfl⟩ := List.append_of_mem goes
  rcases List.mem_append.1 hd with in_front | here
  · have ascending := (List.pairwise_append.1 h.ascending).2.2
    exact absurd (ascending d in_front c List.mem_cons_self) not_behind
  · rcases List.mem_cons.1 here with rfl | later
    · exact absurd older (Older.irrefl _)
    · refine .trans ?_ (List.sublist_append_right _ _)
      exact (List.singleton_sublist.2 later).cons_cons c

/-- **Names of launch configurations are in the order of time.** For any prefixes and any
instants in the years of four digits, leap seconds apart, two names are one name just if they
have one prefix and fall in one second, and the octets of names of one prefix are in the order
of the seconds. So the order of names is that of age where configurations are named after the
second they were made in. And where some that were made in one instant are pruned by name, the
one that was named first is the older, and goes before the other. -/
theorem names_in_order_of_time (hs : s.Ordinary) (ht : t.Ordinary) :
    (launchConfigurationName p s = launchConfigurationName q t ↔
        p = q ∧ s.seconds = t.seconds) ∧
      (Base64.octetsOf (launchConfigurationName p s) <
          Base64.octetsOf (launchConfigurationName p t) ↔ s.seconds < t.seconds) ∧
      ∀ c d : LaunchConfiguration, c.name = launchConfigurationName p s →
        d.name = launchConfigurationName p t →
          (c.createdAt = s → d.createdAt = t →
            Base64.octetsOf c.name < Base64.octetsOf d.name → Older c d) ∧
          (c.createdAt = d.createdAt → (Older c d ↔ s.seconds < t.seconds) ∧
            ∀ configurations active retention, ∃ pruned kept,
              DividedByAge (inactive configurations active) retention pruned kept ∧
                toPrune configurations active retention = pruned.map (·.name) ∧
                (s.seconds < t.seconds → c ∈ inactive configurations active → d ∈ pruned →
                  [c, d].Sublist pruned)) := by
  refine ⟨launchConfigurationName_eq_iff hs ht, octetsOf_launchConfigurationName_lt_iff hs ht, ?_⟩
  intro c d hc hd
  refine ⟨fun made made' => older_of_name_lt hs ht made made' hc hd, fun tied => ?_⟩
  have older := older_iff_of_named hs ht tied hc hd
  refine ⟨older, fun configurations active retention => ?_⟩
  have divided := dividedByAge_newestFirst configurations active retention
  refine ⟨_, _, divided, rfl, fun earlier listed pruned => ?_⟩
  exact divided.older_first (older.2 earlier) listed pruned

/-- The last second of a year and the first of the next, behind prefixes that end in digits and
hyphens. -/
theorem names_in_order_of_time_at_new_year :
    let s : Instant := ⟨⟨2023, 12, 31⟩, 23, 59, 59, 0, by decide, by decide, by decide, by decide,
      by decide⟩
    let t : Instant := ⟨⟨2024, 1, 1⟩, 0, 0, 0, 0, by decide, by decide, by decide, by decide,
      by decide⟩
    s.Ordinary ∧ t.Ordinary ∧
      launchConfigurationName "a-1-2" s ≠ launchConfigurationName "a-1" t ∧
      Base64.octetsOf (launchConfigurationName "a-1-2" s) <
        Base64.octetsOf (launchConfigurationName "a-1-2" t) ∧
      Older ⟨launchConfigurationName "a-1-2" s, s⟩ ⟨launchConfigurationName "a-1-2" t, t⟩ ∧
      Older ⟨launchConfigurationName "a-1-2" s, t⟩ ⟨launchConfigurationName "a-1-2" t, t⟩ := by
  intro s t
  have hs : s.Ordinary := ⟨by decide, by decide, by decide⟩
  have ht : t.Ordinary := ⟨by decide, by decide, by decide⟩
  have earlier : s.seconds < t.seconds := by decide
  obtain ⟨one, order, named⟩ := names_in_order_of_time (p := "a-1-2") (q := "a-1") hs ht
  obtain ⟨made, -⟩ := named ⟨launchConfigurationName "a-1-2" s, s⟩
    ⟨launchConfigurationName "a-1-2" t, t⟩ rfl rfl
  obtain ⟨-, tied⟩ := named ⟨launchConfigurationName "a-1-2" s, t⟩
    ⟨launchConfigurationName "a-1-2" t, t⟩ rfl rfl
  refine ⟨hs, ht, fun same => ?_, order.2 earlier, made rfl rfl (order.2 earlier),
    (tied rfl).1.2 earlier⟩
  exact absurd (one.1 same).1 (by decide)

end LaunchConfiguration

end WorkerGroup
