/-
Numbers an operator sets: what they are read from, and what comes of anything else.

Host pods, which an annotation says, and the number of launch configurations to retain, which a
variable says, are written alike: the blanks around it aside, a text is a number's when it is
the digits of the number behind an optional plus sign and any number of zeros
(`upTo?_trim_eq_some_iff`). The words that hold the two numbers differ, and so does what comes
of a text that is no such number or one too large: an annotation is passed over for the default
and one warning is given, while a variable is a failure. Which of the cases it is depends on
that one text only (`saysHostPods`, `saysRetention`).
-/
import WorkerGroup.Annotations
import WorkerGroup.Proofs.Text.Blank
import WorkerGroup.Proofs.Text.Decimal
import WorkerGroup.Settings

set_option autoImplicit false

namespace WorkerGroup

open WorkerGroup.Text

/-! ## Spelled numbers -/

/-- A text spells a number: with blanks around it stand an optional plus sign, any number of
zeros and the digits of the number. -/
def Spells (v : String) (n : Nat) : Prop :=
  ∃ t, InBlanks v t ∧ Decimal.Numeral n t.toList

/-- No sign and no digit is a blank. -/
theorem Text.Decimal.Numeral.notMem_blanks {n : Nat} {cs : List Char}
    (h : Decimal.Numeral n cs) : ∀ c ∈ cs, c ∉ blanks := by
  intro c listed
  rcases Decimal.eq_plus_or_isDigit_of_mem_numeral h c listed with rfl | digit
  · decide
  · rw [← isBlank_iff_mem_blanks, isBlank_of_isDigit digit]
    decide

/-- **After trimming a number is read exactly where it is spelled**, up to the limit. -/
theorem upTo?_trim_eq_some_iff {limit n : Nat} {v : String} :
    Decimal.upTo? limit (trim v).toList = some n ↔ Spells v n ∧ n ≤ limit := by
  have solid : ∀ t : String, Decimal.Numeral n t.toList → ∀ c ∈ t.toList, c ∉ blanks :=
    fun _ numeral => numeral.notMem_blanks
  rw [Decimal.upTo?_eq_some_iff, Spells, exists_inBlanks_iff solid]

section Word

variable {Word : Type} {ofNat : Nat → Word} {toNat : Word → Nat} {limit n : Nat} {v : String}

/-- **The word of a text is the number it spells**, if words hold all numbers up to the limit. -/
theorem map_upTo?_trim_eq_some_iff (held : ∀ n ≤ limit, toNat (ofNat n) = n) :
    ((Decimal.upTo? limit (trim v).toList).map ofNat).map toNat = some n ↔
      Spells v n ∧ n ≤ limit := by
  rw [← upTo?_trim_eq_some_iff]
  cases read : Decimal.upTo? limit (trim v).toList with
  | none => exact iff_of_false nofun nofun
  | some m =>
    have fits : m ≤ limit := (upTo?_trim_eq_some_iff.1 read).2
    rw [Option.map_some, Option.map_some, held m fits]

/-- There is no word where no number is spelled or only one beyond the limit. -/
theorem map_upTo?_trim_eq_none_iff :
    (Decimal.upTo? limit (trim v).toList).map ofNat = none ↔ ∀ n, Spells v n → limit < n := by
  rw [Option.map_eq_none_iff, Option.eq_none_iff_forall_ne_some]
  simp only [ne_eq, upTo?_trim_eq_some_iff, not_and, Nat.not_le]

end Word

/-! ## Host pods -/

namespace Annotations

theorem map_hostPodsOf?_eq_some_iff {v : String} {n : Nat} :
    (hostPodsOf? v).map UInt32.toNat = some n ↔ Spells v n ∧ n ≤ 4294967295 :=
  map_upTo?_trim_eq_some_iff fun _ fits => UInt32.toNat_ofNat_of_lt (Nat.lt_succ_of_le fits)

theorem hostPodsOf?_eq_none_iff {v : String} :
    hostPodsOf? v = none ↔ ∀ n, Spells v n → 4294967295 < n :=
  map_upTo?_trim_eq_none_iff

/-- What annotations say about host pods, and the warnings given: two if they say nothing, the
number they spell if a word of 32 bits holds it, and else two again, with one warning that
has the value in it as it was written. -/
inductive SaysHostPods (annotations : Table String) : Nat → List Warning → Prop where
  | absent (h : annotations.find? "instancemgr.keikoproj.io/custom-networking-host-pods" = none) :
    SaysHostPods annotations 2 []
  | number {v : String} {n : Nat}
    (h : annotations.find? "instancemgr.keikoproj.io/custom-networking-host-pods" = some v)
    (spelled : Spells v n) (fits : n ≤ 4294967295) : SaysHostPods annotations n []
  | invalid {v : String}
    (h : annotations.find? "instancemgr.keikoproj.io/custom-networking-host-pods" = some v)
    (beyond : ∀ n, Spells v n → 4294967295 < n) : SaysHostPods annotations 2 [.invalidHostPods v]

theorem saysHostPods (annotations : Table String) :
    SaysHostPods annotations (hostPods annotations).1.toNat (hostPods annotations).2 := by
  unfold hostPods
  split
  · rename_i absent
    exact .absent absent
  · rename_i v written
    split
    · rename_i n read
      have word : (hostPodsOf? v).map UInt32.toNat = some n.toNat := by rw [read]; rfl
      obtain ⟨spelled, fits⟩ := map_hostPodsOf?_eq_some_iff.1 word
      exact .number written spelled fits
    · rename_i unread
      exact .invalid written (hostPodsOf?_eq_none_iff.1 unread)

/-- **Host pods are what annotations say about them**, and nothing else warns. -/
theorem saysHostPods_iff {annotations : Table String} {n : Nat} {warnings : List Warning} :
    SaysHostPods annotations n warnings ↔
      (hostPods annotations).1.toNat = n ∧ (hostPods annotations).2 = warnings := by
  constructor
  · intro said
    cases said with
    | absent h =>
      have default : hostPods annotations = (2, []) := by rw [hostPods, hostPodsKey, h]; rfl
      rw [default]
      exact ⟨rfl, rfl⟩
    | @number v n h spelled fits =>
      obtain ⟨pods, read, value⟩ :=
        Option.map_eq_some_iff.1 (map_hostPodsOf?_eq_some_iff.2 ⟨spelled, fits⟩)
      have counted : hostPods annotations = (pods, []) := by
        rw [hostPods, hostPodsKey, h]
        simp only [read]
      rw [counted]
      exact ⟨value, rfl⟩
    | @invalid v h beyond =>
      have unread : hostPodsOf? v = none := hostPodsOf?_eq_none_iff.2 beyond
      have passed_over : hostPods annotations = (2, [.invalidHostPods v]) := by
        rw [hostPods, hostPodsKey, h]
        simp only [unread]
        rfl
      rw [passed_over]
      exact ⟨rfl, rfl⟩
  · rintro ⟨rfl, rfl⟩
    exact saysHostPods annotations

end Annotations

/-! ## Retention -/

namespace Settings

theorem map_retentionOf?_eq_some_iff {v : String} {n : Nat} :
    (retentionOf? v).map UInt64.toNat = some n ↔ Spells v n ∧ n ≤ 18446744073709551615 :=
  map_upTo?_trim_eq_some_iff fun _ fits => UInt64.toNat_ofNat_of_lt (Nat.lt_succ_of_le fits)

theorem retentionOf?_eq_none_iff {v : String} :
    retentionOf? v = none ↔ ∀ n, Spells v n → 18446744073709551615 < n :=
  map_upTo?_trim_eq_none_iff

/-- What variables say about the number of launch configurations to retain: two if it is not
set, the number it spells if a word of 64 bits holds it, and else a failure that has the
variable and the value in it as it was written. -/
inductive SaysRetention (lookup : String → Option String) : Except SettingFailure Nat → Prop where
  | unset (h : lookup "INSTANCEMGR_CONFIG_RETENTION" = none) : SaysRetention lookup (.ok 2)
  | number {v : String} {n : Nat} (h : lookup "INSTANCEMGR_CONFIG_RETENTION" = some v)
    (spelled : Spells v n) (fits : n ≤ 18446744073709551615) : SaysRetention lookup (.ok n)
  | invalid {v : String} (h : lookup "INSTANCEMGR_CONFIG_RETENTION" = some v)
    (beyond : ∀ n, Spells v n → 18446744073709551615 < n) :
    SaysRetention lookup (.error ⟨"INSTANCEMGR_CONFIG_RETENTION", v⟩)

theorem saysRetention (lookup : String → Option String) :
    SaysRetention lookup ((ofVariables lookup).map fun s => s.configRetention.toNat) := by
  unfold ofVariables
  split
  · rename_i unset
    exact .unset unset
  · rename_i v set
    split
    · rename_i n read
      have word : (retentionOf? v).map UInt64.toNat = some n.toNat := by rw [read]; rfl
      obtain ⟨spelled, fits⟩ := map_retentionOf?_eq_some_iff.1 word
      exact .number set spelled fits
    · rename_i unread
      exact .invalid set (retentionOf?_eq_none_iff.1 unread)

/-- **The number to retain is what the variable says**, and nothing else fails. -/
theorem saysRetention_iff {lookup : String → Option String} {r : Except SettingFailure Nat} :
    SaysRetention lookup r ↔ (ofVariables lookup).map (fun s => s.configRetention.toNat) = r := by
  constructor
  · intro said
    cases said with
    | unset h =>
      rw [ofVariables, retentionVariable, h]
      rfl
    | @number v n h spelled fits =>
      obtain ⟨retention, read, value⟩ :=
        Option.map_eq_some_iff.1 (map_retentionOf?_eq_some_iff.2 ⟨spelled, fits⟩)
      rw [ofVariables, retentionVariable, h, ← value]
      simp only [read]
      rfl
    | @invalid v h beyond =>
      have unread : retentionOf? v = none := retentionOf?_eq_none_iff.2 beyond
      rw [ofVariables, retentionVariable, h]
      simp only [unread]
      rfl
  · rintro rfl
    exact saysRetention lookup

/-- **Only the number to retain can fail**, and its failure has the value in it as it was
written; the other variables take any text. -/
theorem ofVariables_eq_error_iff {lookup : String → Option String} {e : SettingFailure} :
    ofVariables lookup = .error e ↔
      e.name = "INSTANCEMGR_CONFIG_RETENTION" ∧
        lookup "INSTANCEMGR_CONFIG_RETENTION" = some e.value ∧
          ∀ n, Spells e.value n → 18446744073709551615 < n := by
  have mapped : ofVariables lookup = .error e ↔
      (ofVariables lookup).map (fun s => s.configRetention.toNat) = .error e := by
    cases ofVariables lookup with
    | ok s => exact iff_of_false nofun nofun
    | error e' => exact ⟨congrArg _, fun same => by cases same; rfl⟩
  rw [mapped, ← saysRetention_iff]
  constructor
  · rintro (_ | _ | ⟨set, beyond⟩)
    exact ⟨rfl, set, beyond⟩
  · obtain ⟨name, v⟩ := e
    rintro ⟨rfl, set, beyond⟩
    exact .invalid set beyond

end Settings

/-- **Both numbers are read alike and given up differently.** For all annotations and all
variables:

- a text counts as a number of host pods, or of launch configurations to retain, exactly if it
  spells the number, with blanks around it, an optional plus sign and any number of zeros in
  front, and a word of 32 bits, or of 64, holds it;
- host pods are the number the annotation counts as, and no warning is given, nor is one when
  there is no annotation and they are two; they are two as well when the annotation is no such
  number, and then there is just the warning that has the value in it as it was written;
- the number to retain is the one the variable counts as, and two if it is not set, and else
  there is a failure that has the value in it as it was written;
- and that is the only failure there is, whatever the other variables are set to. -/
theorem numbers_read_alike (annotations : Table String) (lookup : String → Option String) :
    (∀ v n, (Annotations.hostPodsOf? v).map UInt32.toNat = some n ↔
      Spells v n ∧ n ≤ 4294967295) ∧
    (∀ v n, (Settings.retentionOf? v).map UInt64.toNat = some n ↔
      Spells v n ∧ n ≤ 18446744073709551615) ∧
    (∀ n warnings, Annotations.SaysHostPods annotations n warnings ↔
      (Annotations.hostPods annotations).1.toNat = n ∧
        (Annotations.hostPods annotations).2 = warnings) ∧
    (∀ r, Settings.SaysRetention lookup r ↔
      (Settings.ofVariables lookup).map (fun s => s.configRetention.toNat) = r) ∧
    ∀ e, Settings.ofVariables lookup = .error e ↔
      e.name = "INSTANCEMGR_CONFIG_RETENTION" ∧
        lookup "INSTANCEMGR_CONFIG_RETENTION" = some e.value ∧
          ∀ n, Spells e.value n → 18446744073709551615 < n := by
  refine ⟨?_, ?_, ?_, ?_, ?_⟩
  · intro v n
    exact Annotations.map_hostPodsOf?_eq_some_iff
  · intro v n
    exact Settings.map_retentionOf?_eq_some_iff
  · intro n warnings
    exact Annotations.saysHostPods_iff
  · intro r
    exact Settings.saysRetention_iff
  · intro e
    exact Settings.ofVariables_eq_error_iff

/-- A number too large for one word and not for the other, with a sign, zeros and blanks. -/
example :
    Annotations.hostPodsOf? "\u3000+004294967296\t" = none ∧
      Settings.retentionOf? "\u3000+004294967296\t" = some 4294967296 := by
  decide

end WorkerGroup
