/-
What a piece of user data stands for.

Data may be given as it is or as base64, and nothing in the data says which. What keeps the
two apart is that base64 is read strictly: what is read at all was written for just the text
that is read. So a piece is either, without the blanks around it, the base64 of a text, and
of one text only, or it is left as it is (`decodeData_eq_of_trim_eq`,
`decodeData_eq_self_of_trim_ne`).
-/
import WorkerGroup.Bootstrap.Payload
import WorkerGroup.Proofs.Text.Base64
import WorkerGroup.Proofs.Text.Blank

set_option autoImplicit false

namespace WorkerGroup.Bootstrap

open WorkerGroup.Text WorkerGroup.Text.Base64

theorem decodeData_eq_of_trim_eq {data s : String} (h : trim data = encodeText s) :
    decodeData data = s := by
  rw [decodeData, decodeText?_eq_some_iff.2 h, Option.getD_some]

theorem decodeData_eq_self_of_trim_ne {data : String} (h : ∀ s, trim data ≠ encodeText s) :
    decodeData data = data := by
  have unread : decodeText? (trim data) = none :=
    Option.eq_none_iff_forall_ne_some.2 fun s read => h s (decodeText?_eq_some_iff.1 read)
  rw [decodeData, unread, Option.getD_none]

/-- Trimming leaves what was written in base64. -/
theorem trim_encode {octets : List Nat} (small : ∀ o ∈ octets, o < 256) {w w' : String}
    (blank : ∀ c ∈ w.toList, isBlank c = true) (blank' : ∀ c ∈ w'.toList, isBlank c = true) :
    trim (w ++ String.ofList (encode octets) ++ w') = String.ofList (encode octets) := by
  refine trim_append_of_blank blank ?_ blank'
  rw [String.toList_ofList]
  exact isBlank_of_mem_encode small

/-- Octets that are the form of no text are, written in base64, the base64 of no text. -/
theorem encode_ne_encodeText {octets : List Nat} (small : ∀ o ∈ octets, o < 256)
    (none : textOf? octets = none) (s : String) :
    String.ofList (encode octets) ≠ encodeText s := by
  intro same
  -- Read again, the two written forms would give the same octets.
  have octetsOf_s : octets = octetsOf s := by
    have read := decode?_encode small
    rw [← String.toList_ofList (l := encode octets), same, encodeText, String.toList_ofList,
      decode?_encode lt_of_mem_octetsOf] at read
    exact (Option.some.inj read).symm
  rw [octetsOf_s, textOf?_octetsOf] at none
  cases none

/-- **Base64 of a text stands for the text, whatever blanks are around it, and nothing else
is touched.** A piece that does not stand for itself is, without the blanks around it, the
base64 of what it stands for; so any other piece stands for itself, blanks included, and one
such piece is the base64 of octets that are the form of no text. -/
theorem decodeData_undoes_encoding :
    (∀ s w w' : String, (∀ c ∈ w.toList, isBlank c = true) →
        (∀ c ∈ w'.toList, isBlank c = true) → decodeData (w ++ encodeText s ++ w') = s) ∧
      (∀ data, decodeData data ≠ data → trim data = encodeText (decodeData data)) ∧
      (∀ data, (∀ s, trim data ≠ encodeText s) → decodeData data = data) ∧
      ∀ (octets : List Nat) (w w' : String), (∀ o ∈ octets, o < 256) → textOf? octets = none →
        (∀ c ∈ w.toList, isBlank c = true) → (∀ c ∈ w'.toList, isBlank c = true) →
          decodeData (w ++ String.ofList (encode octets) ++ w') =
            w ++ String.ofList (encode octets) ++ w' := by
  refine ⟨fun s w w' blank blank' => ?_, fun data rewritten => ?_,
    fun _ => decodeData_eq_self_of_trim_ne, fun octets w w' small none blank blank' => ?_⟩
  · exact decodeData_eq_of_trim_eq (trim_encode lt_of_mem_octetsOf blank blank')
  · rcases Classical.em (∃ s, trim data = encodeText s) with ⟨s, written⟩ | none
    · rw [decodeData_eq_of_trim_eq written, written]
    · exact absurd (decodeData_eq_self_of_trim_ne fun s written => none ⟨s, written⟩) rewritten
  · refine decodeData_eq_self_of_trim_ne fun s written => ?_
    rw [trim_encode small blank blank'] at written
    exact encode_ne_encodeText small none s written

/-- A text with a character of two octets is read out of blanks that ASCII does not have; with
a bit set that the last group does not use, and with an octet that starts a character and
ends the text, the data stay as they are. -/
theorem decodeData_undoes_encoding_among_blanks :
    encodeText "gé\n" = "Z8OpCg==" ∧ decodeData "\u3000\tZ8OpCg==\u0085\n" = "gé\n" ∧
      trim "\u3000\tZ8OpCg==\u0085\n" = encodeText "gé\n" ∧
      decodeData " Z8OpCh==\n" = " Z8OpCh==\n" ∧
      encode [195] = "ww==".toList ∧ textOf? [195] = none ∧ decodeData " ww==\n" = " ww==\n" := by
  obtain ⟨undone, rewritten, kept, noText⟩ := decodeData_undoes_encoding
  -- Left to itself, instance search may find a way to decide this for every character there
  -- is, so it is put as a question about the list.
  have blank {w : String} (all : w.toList.all isBlank = true) :
      ∀ c ∈ w.toList, isBlank c = true :=
    List.all_eq_true.1 all
  have decoded : decodeData "\u3000\tZ8OpCg==\u0085\n" = "gé\n" :=
    undone "gé\n" "\u3000\t" "\u0085\n" (blank (by decide)) (blank (by decide))
  refine ⟨by decide, decoded, ?_, kept _ fun s written => ?_, by decide, by decide,
    noText [195] " " "\n" (by decide) (by decide) (blank (by decide)) (blank (by decide))⟩
  · rw [← decoded]
    exact rewritten _ (by rw [decoded]; decide)
  · have unread : decodeText? (trim " Z8OpCh==\n") = none := by decide
    rw [decodeText?_eq_some_iff.2 written] at unread
    cases unread

end WorkerGroup.Bootstrap
